/-
  ListenerReview/Markup/Escape.lean
  =================================
  **Escaping** — text made safe for any place in an HTML document: the five
  characters that could start or end a tag, a reference or a quoted attribute are
  written as references.
-/

namespace ListenerReview.Markup

/-- One character of an escaped text. -/
def escapeChar : Char → List Char
  | '&' => "&amp;".toList
  | '<' => "&lt;".toList
  | '>' => "&gt;".toList
  | '"' => "&quot;".toList
  | '\'' => "&#39;".toList
  | c => [c]

/-- The text with its special characters written as references. -/
def escape (s : List Char) : List Char := s.flatMap escapeChar

theorem escape_nil : escape [] = [] := rfl

theorem escape_cons (c : Char) (s : List Char) : escape (c :: s) = escapeChar c ++ escape s := rfl

theorem escape_append (s t : List Char) : escape (s ++ t) = escape s ++ escape t := by
  simp [escape, List.flatMap_append]

end ListenerReview.Markup
