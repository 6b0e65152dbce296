/-
  ListenerReview/Layout.lean
  ==========================
  **Layout of source text** — breaking source at braces, semicolons and line breaks
  and indenting the lines by the depth of their braces.

  The source is scanned once from left to right.  What the scan yields does not
  depend on the indentation: a list of lines, each a level and a content
  (`Layout.scan`).  Quoted text is opaque, and a quotation mark after a backslash
  is no quotation mark.  Nothing is parsed: comments, patterns and templates get no
  treatment of their own.
-/
import ListenerReview.Text.Blank

namespace ListenerReview.Layout

/-- A line of laid-out source: how deep it is indented and what stands on it. -/
structure Line where
  level : Nat
  content : List Char
deriving DecidableEq, Repr

/-- The characters that open and close quoted text. -/
def isQuote (c : Char) : Bool := c == '"' || c == '\'' || c == '\x60'

/-- Whether a character opens or closes quoted text after the given one. -/
def quotes (previous : Option Char) (c : Char) : Bool := isQuote c && previous != some '\\'

/-- The open quotation mark after one more mark: it opens a quotation, closes one of its own kind
    and is part of one of another kind. -/
def afterQuote (quote : Option Char) (c : Char) : Option Char :=
  match quote with
  | none => some c
  | some q => if q = c then none else some q

/-- The characters that stay on the line of a closing brace. -/
def staysWithBrace (c : Char) : Bool := c == ',' || c == ';' || c == ')' || c == '}'

/-- The characters before which a semicolon ends no line. -/
def staysWithSemicolon (c : Char) : Bool := c == ' ' || c == '\n' || c == '\r'

def isBreak (c : Char) : Bool := c == '\n' || c == '\r'

/-- Whether there is a next character, and one outside the given class. -/
def breaksBefore (stays : Char → Bool) : List Char → Bool
  | [] => false
  | c :: _ => !stays c

/-- The line made of the pending characters, which are given in reverse. -/
def line (level : Nat) (pending : List Char) : Line := ⟨level, Text.trim pending.reverse⟩

/-- The line made of the pending characters unless they are blank. -/
def lineIfAny (level : Nat) (pending : List Char) : List Line :=
  if Text.allBlank pending then [] else [line level pending]

/-- What is pending after the line that ends before a closing brace: blanks end no line and stay. -/
def beforeBrace (pending : List Char) : List Char := if Text.allBlank pending then pending else []

/-- The lines of the rest of a source, given the character before it, the open quotation mark, the
    level, and the characters since the last line in reverse. -/
def scan (previous quote : Option Char) (level : Nat) (pending : List Char) :
    List Char → List Line
  | [] => lineIfAny level pending
  | c :: rest =>
    if quotes previous c then scan (some c) (afterQuote quote c) level (c :: pending) rest
    else if quote.isSome then scan (some c) quote level (c :: pending) rest
    else if c = '{' then
      match rest with
      | '}' :: rest => scan (some '}') none level ('}' :: '{' :: pending) rest
      | rest => line level ('{' :: pending) :: scan (some c) none (level + 1) [] rest
    else if c = '}' then
      lineIfAny level pending ++
        if breaksBefore staysWithBrace rest then
          line (level - 1) ('}' :: beforeBrace pending) :: scan (some c) none (level - 1) [] rest
        else scan (some c) none (level - 1) ('}' :: beforeBrace pending) rest
    else if c = ';' then
      if breaksBefore staysWithSemicolon rest then
        line level (';' :: pending) :: scan (some c) none level [] rest
      else scan (some c) none level (';' :: pending) rest
    else if isBreak c then
      if Text.allBlank pending then scan (some c) none level pending rest
      else line level pending :: scan (some c) none level [] rest
    else scan (some c) none level (c :: pending) rest

section Step

variable (previous : Option Char) (level : Nat) (pending rest : List Char)

theorem scan_nil (quote : Option Char) :
    scan previous quote level pending [] = lineIfAny level pending := by
  rw [scan]

theorem scan_quote {c : Char} (h : quotes previous c = true) (quote : Option Char) :
    scan previous quote level pending (c :: rest) =
      scan (some c) (afterQuote quote c) level (c :: pending) rest := by
  rw [scan.eq_def]
  exact if_pos h

theorem scan_quoted {quote : Option Char} {c : Char} (h : quotes previous c = false)
    (hopen : quote.isSome = true) :
    scan previous quote level pending (c :: rest) =
      scan (some c) quote level (c :: pending) rest := by
  rw [scan.eq_def]
  simp only [h, hopen, Bool.false_eq_true, ↓reduceIte]

theorem scan_pair :
    scan previous none level pending ('{' :: '}' :: rest) =
      scan (some '}') none level ('}' :: '{' :: pending) rest := by
  simp [scan, quotes, isQuote]

theorem scan_open (h : rest.head? ≠ some '}') :
    scan previous none level pending ('{' :: rest) =
      line level ('{' :: pending) :: scan (some '{') none (level + 1) [] rest := by
  have hquote : quotes previous '{' = false := by simp [quotes, isQuote]
  rw [scan.eq_def]
  simp only [hquote, Option.isSome_none, Bool.false_eq_true, ↓reduceIte]
  split
  · next rest => exact absurd rfl h
  · rfl

theorem scan_close :
    scan previous none level pending ('}' :: rest) =
      lineIfAny level pending ++
        if breaksBefore staysWithBrace rest then
          line (level - 1) ('}' :: beforeBrace pending) :: scan (some '}') none (level - 1) [] rest
        else scan (some '}') none (level - 1) ('}' :: beforeBrace pending) rest := by
  have hquote : quotes previous '}' = false := by simp [quotes, isQuote]
  rw [scan.eq_def]
  simp only [hquote, Option.isSome_none, Bool.false_eq_true, ↓reduceIte, Char.reduceEq]

theorem scan_semicolon :
    scan previous none level pending (';' :: rest) =
      if breaksBefore staysWithSemicolon rest then
        line level (';' :: pending) :: scan (some ';') none level [] rest
      else scan (some ';') none level (';' :: pending) rest := by
  have hquote : quotes previous ';' = false := by simp [quotes, isQuote]
  rw [scan.eq_def]
  simp only [hquote, Option.isSome_none, Bool.false_eq_true, ↓reduceIte, Char.reduceEq]

theorem scan_break {c : Char} (h : isBreak c = true) :
    scan previous none level pending (c :: rest) =
      if Text.allBlank pending then scan (some c) none level pending rest
      else line level pending :: scan (some c) none level [] rest := by
  have hc : c = '\n' ∨ c = '\r' := by simpa [isBreak] using h
  rw [scan.eq_def]
  rcases hc with rfl | rfl <;> simp [quotes, isQuote, isBreak]

/-- All other characters wait for the end of their line. -/
theorem scan_plain {c : Char} (hquote : quotes previous c = false) (hopen : c ≠ '{')
    (hclose : c ≠ '}') (hsemicolon : c ≠ ';') (hbreak : isBreak c = false) :
    scan previous none level pending (c :: rest) =
      scan (some c) none level (c :: pending) rest := by
  rw [scan.eq_def]
  simp only [hquote, Option.isSome_none, hopen, hclose, hsemicolon, hbreak, Bool.false_eq_true,
    ↓reduceIte]

end Step

def lines (source : List Char) : List Line := scan none none 0 [] source

def Line.text (unit : List Char) (l : Line) : List Char :=
  (List.replicate l.level unit).flatten ++ l.content

/-- The texts of lines that are not blank. -/
def lineTexts (unit : List Char) (lines : List Line) : List (List Char) :=
  (lines.map (Line.text unit)).filter (!Text.allBlank ·)

/-- A source laid out with the given indentation unit. -/
def reformat (unit source : List Char) : List Char :=
  ['\n'].intercalate (lineTexts unit (lines source))

/-- A source string laid out with the given indentation unit. -/
def reformatString (unit source : String) : String :=
  String.ofList (reformat unit.toList source.toList)

end ListenerReview.Layout
