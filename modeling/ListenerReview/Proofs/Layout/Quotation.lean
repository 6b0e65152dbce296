/-
  ListenerReview/Proofs/Layout/Quotation.lean
  ===========================================
  **Quotations in a text** — which quotation mark is open where, and what is left of
  a text when the blank characters outside its quotations are removed.

  Both are read off a text from left to right, by the same rule as the scan of a
  source: a quotation mark counts unless a backslash stands right before it.  The
  equations here say how they are read off texts put together, texts with blanks
  around them, and texts that start after some other character.
-/
import ListenerReview.Layout

namespace ListenerReview.Layout

/-! ### The open quotation mark -/

/-- The open quotation mark after one more character. -/
def quoteStep (previous quote : Option Char) (c : Char) : Option Char :=
  if quotes previous c then afterQuote quote c else quote

/-- The quotation mark that is open after a text, given the character before the text and the mark
    that is open there. -/
def quoteAfter (previous quote : Option Char) : List Char → Option Char
  | [] => quote
  | c :: rest => quoteAfter (some c) (quoteStep previous quote c) rest

theorem quotes_of_blank {c : Char} (h : Text.isBlank c = true) (previous : Option Char) :
    quotes previous c = false := by
  cases hquote : isQuote c with
  | false => simp [quotes, hquote]
  | true =>
    have hc : (c = '"' ∨ c = '\'') ∨ c = '\x60' := by simpa [isQuote] using hquote
    rcases hc with (rfl | rfl) | rfl <;> exact absurd h (by decide)

theorem quotes_of_ne {previous : Option Char} (h : previous ≠ some '\\') (c : Char) :
    quotes previous c = quotes none c := by
  have hbackslash : (previous != some '\\') = true := bne_iff_ne.mpr h
  rw [quotes, quotes, hbackslash]
  rfl

/-- The last character of a text, or the one before it if it is empty. -/
theorem getLast?_or_cons (c : Char) (s : List Char) (previous : Option Char) :
    s.getLast?.or (some c) = (c :: s).getLast?.or previous := by
  rw [List.getLast?_cons]
  cases s.getLast? <;> rfl

theorem quoteAfter_append (previous quote : Option Char) (a b : List Char) :
    quoteAfter previous quote (a ++ b) =
      quoteAfter (a.getLast?.or previous) (quoteAfter previous quote a) b := by
  induction a generalizing previous quote with
  | nil => rfl
  | cons c a ih =>
    simp only [List.cons_append, quoteAfter, ih, getLast?_or_cons c a previous]

theorem quoteAfter_blank (previous quote : Option Char) {s : List Char}
    (h : Text.allBlank s = true) : quoteAfter previous quote s = quote := by
  induction s generalizing previous with
  | nil => rfl
  | cons c s ih =>
    have hc : Text.isBlank c = true ∧ Text.allBlank s = true := by simpa [Text.allBlank] using h
    rw [quoteAfter, quoteStep, quotes_of_blank hc.1]
    exact ih (some c) hc.2

/-! ### The character before a text -/

/-- Two characters that may stand before a text and make no difference to its first character. -/
def Alike (a b : Option Char) (text : List Char) : Prop :=
  ∀ c, text.head? = some c → quotes a c = quotes b c

/-- What is no backslash is like nothing at all. -/
theorem alike_none {previous : Option Char} (h : previous ≠ some '\\') (text : List Char) :
    Alike previous none text := fun c _ => quotes_of_ne h c

theorem alike_cons {c : Char} (h : isQuote c = false) (a b : Option Char) (text : List Char) :
    Alike a b (c :: text) := by
  intro d hd
  cases hd
  simp [quotes, h]

/-- No blank character is a backslash. -/
theorem getLast?_ne_of_blank {s : List Char} (h : Text.allBlank s = true) :
    s.getLast? ≠ some '\\' := by
  intro hlast
  have hblank : Text.isBlank '\\' = true :=
    List.all_eq_true.mp h '\\' (List.mem_of_getLast? hlast)
  exact absurd hblank (by decide)

theorem quoteAfter_alike {a b : Option Char} {text : List Char} (h : Alike a b text)
    (quote : Option Char) : quoteAfter a quote text = quoteAfter b quote text := by
  cases text with
  | nil => rfl
  | cons c rest => rw [quoteAfter, quoteAfter, quoteStep, quoteStep, h c rfl]

/-- Blanks before a text open no quotation. -/
theorem quoteAfter_blank_append {s : List Char} (h : Text.allBlank s = true) (text : List Char) :
    quoteAfter none none (s ++ text) = quoteAfter none none text := by
  rw [quoteAfter_append, quoteAfter_blank none none h, Option.or_none]
  exact quoteAfter_alike (alike_none (getLast?_ne_of_blank h) text) none

/-! ### What is kept -/

/-- A character of a text and the quotation mark that is open before it. -/
structure Glyph where
  quote : Option Char
  char : Char
deriving DecidableEq, Repr

/-- What is left of a text without the blank characters outside its quotations, given the character
    before the text and the mark that is open there. -/
def keep (previous quote : Option Char) : List Char → List Glyph
  | [] => []
  | c :: rest =>
    if quote = none ∧ Text.isBlank c then keep (some c) none rest
    else ⟨quote, c⟩ :: keep (some c) (quoteStep previous quote c) rest

theorem keep_append (previous quote : Option Char) (a b : List Char) :
    keep previous quote (a ++ b) =
      keep previous quote a ++ keep (a.getLast?.or previous) (quoteAfter previous quote a) b := by
  induction a generalizing previous quote with
  | nil => rfl
  | cons c a ih =>
    simp only [List.cons_append, keep, quoteAfter, ih, getLast?_or_cons c a previous]
    split
    · next hskip =>
      rw [quoteStep, quotes_of_blank hskip.2, hskip.1]
      rfl
    · rfl

theorem keep_alike {a b : Option Char} {text : List Char} (h : Alike a b text)
    (quote : Option Char) : keep a quote text = keep b quote text := by
  cases text with
  | nil => rfl
  | cons c rest => rw [keep, keep, quoteStep, quoteStep, h c rfl]

/-- Of blanks, nothing is kept outside a quotation and everything inside one. -/
theorem keep_blank (previous quote : Option Char) {s : List Char} (h : Text.allBlank s = true) :
    keep previous quote s = if quote = none then [] else s.map (Glyph.mk quote) := by
  induction s generalizing previous with
  | nil => simp [keep]
  | cons c s ih =>
    have hc : Text.isBlank c = true ∧ Text.allBlank s = true := by simpa [Text.allBlank] using h
    by_cases hquote : quote = none
    · subst hquote
      simpa [keep, hc.1] using ih (some c) hc.2
    · have hrest := ih (some c) hc.2
      rw [if_neg hquote] at hrest
      rw [keep, if_neg (fun hskip => hquote hskip.1), quoteStep, quotes_of_blank hc.1,
        if_neg hquote, List.map_cons]
      exact congrArg _ hrest

/-- Of blanks before a text, nothing is kept. -/
theorem keep_blank_append {s : List Char} (h : Text.allBlank s = true) (text : List Char) :
    keep none none (s ++ text) = keep none none text := by
  rw [keep_append, keep_blank none none h, quoteAfter_blank none none h, Option.or_none]
  exact keep_alike (alike_none (getLast?_ne_of_blank h) text) none

/-! ### Trimmed texts -/

theorem quoteAfter_trim (s : List Char) :
    quoteAfter none none (Text.trim s) = quoteAfter none none s := by
  obtain ⟨before, after, hbefore, hafter, hs⟩ := Text.exists_blank_ends s
  have hcore : quoteAfter none none (before ++ Text.trim s) = quoteAfter none none (Text.trim s) :=
    quoteAfter_blank_append hbefore _
  calc quoteAfter none none (Text.trim s)
      = quoteAfter none none (before ++ Text.trim s) := hcore.symm
    _ = quoteAfter none none (before ++ Text.trim s ++ after) := by
        rw [quoteAfter_append none none _ after, quoteAfter_blank _ _ hafter]
    _ = quoteAfter none none s := by rw [← hs]

/-- Trimming a text takes from what is kept only blanks at the end of an open quotation. -/
theorem exists_keep_trim (s : List Char) :
    ∃ tail, Text.allBlank tail = true ∧
      keep none none s =
        keep none none (Text.trim s) ++ tail.map (Glyph.mk (quoteAfter none none s)) ∧
      (quoteAfter none none s = none → tail = []) := by
  obtain ⟨before, after, hbefore, hafter, hs⟩ := Text.exists_blank_ends s
  have hquote : quoteAfter none none (before ++ Text.trim s) = quoteAfter none none s := by
    rw [quoteAfter_blank_append hbefore, quoteAfter_trim]
  have hkeep : keep none none s = keep none none (Text.trim s) ++
      if quoteAfter none none s = none then []
      else after.map (Glyph.mk (quoteAfter none none s)) := by
    have happend := keep_append none none (before ++ Text.trim s) after
    rwa [← hs, keep_blank_append hbefore, keep_blank _ _ hafter, hquote] at happend
  by_cases hclosed : quoteAfter none none s = none
  · rw [if_pos hclosed] at hkeep
    exact ⟨[], rfl, hkeep, fun _ => rfl⟩
  · rw [if_neg hclosed] at hkeep
    exact ⟨after, hafter, hkeep, fun hnone => absurd hnone hclosed⟩

end ListenerReview.Layout
