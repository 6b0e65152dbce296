/-
  ListenerReview/Proofs/Layout/NormalForm.lean
  ============================================
  **The normal form of a line** — where braces, semicolons and line breaks may stand
  on a line of laid-out source.

  Only what stands outside quotations counts, read off the content of the line alone
  (`Outside`).  An opening brace ends its line unless it is closed at once, a closing
  brace starts its line unless it closes such an empty block, a semicolon ends its line
  or a blank follows, and there are no line breaks (`Neat`).

  A content grows character by character.  `Neat.push` says when the next one may be
  added; it looks at the last character alone, since what stands further left is between
  two characters already.  A neat content stays neat when its end is cut off
  (`Neat.of_append`), which is what trimming a line does.
-/
import ListenerReview.Proofs.Layout.Quotation

namespace ListenerReview.Layout

/-! ### Characters outside quotations -/

/-- A character of a text outside its quotations, what stands before it and what after it. -/
structure Outside (text before : List Char) (c : Char) (after : List Char) : Prop where
  split : text = before ++ c :: after
  closed : quoteAfter none none before = none

theorem not_outside_nil {before after : List Char} {c : Char} : ¬Outside [] before c after := by
  intro h
  simpa using h.split

theorem Outside.append {text before after : List Char} {c : Char}
    (h : Outside text before c after) (more : List Char) :
    Outside (text ++ more) before c (after ++ more) := by
  constructor
  · rw [h.split, List.append_assoc]
    rfl
  · exact h.closed

/-- A character of a text with one more character is the last one or one of the text. -/
theorem outside_concat {text before after : List Char} {c d : Char}
    (h : Outside (text ++ [c]) before d after) :
    (after = [] ∧ before = text ∧ d = c ∧ quoteAfter none none text = none) ∨
      ∃ init, after = init ++ [c] ∧ Outside text before d init := by
  have hsplit : text ++ [c] = before ++ d :: after := h.split
  rcases List.eq_nil_or_concat after with rfl | ⟨init, e, rfl⟩
  · obtain ⟨rfl, hd⟩ := List.append_inj' hsplit rfl
    obtain rfl : c = d := by simpa using hd
    exact Or.inl ⟨rfl, rfl, rfl, h.closed⟩
  · have hassoc : text ++ [c] = (before ++ d :: init) ++ [e] := by
      rw [hsplit, List.concat_eq_append, List.append_assoc]
      rfl
    obtain ⟨htext, he⟩ := List.append_inj' hassoc rfl
    obtain rfl : c = e := by simpa using he
    exact Or.inr ⟨init, List.concat_eq_append, htext, h.closed⟩

theorem quoteAfter_concat {previous quote : Option Char} (text : List Char) {c : Char}
    (h : isQuote c = false) :
    quoteAfter previous quote (text ++ [c]) = quoteAfter previous quote text := by
  rw [quoteAfter_append]
  simp [quoteAfter, quoteStep, quotes, h]

/-- After a last character outside quotations that opens none, a text is outside them. -/
theorem Outside.quoteAfter_eq {text before : List Char} {c : Char}
    (h : Outside text before c []) (hc : isQuote c = false) : quoteAfter none none text = none := by
  rw [h.split, quoteAfter_concat before hc]
  exact h.closed

/-! ### Neat contents -/

/-- The normal form of what stands on a line. -/
structure Neat (content : List Char) : Prop where
  unbroken : ∀ before c after, Outside content before c after → isBreak c = false
  opening : ∀ before after, Outside content before '{' after →
    after = [] ∨ after.head? = some '}'
  closing : ∀ before after, Outside content before '}' after →
    before = [] ∨ ∃ front, Outside content front '{' ('}' :: after)
  semicolon : ∀ before after, Outside content before ';' after →
    after = [] ∨ after.head? = some ' '
  start : ∀ c after, content = '}' :: c :: after → c = ',' ∨ c = ';' ∨ c = ')'

theorem neat_nil : Neat [] where
  unbroken _ _ _ h := absurd h not_outside_nil
  opening _ _ h := absurd h not_outside_nil
  closing _ _ h := absurd h not_outside_nil
  semicolon _ _ h := absurd h not_outside_nil
  start _ _ h := by cases h

theorem Neat.of_append {s t : List Char} (h : Neat (s ++ t)) : Neat s := by
  constructor
  · intro before c after hc
    exact h.unbroken before c (after ++ t) (hc.append t)
  · intro before after hopen
    rcases after with _ | ⟨d, after⟩
    · exact Or.inl rfl
    · exact Or.inr (by simpa using h.opening before _ (hopen.append t))
  · intro before after hclose
    rcases h.closing before _ (hclose.append t) with hnil | ⟨front, hfront⟩
    · exact Or.inl hnil
    · refine Or.inr ⟨front, ?_, hfront.closed⟩
      have hsplit : s ++ t = front ++ '{' :: '}' :: after ++ t := by
        rw [hfront.split]
        simp
      exact List.append_cancel_right hsplit
  · intro before after hsemicolon
    rcases after with _ | ⟨d, after⟩
    · exact Or.inl rfl
    · exact Or.inr (by simpa using h.semicolon before _ (hsemicolon.append t))
  · intro c after hs
    exact h.start c (after ++ t) (by rw [hs]; rfl)

/-- One more character keeps a content neat if it is no line break, follows an opening brace only
    to close it, closes nothing else than that or an outer block at the start, follows a semicolon
    only as a space, and stays with a closing brace at the start. -/
theorem Neat.push {content : List Char} {c : Char} (h : Neat content)
    (hbreak : quoteAfter none none content = none → isBreak c = false)
    (hopen : ∀ before, Outside content before '{' [] → c = '}')
    (hclose : quoteAfter none none content = none → c = '}' →
      content = [] ∨ ∃ before, Outside content before '{' [])
    (hsemicolon : ∀ before, Outside content before ';' [] → c = ' ')
    (hstart : content = ['}'] → c = ',' ∨ c = ';' ∨ c = ')') : Neat (content ++ [c]) := by
  constructor
  · intro before d after hd
    rcases outside_concat hd with ⟨-, -, rfl, hquote⟩ | ⟨init, -, hinit⟩
    · exact hbreak hquote
    · exact h.unbroken before d init hinit
  · intro before after hd
    rcases outside_concat hd with ⟨rfl, -⟩ | ⟨init, rfl, hinit⟩
    · exact Or.inl rfl
    · right
      rcases init with _ | ⟨d, init⟩
      · rw [hopen before hinit]
        rfl
      · simpa using h.opening before _ hinit
  · intro before after hd
    rcases outside_concat hd with ⟨rfl, rfl, rfl, hquote⟩ | ⟨init, rfl, hinit⟩
    · rcases hclose hquote rfl with hnil | ⟨front, hfront⟩
      · exact Or.inl hnil
      · exact Or.inr ⟨front, hfront.append ['}']⟩
    · rcases h.closing before init hinit with hnil | ⟨front, hfront⟩
      · exact Or.inl hnil
      · exact Or.inr ⟨front, hfront.append [c]⟩
  · intro before after hd
    rcases outside_concat hd with ⟨rfl, -⟩ | ⟨init, rfl, hinit⟩
    · exact Or.inl rfl
    · right
      rcases init with _ | ⟨d, init⟩
      · rw [hsemicolon before hinit]
        rfl
      · simpa using h.semicolon before _ hinit
  · intro d after hs
    rcases content with _ | ⟨e, _ | ⟨f, content⟩⟩
    · cases hs
    · obtain ⟨rfl, rfl, rfl⟩ : e = '}' ∧ c = d ∧ [] = after := by simpa using hs
      exact hstart rfl
    · obtain ⟨rfl, rfl, -⟩ : e = '}' ∧ f = d ∧ content ++ [c] = after := by simpa using hs
      exact h.start f content rfl

end ListenerReview.Layout
