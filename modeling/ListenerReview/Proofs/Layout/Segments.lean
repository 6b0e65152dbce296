/-
  ListenerReview/Proofs/Layout/Segments.lean
  ==========================================
  **The lines of a source are its segments.**

  `laid_scan` cuts every source into segments, one for each of its lines: the content
  of a line is its segment with the blank ends trimmed, all quotations of a segment
  are closed in it unless it is the last one, and what is left after the last segment
  is blank (`Laid`).

  A line is settled (`Settled`): its content alone, scanned at the level where its
  segment starts, gives this very line, and so it does with a line break and any other
  text after it.  That is what makes layouts stable.  It is proved along the scan by
  replaying it (`Reached`): the characters taken since the last line, read again from
  the start of the line and without their leading blanks, lead to the same pending
  characters, level and quotation.
-/
import ListenerReview.Proofs.Layout.Quotation

namespace ListenerReview.Layout

/-! ### What the scan does not see -/

theorem line_blank_start (level : Nat) (pending : List Char) {blanks : List Char}
    (h : Text.allBlank blanks = true) : line level (pending ++ blanks) = line level pending := by
  rw [line, line, Text.trim, Text.trim, List.reverse_append, Text.trimStart_append,
    Text.allBlank_reverse, if_pos h]

theorem lineIfAny_of_visible (level : Nat) {pending : List Char}
    (h : Text.allBlank pending = false) : lineIfAny level pending = [line level pending] := by
  simp [lineIfAny, h]

/-- Blanks at the start of a line are not seen. They stand at the end of the pending characters. -/
theorem scan_blank_start {blanks : List Char} (h : Text.allBlank blanks = true)
    (previous quote : Option Char) (level : Nat) (pending rest : List Char) :
    scan previous quote level (pending ++ blanks) rest =
      scan previous quote level pending rest := by
  have hall (p : List Char) : Text.allBlank (p ++ blanks) = Text.allBlank p := by
    rw [Text.allBlank_append, h, Bool.and_true]
  have hline (level : Nat) (p : List Char) : line level (p ++ blanks) = line level p :=
    line_blank_start level p h
  have hany (level : Nat) (p : List Char) : lineIfAny level (p ++ blanks) = lineIfAny level p := by
    rw [lineIfAny, lineIfAny, hall, hline]
  fun_induction scan previous quote level pending rest with
  | case1 previous quote level pending => rw [scan_nil, hany]
  | case2 previous quote level pending c rest hquote ih => rw [scan_quote _ _ _ _ hquote]; exact ih
  | case3 previous quote level pending c rest hquote hopen ih =>
    rw [scan_quoted _ _ _ _ (by simpa using hquote) hopen]
    exact ih
  | case4 previous quote level pending hopen rest hquote ih =>
    obtain rfl : quote = none := by simpa using hopen
    rw [scan_pair]
    exact ih
  | case5 previous quote level pending hopen rest hnext hquote ih =>
    obtain rfl : quote = none := by simpa using hopen
    have hhead : rest.head? ≠ some '}' := by
      intro hhead
      obtain ⟨tail, htail⟩ := List.head?_eq_some_iff.mp hhead
      exact hnext tail htail
    rw [scan_open _ _ _ _ hhead, ← List.cons_append, hline]
  | case6 previous quote level pending rest hopen hquote hne ihbreak ihstay =>
    obtain rfl : quote = none := by simpa using hopen
    -- the blanks stay before a brace exactly when the pending characters do
    have hbefore : line (level - 1) ('}' :: beforeBrace (pending ++ blanks)) =
          line (level - 1) ('}' :: beforeBrace pending) ∧
        scan (some '}') none (level - 1) ('}' :: beforeBrace (pending ++ blanks)) rest =
          scan (some '}') none (level - 1) ('}' :: beforeBrace pending) rest := by
      cases hblank : Text.allBlank pending with
      | true =>
        simp only [beforeBrace, hall, hblank, ↓reduceIte] at ihstay ⊢
        exact ⟨hline (level - 1) ('}' :: pending), ihstay⟩
      | false =>
        have hnone : beforeBrace (pending ++ blanks) = beforeBrace pending := by
          simp [beforeBrace, hall, hblank]
        rw [hnone]
        exact ⟨rfl, rfl⟩
    rw [scan_close, hany, hbefore.1, hbefore.2]
  | case7 previous quote level pending rest hopen hbreaks hquote hne hne' ih =>
    obtain rfl : quote = none := by simpa using hopen
    rw [scan_semicolon, if_pos hbreaks, ← List.cons_append, hline]
  | case8 previous quote level pending rest hopen hbreaks hquote hne hne' ih =>
    obtain rfl : quote = none := by simpa using hopen
    rw [scan_semicolon, if_neg hbreaks]
    exact ih
  | case9 previous quote level pending c rest hquote hopen h1 h2 h3 hbreak hblank ih =>
    obtain rfl : quote = none := by simpa using hopen
    rw [scan_break _ _ _ _ hbreak, hall, if_pos hblank]
    exact ih
  | case10 previous quote level pending c rest hquote hopen h1 h2 h3 hbreak hvisible ih =>
    obtain rfl : quote = none := by simpa using hopen
    rw [scan_break _ _ _ _ hbreak, hall, if_neg hvisible, hline]
  | case11 previous quote level pending c rest hquote hopen h1 h2 h3 hbreak ih =>
    obtain rfl : quote = none := by simpa using hopen
    rw [scan_plain _ _ _ _ (by simpa using hquote) h1 h2 h3 (by simpa using hbreak)]
    exact ih

theorem scan_alike {a b : Option Char} {rest : List Char} (h : Alike a b rest)
    (quote : Option Char) (level : Nat) (pending : List Char) :
    scan a quote level pending rest = scan b quote level pending rest := by
  cases rest with
  | nil => rw [scan_nil, scan_nil]
  | cons c rest => rw [scan.eq_def a, scan.eq_def b]; simp only [h c rfl]

theorem ne_of_blank {c : Char} (h : Text.isBlank c = true) {d : Char}
    (hd : Text.isBlank d = false) : c ≠ d := by
  rintro rfl
  rw [h] at hd
  cases hd

/-- Blanks between lines are passed over. -/
theorem scan_indent {blanks : List Char} (h : Text.allBlank blanks = true) (level : Nat)
    (rest : List Char) :
    scan none none level [] (blanks ++ rest) = scan none none level [] rest := by
  induction blanks with
  | nil => rfl
  | cons c blanks ih =>
    have hc : Text.isBlank c = true ∧ Text.allBlank blanks = true := by
      simpa [Text.allBlank] using h
    have hprevious : some c ≠ some '\\' := fun heq =>
      ne_of_blank hc.1 (by decide) (Option.some.inj heq)
    have hafter : scan (some c) none level [] (blanks ++ rest) = scan none none level [] rest := by
      rw [scan_alike (alike_none hprevious _)]
      exact ih hc.2
    rw [List.cons_append]
    cases hbreak : isBreak c with
    | true =>
      rw [scan_break _ _ _ _ hbreak]
      exact hafter
    | false =>
      rw [scan_plain _ _ _ _ (quotes_of_blank hc.1 none) (ne_of_blank hc.1 (by decide))
        (ne_of_blank hc.1 (by decide)) (ne_of_blank hc.1 (by decide)) hbreak]
      have hpending : Text.allBlank [c] = true := by simp [Text.allBlank, hc.1]
      exact (scan_blank_start hpending (some c) none level [] (blanks ++ rest)).trans hafter

/-- A line break ends a line that is not blank. -/
theorem scan_newline (previous : Option Char) (level : Nat) {pending : List Char}
    (h : Text.allBlank pending = false) (rest : List Char) :
    scan previous none level pending ('\n' :: rest) =
      line level pending :: scan none none level [] rest := by
  rw [scan_break _ _ _ _ (by decide), h, if_neg (by decide)]
  rw [scan_alike (alike_none (by decide) rest)]

/-! ### Settled lines and segments -/

/-- A line that its content alone gives again, from a level on, and that leaves the scan at the
    level `after` when something follows it. -/
structure Settled (level : Nat) (l : Line) (after : Nat) : Prop where
  alone : scan none none level [] l.content = [l]
  followed : ∀ rest, scan none none level [] (l.content ++ '\n' :: rest) =
    l :: scan none none after [] rest

/-- The segments of a source from a level on, and their lines. -/
inductive Laid : Nat → List Char → List Line → Prop
  /-- Nothing but blanks is left. -/
  | done {level : Nat} {source : List Char} (blank : Text.allBlank source = true) :
      Laid level source []
  /-- All that is left is one segment, in which a quotation may be open. -/
  | last {level : Nat} {source : List Char} {l : Line} (content : l.content = Text.trim source)
      (visible : Text.allBlank source = false)
      (alone : scan none none level [] l.content = [l]) : Laid level source [l]
  | next {level after : Nat} {segment rest : List Char} {l : Line} {lines : List Line}
      (content : l.content = Text.trim segment) (visible : Text.allBlank segment = false)
      (closed : quoteAfter none none segment = none) (settled : Settled level l after)
      (fresh : Alike segment.getLast? none rest) (more : Laid after rest lines) :
      Laid level (segment ++ rest) (l :: lines)

/-! ### The scan, replayed -/

/-- What ends a line: nothing more, or a line break outside quotations. -/
def EndsLine (quote : Option Char) (t : List Char) : Prop :=
  t = [] ∨ quote = none ∧ ∃ rest, t = '\n' :: rest

/-- The scan has taken some characters since the last line, which started at the level `start`.
    Reading them again from there leads to where it is, whatever comes next, as long as it starts
    as the rest does or ends the line. -/
structure Reached (start : Nat) (taken : List Char) (previous quote : Option Char) (level : Nat)
    (pending rest : List Char) : Prop where
  content : Text.trimStart taken = Text.trimStart pending.reverse
  quote_eq : quoteAfter none none taken = quote
  alike : Alike taken.getLast? previous rest
  level_eq : Text.allBlank taken = true → level = start
  replay : ∀ t, t.head? = rest.head? ∨ EndsLine quote t →
    scan none none start [] (Text.trimStart taken ++ t) = scan previous quote level pending t
  settle : ∀ t, EndsLine quote t →
    scan none none start [] (Text.trim taken ++ t) = scan previous quote level pending t

namespace Reached

variable {start level : Nat} {taken pending rest : List Char} {previous quote : Option Char}

theorem blank_iff (h : Reached start taken previous quote level pending rest) :
    Text.allBlank taken = Text.allBlank pending := by
  rw [Bool.eq_iff_iff, ← Text.allBlank_reverse pending, ← Text.trimStart_eq_nil_iff,
    ← Text.trimStart_eq_nil_iff, h.content]

theorem content_line (h : Reached start taken previous quote level pending rest) :
    (line level pending).content = Text.trim taken := by
  rw [line, Text.trim, Text.trim, h.content]

/-- Where nothing but blanks was taken since the last line, the line starts all over. -/
theorem of_blank (htaken : Text.allBlank taken = true) (hpending : Text.allBlank pending = true)
    (halike : Alike taken.getLast? previous rest) :
    Reached start taken previous none start pending rest := by
  have hstart : Text.trimStart taken = [] := (Text.trimStart_eq_nil_iff taken).mpr htaken
  have hreverse : Text.trimStart pending.reverse = [] := by
    rw [Text.trimStart_eq_nil_iff, Text.allBlank_reverse, hpending]
  have htrim : Text.trim taken = [] := by rw [Text.trim, hstart]; rfl
  have hscan (t : List Char) (ht : t.head? = rest.head? ∨ EndsLine none t) :
      scan none none start [] t = scan previous none start pending t := by
    have halike' : Alike previous none t := by
      intro c hc
      rcases ht with hhead | rfl | ⟨-, more, rfl⟩
      · rw [← halike c (hhead ▸ hc)]
        exact quotes_of_ne (getLast?_ne_of_blank htaken) c
      · cases hc
      · exact alike_cons (by decide) previous none more c hc
    rw [← scan_alike halike']
    exact (scan_blank_start hpending previous none start [] t).symm
  constructor
  · rw [hstart, hreverse]
  · exact quoteAfter_blank none none htaken
  · exact halike
  · exact fun _ => rfl
  · intro t ht
    rw [hstart]
    exact hscan t ht
  · intro t ht
    rw [htrim]
    exact hscan t (Or.inr ht)

/-- Characters that are not blank are taken, if the scan goes on with them pending. -/
theorem push (w : List Char) (level' : Nat) {quote' : Option Char}
    (h : Reached start taken previous quote level pending (w ++ rest))
    (hw : w ≠ []) (hvisible : w.any Text.isBlank = false)
    (hquote : quoteAfter previous quote w = quote')
    (hstep : ∀ t, t.head? = rest.head? ∨ EndsLine quote' t →
      scan previous quote level pending (w ++ t) =
        scan w.getLast? quote' level' (w.reverse ++ pending) t) :
    Reached start (taken ++ w) w.getLast? quote' level' (w.reverse ++ pending) rest := by
  obtain ⟨c, v, rfl⟩ := List.exists_cons_of_ne_nil hw
  have hall : ∀ d ∈ c :: v, Text.isBlank d = false := by simpa using hvisible
  have hc : Text.isBlank c = false := hall c List.mem_cons_self
  have hnot : Text.allBlank (taken ++ c :: v) = false := by
    rw [Text.allBlank_append, Text.allBlank_cons, hc, Bool.false_and, Bool.and_false]
  -- nothing of the new characters is trimmed, at either end
  have hstart (s : List Char) : Text.trimStart (s ++ c :: v) = Text.trimStart s ++ c :: v := by
    rw [Text.trimStart_append]
    split
    · next hblank =>
      rw [(Text.trimStart_eq_nil_iff s).mpr hblank, Text.trimStart_cons, hc]
      rfl
    · rfl
  have hend : Text.trim (taken ++ c :: v) = Text.trimStart taken ++ c :: v := by
    obtain ⟨init, d, hinit⟩ := List.eq_nil_or_concat (c :: v) |>.resolve_left (by simp)
    have hd : Text.isBlank d = false := hall d (by rw [hinit]; simp)
    rw [Text.trim, hstart, hinit, List.concat_eq_append, ← List.append_assoc,
      Text.trimEnd_append_singleton, hd]
    rfl
  have hreplay (t : List Char) (ht : t.head? = rest.head? ∨ EndsLine quote' t) :
      scan none none start [] (Text.trimStart taken ++ c :: v ++ t) =
        scan (c :: v).getLast? quote' level' ((c :: v).reverse ++ pending) t := by
    rw [List.append_assoc, ← hstep t ht]
    exact h.replay ((c :: v) ++ t) (Or.inl rfl)
  constructor
  · rw [hstart, List.reverse_append, List.reverse_reverse, hstart, h.content]
  · rw [quoteAfter_append, h.quote_eq, Option.or_none, ← hquote]
    apply quoteAfter_alike
    intro d hd
    exact h.alike d (by simpa using hd)
  · intro d hd
    rw [List.getLast?_append, List.getLast?_cons, Option.some_or]
  · intro hblank
    rw [hnot] at hblank
    cases hblank
  · intro t ht
    rw [hstart]
    exact hreplay t ht
  · intro t ht
    rw [hend]
    exact hreplay t (Or.inr ht)

/-- A blank character is taken within a line, if the scan goes on with it pending. -/
theorem take_blank {c : Char} (h : Reached start taken previous quote level pending (c :: rest))
    (hc : Text.isBlank c = true) (htaken : Text.allBlank taken = false)
    (hstep : ∀ t, scan previous quote level pending (c :: t) =
      scan (some c) quote level (c :: pending) t) :
    Reached start (taken ++ [c]) (some c) quote level (c :: pending) rest := by
  have hone : Text.allBlank [c] = true := by simp [Text.allBlank, hc]
  have hpending : Text.allBlank pending = false := by rw [← h.blank_iff, htaken]
  have hpending' : Text.allBlank (c :: pending) = false := by
    rw [Text.allBlank_cons, hpending, Bool.and_false]
  have hline : line level (c :: pending) = line level pending := by
    rw [line, line, List.reverse_cons, Text.trim_append_of_blank _ hone]
  have hstart : Text.trimStart (taken ++ [c]) = Text.trimStart taken ++ [c] := by
    rw [Text.trimStart_append, htaken, if_neg (by decide)]
  constructor
  · rw [hstart, List.reverse_cons, Text.trimStart_append, Text.allBlank_reverse, hpending,
      if_neg (by decide), h.content]
  · rw [quoteAfter_append, h.quote_eq, quoteAfter_blank _ _ hone]
  · intro d hd
    rw [List.getLast?_concat]
  · intro hblank
    rw [Text.allBlank_append, htaken] at hblank
    cases hblank
  · intro t _
    rw [hstart, List.append_assoc, ← hstep t]
    exact h.replay ([c] ++ t) (Or.inl rfl)
  · intro t ht
    rw [Text.trim_append_of_blank _ hone, h.settle t ht]
    rcases ht with rfl | ⟨rfl, more, rfl⟩
    · rw [scan_nil, scan_nil, lineIfAny_of_visible level hpending,
        lineIfAny_of_visible level hpending', hline]
    · rw [scan_newline _ _ hpending, scan_newline _ _ hpending', hline]

/-- One character is taken that no quotation starts or ends with, if the scan goes on with it
    pending. -/
theorem take {c : Char} (h : Reached start taken previous quote level pending (c :: rest))
    (hquote : quotes previous c = false)
    (hstep : ∀ t, scan previous quote level pending (c :: t) =
      scan (some c) quote level (c :: pending) t) :
    Reached start (taken ++ [c]) (some c) quote level (c :: pending) rest := by
  cases hc : Text.isBlank c with
  | false =>
    have hsame : quoteAfter previous quote [c] = quote := by
      simp [quoteAfter, quoteStep, hquote]
    exact push [c] level h (by simp) (by simpa using hc) hsame fun t _ => hstep t
  | true =>
    cases htaken : Text.allBlank taken with
    | false => exact take_blank h hc htaken hstep
    | true =>
      have hpending : Text.allBlank pending = true := by rw [← h.blank_iff, htaken]
      obtain rfl : level = start := h.level_eq htaken
      obtain rfl : none = quote := by
        rw [← h.quote_eq, quoteAfter_blank none none htaken]
      apply of_blank
      · rw [Text.allBlank_append, htaken, Text.allBlank_cons, hc]
        rfl
      · rw [Text.allBlank_cons, hc, hpending]
        rfl
      · intro d hd
        rw [List.getLast?_concat]

/-- A line that ends where the scan is, outside quotations, is settled. -/
theorem settled (h : Reached start taken previous none level pending rest)
    (hvisible : Text.allBlank pending = false) : Settled start (line level pending) level where
  alone := by
    rw [h.content_line]
    have hend := h.settle [] (Or.inl rfl)
    rwa [List.append_nil, scan_nil, lineIfAny_of_visible level hvisible] at hend
  followed rest := by
    rw [h.content_line, h.settle ('\n' :: rest) (Or.inr ⟨rfl, rest, rfl⟩)]
    exact scan_newline previous level hvisible rest

end Reached

/-! ### Every source is laid out in segments -/

variable {start level : Nat} {taken pending rest : List Char} {previous : Option Char}

theorem reached_start (level : Nat) (h : Alike previous none rest) :
    Reached level [] previous none level [] rest :=
  Reached.of_blank rfl rfl fun c hc => (h c hc).symm

/-- A line break between lines is passed over. -/
theorem scan_linefeed (level : Nat) (rest : List Char) :
    scan none none level [] ('\n' :: rest) = scan none none level [] rest :=
  scan_indent (show Text.allBlank ['\n'] = true by decide) level rest

theorem breaksBefore_congr (stays : Char → Bool) {s t : List Char} (h : s.head? = t.head?) :
    breaksBefore stays s = breaksBefore stays t := by
  cases s <;> cases t <;> simp_all [breaksBefore]

theorem isBlank_of_isBreak {c : Char} (h : isBreak c = true) : Text.isBlank c = true := by
  have hc : c = '\n' ∨ c = '\r' := by simpa [isBreak] using h
  rcases hc with rfl | rfl <;> decide

/-- A line that ends with the next character is settled if the scan ends it there whether nothing
    more comes or a line break. -/
theorem laid_with {c : Char} {ended after : Nat} {lines : List Line}
    (h : Reached start taken previous none level pending (c :: rest))
    (hc : Text.isBlank c = false) (hquote : isQuote c = false) (hbackslash : some c ≠ some '\\')
    (halone : scan previous none level pending [c] = [line ended (c :: pending)])
    (hfollowed : ∀ more, scan previous none level pending (c :: '\n' :: more) =
      line ended (c :: pending) :: scan none none after [] more)
    (hmore : Laid after rest lines) :
    Laid start (taken ++ c :: rest) (line ended (c :: pending) :: lines) := by
  have htrim : Text.trim (taken ++ [c]) = Text.trimStart taken ++ [c] := Text.trim_concat taken hc
  have hcontent : (line ended (c :: pending)).content = Text.trim (taken ++ [c]) := by
    rw [line, List.reverse_cons, Text.trim_concat _ hc, htrim, h.content]
  have hclosed : quoteAfter none none (taken ++ [c]) = none := by
    rw [quoteAfter_append, h.quote_eq]
    simp [quoteAfter, quoteStep, quotes, hquote]
  rw [List.append_cons]
  apply Laid.next hcontent _ hclosed _ _ hmore
  · rw [Text.allBlank_append, Text.allBlank_cons, hc, Bool.false_and, Bool.and_false]
  · constructor
    · rw [hcontent, htrim, ← halone]
      exact h.replay [c] (Or.inl rfl)
    · intro more
      rw [hcontent, htrim, List.append_assoc, ← hfollowed more]
      exact h.replay (c :: '\n' :: more) (Or.inl rfl)
  · rw [List.getLast?_concat]
    exact alike_none hbackslash rest

/-- A brace that closes a block ends a line of its own or waits for what stays with it. -/
theorem laid_close (h : Reached start taken previous none level pending ('}' :: rest))
    (htaken : Text.allBlank taken = true)
    (hbreak : Laid (level - 1) rest (scan (some '}') none (level - 1) [] rest))
    (hstay : Reached start (taken ++ ['}']) (some '}') none (level - 1) ('}' :: pending) rest →
      Laid start (taken ++ ['}'] ++ rest)
        (scan (some '}') none (level - 1) ('}' :: pending) rest)) :
    Laid start (taken ++ '}' :: rest) (scan previous none level pending ('}' :: rest)) := by
  obtain rfl : level = start := h.level_eq htaken
  have hpending : Text.allBlank pending = true := by rw [← h.blank_iff, htaken]
  have hscan (t : List Char) : scan previous none level pending ('}' :: t) =
      if breaksBefore staysWithBrace t then
        line (level - 1) ('}' :: pending) :: scan (some '}') none (level - 1) [] t
      else scan (some '}') none (level - 1) ('}' :: pending) t := by
    rw [scan_close, lineIfAny, beforeBrace, if_pos hpending, if_pos hpending, List.nil_append]
  have hpending' : Text.allBlank ('}' :: pending) = false := rfl
  cases hbreaks : breaksBefore staysWithBrace rest with
  | true =>
    rw [hscan, if_pos hbreaks]
    apply laid_with h (by decide) (by decide) (by decide) _ _ hbreak
    · rw [hscan, if_neg (by simp [breaksBefore]), scan_nil, lineIfAny_of_visible _ hpending']
    · intro more
      rw [hscan, if_pos (by rfl), scan_alike (alike_none (by decide) _), scan_linefeed]
  | false =>
    rw [hscan, if_neg (by simp [hbreaks]), List.append_cons]
    have hnone : quoteAfter previous none ['}'] = none := by
      simp [quoteAfter, quoteStep, quotes, isQuote]
    apply hstay
    apply h.push ['}'] (level - 1) (by simp) (by decide) hnone
    intro t ht
    rw [List.singleton_append, hscan]
    rcases ht with hhead | rfl | ⟨-, more, rfl⟩
    · rw [if_neg (by rw [breaksBefore_congr _ hhead, hbreaks]; decide)]
      rfl
    · rfl
    · rw [if_pos (by rfl), scan_alike (alike_none (by decide) _), scan_linefeed]
      exact (scan_newline _ _ hpending' more).symm

/-- **Every source is laid out in segments.**  Along the scan, a source is the characters taken
    since the last line and the rest. -/
theorem laid_scan {quote : Option Char}
    (h : Reached start taken previous quote level pending rest) :
    Laid start (taken ++ rest) (scan previous quote level pending rest) := by
  fun_induction scan previous quote level pending rest generalizing start taken with
  | case1 previous quote level pending =>
    -- the end of the source
    cases hblank : Text.allBlank pending with
    | true =>
      rw [lineIfAny, if_pos hblank, List.append_nil]
      exact Laid.done (h.blank_iff.trans hblank)
    | false =>
      rw [lineIfAny_of_visible level hblank, List.append_nil]
      apply Laid.last h.content_line (h.blank_iff.trans hblank)
      have hend := h.settle [] (Or.inl rfl)
      rwa [List.append_nil, ← h.content_line, scan_nil, lineIfAny_of_visible level hblank] at hend
  | case2 previous quote level pending c rest hquote ih =>
    -- a quotation mark
    have hstep : quoteAfter previous quote [c] = afterQuote quote c := by
      simp [quoteAfter, quoteStep, hquote]
    have hvisible : Text.isBlank c = false := by
      cases hc : Text.isBlank c with
      | false => rfl
      | true => rw [quotes_of_blank hc] at hquote; cases hquote
    rw [List.append_cons]
    apply ih
    apply h.push [c] level (by simp) (by simpa using hvisible) hstep
    exact fun t _ => scan_quote _ _ _ _ hquote quote
  | case3 previous quote level pending c rest hquote hopen ih =>
    -- inside a quotation
    have hnot : quotes previous c = false := by simpa using hquote
    rw [List.append_cons]
    exact ih (h.take hnot fun t => scan_quoted _ _ _ _ hnot hopen)
  | case4 previous quote level pending hopen rest hquote ih =>
    -- an empty block stays on its line
    obtain rfl : quote = none := by simpa using hopen
    have hnone : quoteAfter previous none ['{', '}'] = none := by
      simp [quoteAfter, quoteStep, quotes, isQuote]
    rw [show taken ++ '{' :: '}' :: rest = taken ++ ['{', '}'] ++ rest by simp]
    apply ih
    apply h.push ['{', '}'] level (by simp) (by decide) hnone
    exact fun t _ => scan_pair _ _ _ _
  | case5 previous quote level pending hopen rest hnext hquote ih =>
    -- a block opens and ends a line
    obtain rfl : quote = none := by simpa using hopen
    apply laid_with h (by decide) (by decide) (by decide) _ _
      (ih (reached_start (level + 1) (alike_none (by decide) rest)))
    · rw [scan_open _ _ _ _ (by simp), scan_nil]
      rfl
    · intro more
      rw [scan_open _ _ _ _ (by simp), scan_alike (alike_none (by decide) _), scan_linefeed]
  | case6 previous quote level pending rest hopen hquote hne ihbreak ihstay =>
    -- a block closes, after a line of its own or not
    obtain rfl : quote = none := by simpa using hopen
    have hbreak : Laid (level - 1) rest (scan (some '}') none (level - 1) [] rest) :=
      ihbreak (reached_start (level - 1) (alike_none (by decide) rest))
    rw [← scan_close]
    cases hblank : Text.allBlank pending with
    | true =>
      rw [beforeBrace, if_pos hblank] at ihstay
      exact laid_close h (h.blank_iff.trans hblank) hbreak ihstay
    | false =>
      rw [beforeBrace, if_neg (by simp [hblank])] at ihstay
      have hstart : Reached level [] previous none level [] ('}' :: rest) :=
        reached_start level (alike_cons (by decide) _ _ _)
      -- the line ends before the brace, which is scanned as the first character of the next one
      have hnone : beforeBrace pending = beforeBrace [] := by simp [beforeBrace, hblank]
      have hsplit : scan previous none level pending ('}' :: rest) =
          line level pending :: scan previous none level [] ('}' :: rest) := by
        rw [scan_close, scan_close, lineIfAny_of_visible level hblank, hnone]
        rfl
      rw [hsplit]
      exact Laid.next h.content_line (h.blank_iff.trans hblank) h.quote_eq (h.settled hblank)
        (alike_cons (by decide) _ _ _) (laid_close hstart rfl hbreak ihstay)
  | case7 previous quote level pending rest hopen hbreaks hquote hne hne' ih =>
    -- a semicolon that ends a line
    obtain rfl : quote = none := by simpa using hopen
    apply laid_with h (by decide) (by decide) (by decide) _ _
      (ih (reached_start level (alike_none (by decide) rest)))
    · rw [scan_semicolon, if_neg (by simp [breaksBefore]), scan_nil]
      rfl
    · intro more
      rw [scan_semicolon, if_neg (by simp [breaksBefore, staysWithSemicolon])]
      exact scan_newline _ _ rfl more
  | case8 previous quote level pending rest hopen hbreaks hquote hne hne' ih =>
    -- a semicolon that waits for what follows, which may also be the end of the line
    obtain rfl : quote = none := by simpa using hopen
    have hnone : quoteAfter previous none [';'] = none := by
      simp [quoteAfter, quoteStep, quotes, isQuote]
    rw [List.append_cons]
    apply ih
    apply h.push [';'] level (by simp) (by decide) hnone
    intro t ht
    rw [List.singleton_append, scan_semicolon]
    rcases ht with hhead | rfl | ⟨-, more, rfl⟩
    · rw [if_neg (by rw [breaksBefore_congr _ hhead]; exact hbreaks)]
      rfl
    · rfl
    · rfl
  | case9 previous quote level pending c rest hquote hopen h1 h2 h3 hbreak hblank ih =>
    -- a line break after blanks
    obtain rfl : quote = none := by simpa using hopen
    have htaken : Text.allBlank taken = true := h.blank_iff.trans hblank
    obtain rfl : level = start := h.level_eq htaken
    rw [List.append_cons]
    apply ih
    apply Reached.of_blank _ hblank
    · intro d hd
      rw [List.getLast?_concat]
    · rw [Text.allBlank_append, htaken, Text.allBlank_cons, isBlank_of_isBreak hbreak]
      rfl
  | case10 previous quote level pending c rest hquote hopen h1 h2 h3 hbreak hvisible ih =>
    -- a line break that ends a line
    obtain rfl : quote = none := by simpa using hopen
    have hblank : Text.allBlank pending = false := by simpa using hvisible
    have hone : Text.allBlank [c] = true := by
      rw [Text.allBlank_cons, isBlank_of_isBreak hbreak]
      rfl
    have hmark : some c ≠ some '\\' := getLast?_ne_of_blank hone
    rw [List.append_cons]
    apply Laid.next _ _ _ (h.settled hblank) _ (ih (reached_start level (alike_none hmark rest)))
    · rw [h.content_line, Text.trim_append_of_blank _ hone]
    · rw [Text.allBlank_append, h.blank_iff, hblank]
      rfl
    · rw [quoteAfter_append, h.quote_eq, quoteAfter_blank _ _ hone]
    · rw [List.getLast?_concat]
      exact alike_none hmark rest
  | case11 previous quote level pending c rest hquote hopen h1 h2 h3 hbreak ih =>
    -- any other character
    obtain rfl : quote = none := by simpa using hopen
    have hnot : quotes previous c = false := by simpa using hquote
    rw [List.append_cons]
    exact ih (h.take hnot fun t => scan_plain _ _ _ _ hnot h1 h2 h3 (by simpa using hbreak))

end ListenerReview.Layout
