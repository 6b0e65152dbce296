/-
  ListenerReview/Proofs/Layout/Levels.lean
  ========================================
  **The lines of a source, level by level** — the level of every line follows from the
  contents of the lines alone, and every content is in normal form.

  The depth of braces starts at zero.  A line that starts with a closing brace stands
  one level less deep than the line before it left off, and a line that ends with an
  opening brace outside quotations leaves off one level deeper (`levels`).  The scan
  changes its level in the middle of a line, and the line is written down later; what
  holds between the two is an invariant of the characters that wait for the end of
  their line (`Written`) and of the one that comes next (`Growing`).  `arranged_scan`
  carries it along the scan, one case for each of its steps.

  Main statements: `reformatString_levels`, which says what a layout consists of, for
  any indentation unit at all, and `reformatString_neat`.
-/
import ListenerReview.Proofs.Layout.NormalForm
import ListenerReview.Proofs.Layout.Relayout

namespace ListenerReview.Layout

/-! ### Levels of contents -/

def levelOf (depth : Nat) (content : List Char) : Nat :=
  if content.head? = some '}' then depth - 1 else depth

/-- Whether a content ends with an opening brace outside its quotations. -/
def opensBlock (content : List Char) : Bool :=
  content.getLast? == some '{' && quoteAfter none none content.dropLast == none

def depthAfter (level : Nat) (content : List Char) : Nat :=
  if opensBlock content then level + 1 else level

/-- The levels of lines with the given contents, from a depth on. -/
def levels : Nat → List (List Char) → List Nat
  | _, [] => []
  | depth, content :: contents =>
    levelOf depth content :: levels (depthAfter (levelOf depth content) content) contents

theorem opensBlock_iff (content : List Char) :
    opensBlock content = true ↔ ∃ before, Outside content before '{' [] := by
  constructor
  · intro h
    obtain ⟨hlast, hclosed⟩ : content.getLast? = some '{' ∧
        quoteAfter none none content.dropLast = none := by simpa [opensBlock] using h
    obtain ⟨before, rfl⟩ := List.getLast?_eq_some_iff.mp hlast
    exact ⟨before, rfl, by simpa using hclosed⟩
  · rintro ⟨before, rfl, hclosed⟩
    simp [opensBlock, hclosed]

theorem levelOf_append {content : List Char} (h : content ≠ []) (depth : Nat) (more : List Char) :
    levelOf depth (content ++ more) = levelOf depth content := by
  obtain ⟨c, content, rfl⟩ := List.exists_cons_of_ne_nil h
  rfl

theorem depthAfter_open {content : List Char} (h : quoteAfter none none content = none)
    (level : Nat) : depthAfter level (content ++ ['{']) = level + 1 := by
  rw [depthAfter, if_pos ((opensBlock_iff _).mpr ⟨content, rfl, h⟩)]

theorem levelOf_concat {c : Char} (h : c ≠ '}') (depth : Nat) (content : List Char) :
    levelOf depth (content ++ [c]) = levelOf depth content := by
  cases content with
  | nil => simp [levelOf, h]
  | cons d content => rfl

theorem depthAfter_concat {c : Char} (h : c ≠ '{') (level : Nat) (content : List Char) :
    depthAfter level (content ++ [c]) = level := by
  simp [depthAfter, opensBlock, h]

/-- Lines from a depth on, each in normal form and at the level of its content. -/
inductive Arranged : Nat → List Line → Prop
  | nil {depth : Nat} : Arranged depth []
  | cons {depth : Nat} {l : Line} {lines : List Line} (neat : Neat l.content)
      (level : l.level = levelOf depth l.content)
      (more : Arranged (depthAfter l.level l.content) lines) : Arranged depth (l :: lines)

theorem Arranged.levels_eq {depth : Nat} {lines : List Line} (h : Arranged depth lines) :
    lines.map Line.level = levels depth (lines.map Line.content) := by
  induction h with
  | nil => rfl
  | cons _ hlevel _ ih => rw [List.map_cons, List.map_cons, levels, ih, ← hlevel]

theorem Arranged.neat {depth : Nat} {lines : List Line} (h : Arranged depth lines) :
    ∀ l ∈ lines, Neat l.content := by
  induction h with
  | nil => simp
  | cons hneat _ _ ih =>
    intro l hl
    rcases List.mem_cons.mp hl with rfl | hl
    · exact hneat
    · exact ih l hl

/-! ### What waits for the end of its line -/

/-- What stands on a line so far, without the blanks before it. -/
def started (pending : List Char) : List Char := Text.trimStart pending.reverse

theorem ne_backslash_of_blank {c : Char} (h : Text.isBlank c = true) : some c ≠ some '\\' :=
  fun heq => ne_of_blank h (by decide) (Option.some.inj heq)

theorem started_eq_nil_iff (pending : List Char) :
    started pending = [] ↔ Text.allBlank pending = true := by
  rw [started, Text.trimStart_eq_nil_iff, Text.allBlank_reverse]

theorem started_cons_visible {c : Char} (h : Text.isBlank c = false) (pending : List Char) :
    started (c :: pending) = started pending ++ [c] := by
  rw [started, List.reverse_cons, Text.trimStart_append, started]
  split
  · next hblank =>
    rw [(Text.trimStart_eq_nil_iff _).mpr hblank, Text.trimStart_cons, h]
    rfl
  · rfl

theorem started_cons {pending : List Char} (h : started pending ≠ []) (c : Char) :
    started (c :: pending) = started pending ++ [c] := by
  have hvisible : ¬Text.allBlank pending = true := fun hblank =>
    h ((started_eq_nil_iff pending).mpr hblank)
  rw [started, List.reverse_cons, Text.trimStart_append, Text.allBlank_reverse, if_neg hvisible,
    started]

/-- A line lacks only blanks at the end of what stands on it. -/
theorem exists_started_eq (level : Nat) (pending : List Char) :
    ∃ blanks, Text.allBlank blanks = true ∧
      started pending = (line level pending).content ++ blanks := by
  have hend := List.takeWhile_append_dropWhile (p := Text.isBlank) (l := (started pending).reverse)
  refine ⟨((started pending).reverse.takeWhile Text.isBlank).reverse, ?_, ?_⟩
  · rw [Text.allBlank_reverse]
    exact List.all_takeWhile
  · rw [line, Text.trim, Text.trimEnd, ← started, ← List.reverse_append, hend,
      List.reverse_reverse]

theorem content_cons {c : Char} (h : Text.isBlank c = false) (level : Nat) (pending : List Char) :
    (line level (c :: pending)).content = started pending ++ [c] := by
  rw [line, Text.trim, ← started, started_cons_visible h, Text.trimEnd_append_singleton, h]
  rfl

theorem content_ne_nil (level : Nat) {pending : List Char} (h : started pending ≠ []) :
    (line level pending).content ≠ [] := by
  intro hnil
  rw [line, Text.trim_eq_nil_iff, Text.allBlank_reverse, ← started_eq_nil_iff] at hnil
  exact h hnil

/-- What stands on a line since the braces were as deep as `depth`. -/
structure Written (depth : Nat) (quote : Option Char) (level : Nat) (pending : List Char) :
    Prop where
  neat : Neat (started pending)
  quote_eq : quoteAfter none none (started pending) = quote
  level_eq : level = levelOf depth (started pending)

/-- What stands on a line that has not ended, with the character before the rest of the source. -/
structure Growing (depth : Nat) (previous quote : Option Char) (level : Nat)
    (pending rest : List Char) : Prop extends Written depth quote level pending where
  alike : Alike (started pending).getLast? previous rest
  not_open : ∀ before, ¬Outside (started pending) before '{' []
  semicolon : ∀ before, Outside (started pending) before ';' [] →
    breaksBefore staysWithSemicolon rest = false
  brace : started pending = ['}'] → breaksBefore staysWithBrace rest = false

variable {depth level : Nat} {previous quote : Option Char} {pending rest : List Char}

/-- Nothing stands on a line that starts. -/
theorem growing_blank (depth : Nat) (hblank : Text.allBlank pending = true)
    (halike : Alike previous none rest) : Growing depth previous none depth pending rest := by
  have hstarted : started pending = [] := (started_eq_nil_iff pending).mpr hblank
  constructor
  · constructor
    · rw [hstarted]
      exact neat_nil
    · rw [hstarted]
      rfl
    · rw [hstarted]
      rfl
  · intro c hc
    rw [hstarted]
    exact (halike c hc).symm
  · intro before h
    rw [hstarted] at h
    exact not_outside_nil h
  · intro before h
    rw [hstarted] at h
    exact absurd h not_outside_nil
  · intro h
    rw [hstarted] at h
    cases h

theorem Written.level_eq_depth (h : Written depth quote level pending)
    (hblank : started pending = []) : level = depth := by
  rw [h.level_eq, hblank]
  rfl

theorem Written.level_concat {c : Char} (h : Written depth quote level pending) (hc : c ≠ '}') :
    level = levelOf depth (started pending ++ [c]) := by
  rw [levelOf_concat hc]
  exact h.level_eq

theorem Written.started_ne_nil (h : Written depth quote level pending)
    (hopen : quote.isSome = true) : started pending ≠ [] := by
  intro hnil
  have hquote := h.quote_eq
  rw [hnil] at hquote
  rw [← hquote] at hopen
  cases hopen

/-- One more character is written. -/
theorem Growing.write {c : Char} {level' : Nat}
    (h : Growing depth previous quote level pending (c :: rest))
    (hstarted : started (c :: pending) = started pending ++ [c])
    (hbreak : quote = none → isBreak c = false)
    (hclose : quote = none → c = '}' → started pending = [])
    (hlevel : level' = levelOf depth (started pending ++ [c])) :
    Written depth (quoteStep previous quote c) level' (c :: pending) := by
  -- what the last character asks of the next one, unless it is quoted
  have hclosed {before : List Char} {d : Char} (hd : isQuote d = false)
      (hlast : Outside (started pending) before d []) : quote = none := by
    rw [← h.quote_eq]
    exact hlast.quoteAfter_eq hd
  constructor
  · rw [hstarted]
    apply h.neat.push
    · intro hnone
      exact hbreak (h.quote_eq.symm.trans hnone)
    · intro before hlast
      exact absurd hlast (h.not_open before)
    · intro hnone hc
      exact Or.inl (hclose (h.quote_eq.symm.trans hnone) hc)
    · intro before hlast
      have hstays := h.semicolon before hlast
      have hnot := hbreak (hclosed (by decide) hlast)
      simp only [breaksBefore, staysWithSemicolon, isBreak, Bool.not_eq_false', Bool.or_eq_true,
        Bool.or_eq_false_iff, beq_iff_eq, beq_eq_false_iff_ne] at hstays hnot
      rcases hstays with (hspace | hfeed) | hreturn
      · exact hspace
      · exact absurd hfeed hnot.1
      · exact absurd hreturn hnot.2
    · intro hone
      have hstays := h.brace hone
      have hnone : quote = none := by
        rw [← h.quote_eq, hone]
        decide
      have hne : c ≠ '}' := by
        intro hc
        rw [hclose hnone hc] at hone
        cases hone
      have hany : ((c = ',' ∨ c = ';') ∨ c = ')') ∨ c = '}' := by
        simpa only [breaksBefore, staysWithBrace, Bool.not_eq_false', Bool.or_eq_true,
          beq_iff_eq] using hstays
      rcases hany with ((hcomma | hsemicolon) | hparen) | hbrace
      · exact Or.inl hcomma
      · exact Or.inr (Or.inl hsemicolon)
      · exact Or.inr (Or.inr hparen)
      · exact absurd hbrace hne
  · rw [hstarted, quoteAfter_append, h.quote_eq, Option.or_none, quoteAfter, quoteStep, quoteAfter,
      quoteStep, h.alike c rfl]
  · rw [hstarted]
    exact hlevel

/-- One more character is written, and the line goes on. -/
theorem Growing.push {c : Char} {level' : Nat}
    (h : Growing depth previous quote level pending (c :: rest))
    (hstarted : started (c :: pending) = started pending ++ [c])
    (hbreak : quote = none → isBreak c = false)
    (hclose : quote = none → c = '}' → started pending = [])
    (hlevel : level' = levelOf depth (started pending ++ [c]))
    (hopen : quote = none → c ≠ '{')
    (hsemicolon : quote = none → c = ';' → breaksBefore staysWithSemicolon rest = false)
    (hbrace : started pending = [] → c = '}' → breaksBefore staysWithBrace rest = false) :
    Growing depth (some c) (quoteStep previous quote c) level' (c :: pending) rest := by
  -- a last character outside quotations is the new one
  have hlast {before : List Char} {d : Char} (hd : Outside (started (c :: pending)) before d []) :
      quote = none ∧ c = d := by
    rw [hstarted] at hd
    rcases outside_concat hd with ⟨-, -, rfl, hnone⟩ | ⟨init, hinit, -⟩
    · exact ⟨h.quote_eq.symm.trans hnone, rfl⟩
    · simp at hinit
  refine ⟨h.write hstarted hbreak hclose hlevel, ?_, ?_, ?_, ?_⟩
  · intro d _
    rw [hstarted, List.getLast?_concat]
  · intro before hd
    obtain ⟨hnone, hc⟩ := hlast hd
    exact hopen hnone hc
  · intro before hd
    obtain ⟨hnone, hc⟩ := hlast hd
    exact hsemicolon hnone hc
  · intro hone
    rw [hstarted, ← List.nil_append ['}']] at hone
    obtain ⟨hnil, hc⟩ := List.append_inj' hone rfl
    exact hbrace hnil (by simpa using hc)

/-- Whether a character outside quotations only waits for the end of its line. -/
def waits (c : Char) : Bool := c != '{' && c != '}' && c != ';' && !isBreak c

theorem waits_of_quotes {c : Char} (h : quotes previous c = true) :
    waits c = true ∧ Text.isBlank c = false := by
  obtain ⟨hmark, -⟩ : isQuote c = true ∧ (previous != some '\\') = true := by
    rwa [quotes, Bool.and_eq_true] at h
  have hc : (c = '"' ∨ c = '\'') ∨ c = '\x60' := by simpa [isQuote] using hmark
  rcases hc with (rfl | rfl) | rfl <;> decide

/-- A quoted character, or one that waits, is written. -/
theorem Growing.push_waiting {c : Char}
    (h : Growing depth previous quote level pending (c :: rest))
    (hstarted : started (c :: pending) = started pending ++ [c])
    (hwaits : quote = none → waits c = true) :
    Growing depth (some c) (quoteStep previous quote c) level (c :: pending) rest := by
  have hplain : quote = none → ((c ≠ '{' ∧ c ≠ '}') ∧ c ≠ ';') ∧ isBreak c = false := by
    simpa [waits] using hwaits
  apply h.push hstarted
  · intro hnone
    exact (hplain hnone).2
  · intro hnone hc
    exact absurd hc (hplain hnone).1.1.2
  · cases quote with
    | none => exact h.level_concat (hplain rfl).1.1.2
    | some q =>
      rw [levelOf_append (h.started_ne_nil rfl)]
      exact h.level_eq
  · intro hnone
    exact (hplain hnone).1.1.1
  · intro hnone hc
    exact absurd hc (hplain hnone).1.2
  · intro hnil hc
    cases quote with
    | none => exact absurd hc (hplain rfl).1.1.2
    | some q => exact absurd hnil (h.started_ne_nil rfl)

/-- An empty block is written, and the line goes on. -/
theorem Growing.push_block
    (h : Growing depth previous none level pending ('{' :: '}' :: rest)) :
    Growing depth (some '}') none level ('}' :: '{' :: pending) rest := by
  have hopen : started ('{' :: pending) = started pending ++ ['{'] :=
    started_cons_visible (by decide) pending
  have hblock : started ('}' :: '{' :: pending) = started pending ++ ['{'] ++ ['}'] := by
    rw [started_cons_visible (by decide), hopen]
  have hquote : quoteAfter none none (started pending ++ ['{'] ++ ['}']) = none := by
    rw [quoteAfter_concat _ (by decide), quoteAfter_concat _ (by decide)]
    exact h.quote_eq
  have hwritten := h.write hopen (fun _ => by decide) (fun _ hc => absurd hc (by decide))
    (h.level_concat (by decide))
  have hneat : Neat (started pending ++ ['{']) := hopen ▸ hwritten.neat
  -- a last character outside quotations is the closing brace
  have hlast {before : List Char} {d : Char}
      (hd : Outside (started ('}' :: '{' :: pending)) before d []) : '}' = d := by
    rw [hblock] at hd
    rcases outside_concat hd with ⟨-, -, rfl, -⟩ | ⟨init, hinit, -⟩
    · rfl
    · simp at hinit
  refine ⟨⟨?_, ?_, ?_⟩, ?_, ?_, ?_, ?_⟩
  · rw [hblock]
    apply hneat.push
    · intro _
      decide
    · intro _ _
      rfl
    · intro _ _
      exact Or.inr ⟨started pending, rfl, h.quote_eq⟩
    · intro before hd
      rcases outside_concat hd with ⟨-, -, hd, -⟩ | ⟨init, hinit, -⟩
      · exact absurd hd (by decide)
      · simp at hinit
    · intro hone
      rw [← List.nil_append ['}']] at hone
      obtain ⟨-, hc⟩ := List.append_inj' hone rfl
      exact absurd hc (by decide)
  · rw [hblock]
    exact hquote
  · rw [hblock, levelOf_append (by simp), levelOf_concat (by decide)]
    exact h.level_eq
  · intro d _
    rw [hblock, List.getLast?_concat]
  · intro before hd
    exact absurd (hlast hd) (by decide)
  · intro before hd
    exact absurd (hlast hd) (by decide)
  · intro hone
    rw [hblock] at hone
    simpa using congrArg List.length hone

/-! ### The end of a line -/

theorem Written.neat_line (h : Written depth quote level pending) :
    Neat (line level pending).content := by
  obtain ⟨blanks, -, hstarted⟩ := exists_started_eq level pending
  have hneat := h.neat
  rw [hstarted] at hneat
  exact hneat.of_append

theorem Written.level_line (h : Written depth quote level pending) (hne : started pending ≠ []) :
    level = levelOf depth (line level pending).content := by
  obtain ⟨blanks, -, hstarted⟩ := exists_started_eq level pending
  rw [← levelOf_append (content_ne_nil level hne) depth blanks, ← hstarted]
  exact h.level_eq

/-- A line ends with a character that is not blank. -/
theorem Written.arranged_cons {c : Char} {lines : List Line}
    (h : Written depth quote level (c :: pending)) (hc : Text.isBlank c = false)
    (hmore : Arranged (depthAfter level (started pending ++ [c])) lines) :
    Arranged depth (line level (c :: pending) :: lines) := by
  apply Arranged.cons h.neat_line (h.level_line _) _
  · rw [started_cons_visible hc]
    simp
  · rw [content_cons hc]
    exact hmore

/-- A line ends where it may go on. It ends with no opening brace. -/
theorem Growing.arranged {lines : List Line}
    (h : Growing depth previous quote level pending rest)
    (hvisible : Text.allBlank pending = false) (hmore : Arranged level lines) :
    Arranged depth (line level pending :: lines) := by
  have hne : started pending ≠ [] := by
    rw [ne_eq, started_eq_nil_iff, hvisible]
    decide
  obtain ⟨blanks, hblanks, hstarted⟩ := exists_started_eq level pending
  have hclosed : opensBlock (line level pending).content = false := by
    rw [Bool.eq_false_iff, ne_eq, opensBlock_iff]
    rintro ⟨before, hbefore⟩
    have hopen : Outside (started pending) before '{' blanks := by
      rw [hstarted]
      exact hbefore.append blanks
    rcases h.neat.opening before blanks hopen with rfl | hhead
    · exact h.not_open before hopen
    · obtain ⟨more, rfl⟩ := List.head?_eq_some_iff.mp hhead
      exact absurd hblanks (by simp [Text.allBlank_cons, show Text.isBlank '}' = false by decide])
  apply Arranged.cons h.neat_line (h.level_line hne)
  rw [depthAfter, hclosed, if_neg (by decide)]
  exact hmore

/-! ### Along the scan -/

/-- A closing brace starts a line, which ends at once or goes on. -/
theorem arranged_close (h : Growing depth previous none level pending ('}' :: rest))
    (hblank : Text.allBlank pending = true)
    (hbreak : Arranged (level - 1) (scan (some '}') none (level - 1) [] rest))
    (hstay : Growing depth (some '}') none (level - 1) ('}' :: pending) rest →
      Arranged depth (scan (some '}') none (level - 1) ('}' :: pending) rest)) :
    Arranged depth
      (if breaksBefore staysWithBrace rest then
        line (level - 1) ('}' :: pending) :: scan (some '}') none (level - 1) [] rest
      else scan (some '}') none (level - 1) ('}' :: pending) rest) := by
  have hnil : started pending = [] := (started_eq_nil_iff pending).mpr hblank
  have hone : started ('}' :: pending) = started pending ++ ['}'] :=
    started_cons_visible (by decide) pending
  have hlevel : level - 1 = levelOf depth (started pending ++ ['}']) := by
    rw [hnil, h.level_eq_depth hnil]
    rfl
  split
  · next hbreaks =>
    apply (h.write hone (fun _ => by decide) (fun _ _ => hnil) hlevel).arranged_cons (by decide)
    rw [depthAfter_concat (by decide)]
    exact hbreak
  · next hbreaks =>
    apply hstay
    exact h.push hone (fun _ => by decide) (fun _ _ => hnil) hlevel (fun _ => by decide)
      (fun _ hc => absurd hc (by decide)) (fun _ _ => by simpa using hbreaks)

/-- **Along the scan, every line is in normal form and at the level of its content.** -/
theorem arranged_scan (h : Growing depth previous quote level pending rest) :
    Arranged depth (scan previous quote level pending rest) := by
  fun_induction scan previous quote level pending rest generalizing depth with
  | case1 previous quote level pending =>
    -- the end of the source
    cases hblank : Text.allBlank pending with
    | true =>
      rw [lineIfAny, if_pos hblank]
      exact Arranged.nil
    | false =>
      rw [lineIfAny_of_visible level hblank]
      exact h.arranged hblank Arranged.nil
  | case2 previous quote level pending c rest hquote ih =>
    -- a quotation mark
    obtain ⟨hwaits, hvisible⟩ := waits_of_quotes hquote
    have hstep : quoteStep previous quote c = afterQuote quote c := by
      rw [quoteStep, if_pos hquote]
    rw [← hstep] at ih ⊢
    exact ih (h.push_waiting (started_cons_visible hvisible pending) fun _ => hwaits)
  | case3 previous quote level pending c rest hquote hopen ih =>
    -- inside a quotation
    have hstep : quoteStep previous quote c = quote := by
      rw [quoteStep, if_neg hquote]
    have hpush := h.push_waiting (started_cons (h.started_ne_nil hopen) c) fun hnone => by
      rw [hnone] at hopen
      cases hopen
    rw [hstep] at hpush
    exact ih hpush
  | case4 previous quote level pending hopen rest hquote ih =>
    -- an empty block stays on its line
    obtain rfl : quote = none := by simpa using hopen
    exact ih h.push_block
  | case5 previous quote level pending hopen rest hnext hquote ih =>
    -- a block opens and ends a line
    obtain rfl : quote = none := by simpa using hopen
    have hwrite := h.write (started_cons_visible (by decide) pending) (fun _ => by decide)
      (fun _ hc => absurd hc (by decide)) (h.level_concat (by decide))
    apply hwrite.arranged_cons (by decide)
    rw [depthAfter_open h.quote_eq]
    exact ih (growing_blank (level + 1) rfl (alike_none (by decide) rest))
  | case6 previous quote level pending rest hopen hquote hne ihbreak ihstay =>
    -- a block closes, after a line of its own or not
    obtain rfl : quote = none := by simpa using hopen
    have hbreak : Arranged (level - 1) (scan (some '}') none (level - 1) [] rest) :=
      ihbreak (growing_blank (level - 1) rfl (alike_none (by decide) rest))
    cases hblank : Text.allBlank pending with
    | true =>
      rw [beforeBrace, if_pos hblank] at ihstay
      rw [lineIfAny, if_pos hblank, List.nil_append, beforeBrace, if_pos hblank]
      exact arranged_close h hblank hbreak ihstay
    | false =>
      have hnone : beforeBrace pending = [] := by simp [beforeBrace, hblank]
      rw [hnone] at ihstay
      rw [lineIfAny_of_visible level hblank, hnone]
      have hstart : Growing level previous none level [] ('}' :: rest) :=
        growing_blank level rfl (alike_cons (by decide) _ _ rest)
      exact h.arranged hblank (arranged_close hstart rfl hbreak ihstay)
  | case7 previous quote level pending rest hopen hbreaks hquote hne hne' ih =>
    -- a semicolon that ends a line
    obtain rfl : quote = none := by simpa using hopen
    have hwrite := h.write (started_cons_visible (by decide) pending) (fun _ => by decide)
      (fun _ hc => absurd hc (by decide)) (h.level_concat (by decide))
    apply hwrite.arranged_cons (by decide)
    rw [depthAfter_concat (by decide)]
    exact ih (growing_blank level rfl (alike_none (by decide) rest))
  | case8 previous quote level pending rest hopen hbreaks hquote hne hne' ih =>
    -- a semicolon that waits for what follows
    obtain rfl : quote = none := by simpa using hopen
    apply ih
    apply h.push (started_cons_visible (by decide) pending)
    · exact fun _ => by decide
    · exact fun _ hc => absurd hc (by decide)
    · exact h.level_concat (by decide)
    · exact fun _ => by decide
    · exact fun _ _ => by simpa using hbreaks
    · exact fun _ hc => absurd hc (by decide)
  | case9 previous quote level pending c rest hquote hopen h1 h2 h3 hbreak hblank ih =>
    -- a line break after blanks
    obtain rfl : quote = none := by simpa using hopen
    obtain rfl : level = depth := h.level_eq_depth ((started_eq_nil_iff pending).mpr hblank)
    exact ih (growing_blank level hblank
      (alike_none (ne_backslash_of_blank (isBlank_of_isBreak hbreak)) rest))
  | case10 previous quote level pending c rest hquote hopen h1 h2 h3 hbreak hvisible ih =>
    -- a line break that ends a line
    obtain rfl : quote = none := by simpa using hopen
    exact h.arranged (by simpa using hvisible)
      (ih (growing_blank level rfl
        (alike_none (ne_backslash_of_blank (isBlank_of_isBreak hbreak)) rest)))
  | case11 previous quote level pending c rest hquote hopen h1 h2 h3 hbreak ih =>
    -- any other character
    obtain rfl : quote = none := by simpa using hopen
    have hpush (hstarted : started (c :: pending) = started pending ++ [c]) :
        Growing depth (some c) none level (c :: pending) rest := by
      have hwaits : waits c = true := by simp [waits, h1, h2, h3, hbreak]
      have hpush := h.push_waiting hstarted fun _ => hwaits
      rwa [quoteStep, if_neg hquote] at hpush
    apply ih
    cases hc : Text.isBlank c with
    | false => exact hpush (started_cons_visible hc pending)
    | true =>
      by_cases hnil : started pending = []
      · -- blanks before the line
        obtain rfl : level = depth := h.level_eq_depth hnil
        have hblank : Text.allBlank (c :: pending) = true := by
          rw [Text.allBlank_cons, hc, (started_eq_nil_iff pending).mp hnil]
          rfl
        exact growing_blank level hblank (alike_none (ne_backslash_of_blank hc) rest)
      · exact hpush (started_cons hnil c)

theorem arranged_lines (source : List Char) : Arranged 0 (lines source) :=
  arranged_scan (growing_blank 0 rfl fun _ _ => rfl)

/-! ### Whole layouts -/

theorem Laid.trim_content {lines : List Line} {source : List Char} (h : Laid depth source lines) :
    ∀ l ∈ lines, Text.trim l.content = l.content := by
  induction h with
  | done => simp
  | last hcontent =>
    intro l hl
    rw [List.mem_singleton.mp hl, hcontent, Text.trim_trim]
  | next hcontent _ _ _ _ _ ih =>
    intro l hl
    rcases List.mem_cons.mp hl with rfl | hl
    · rw [hcontent, Text.trim_trim]
    · exact ih l hl

/-- No line but the last one ends inside a quotation. -/
theorem Laid.closed_content {lines : List Line} {source : List Char}
    (h : Laid depth source lines) :
    ∀ l ∈ lines.dropLast, quoteAfter none none l.content = none := by
  induction h with
  | done => simp
  | last => simp
  | @next _ _ segment _ l lines hcontent _ hclosed _ _ _ ih =>
    intro d hd
    cases lines with
    | nil => simp at hd
    | cons e lines =>
      rw [List.dropLast_cons_cons] at hd
      rcases List.mem_cons.mp hd with rfl | hd
      · rw [hcontent, quoteAfter_trim]
        exact hclosed
      · exact ih d hd

theorem reformatString_lines (unit source : String) :
    reformatString unit source =
      String.ofList (['\n'].intercalate
        ((lines source.toList).map (Line.text unit.toList))) := by
  rw [reformatString, reformat, lineTexts_lines]

/-- **A layout is its lines at the levels that their contents ask for.**  The lines do not depend
    on the indentation unit, which is any text at all; none of them is left out, and none is empty
    or has blank ends. -/
theorem reformatString_levels (source : String) :
    (∀ unit : String,
      lineTexts unit.toList (lines source.toList) =
          (lines source.toList).map (Line.text unit.toList) ∧
        reformatString unit source =
          String.ofList (['\n'].intercalate
            ((lines source.toList).map (Line.text unit.toList)))) ∧
      (∀ l ∈ lines source.toList, l.content ≠ [] ∧ Text.trim l.content = l.content) ∧
      (lines source.toList).map Line.level =
        levels 0 ((lines source.toList).map Line.content) := by
  refine ⟨?_, ?_, (arranged_lines source.toList).levels_eq⟩
  · intro unit
    exact ⟨lineTexts_lines unit.toList source.toList, reformatString_lines unit source⟩
  · intro l hl
    have hlaid : Laid 0 source.toList (lines source.toList) := laid_lines source.toList
    refine ⟨?_, hlaid.trim_content l hl⟩
    intro hnil
    have hvisible := hlaid.visible_content l hl
    rw [hnil] at hvisible
    cases hvisible

/-- **The lines of a layout are in normal form.**  Quotations are read off each line by itself, and
    no line but the last one ends inside one. -/
theorem reformatString_neat (source : String) :
    (∀ unit : String, reformatString unit source =
        String.ofList (['\n'].intercalate
          ((lines source.toList).map (Line.text unit.toList)))) ∧
      (∀ l ∈ lines source.toList, Neat l.content) ∧
      ∀ l ∈ (lines source.toList).dropLast, quoteAfter none none l.content = none := by
  refine ⟨?_, (arranged_lines source.toList).neat, (laid_lines source.toList).closed_content⟩
  intro unit
  exact reformatString_lines unit source

end ListenerReview.Layout
