/-
  ListenerReview/Proofs/Highlight/Priority.lean
  =============================================
  **Which occurrences are marked** — the marks of a text are those of a greedy
  choice, first by match order and then from left to right.

  `Prioritized` says this of pieces without a word about passes: an occurrence of a
  term that is not marked shares a character with the mark of an earlier term, or
  with a mark of the same term that starts no later.  Pieces of a text that obey it
  have the same marks (`Prioritized.mem_marksOf`), and the pieces that the passes
  make obey it (`prioritized_pieces`).

  The passes need one more invariant, `Solid`: a stretch of the text that meets no
  mark lies inside one left-over piece.  Left-over pieces are searched one by one,
  so without it an occurrence across two of them would be missed.
-/
import ListenerReview.Proofs.Highlight.Order
import ListenerReview.Proofs.Highlight.Pieces

namespace ListenerReview.Highlighter

/-! ### Marks and their places -/

/-- A mark in a text: the rank of its term in match order, where it starts, and its term. -/
structure Mark where
  rank : Nat
  start : Nat
  term : Term
deriving DecidableEq, Repr

def Mark.stop (m : Mark) : Nat := m.start + m.term.text.length

theorem Mark.eq_of_place {terms : List Term} {m m' : Mark} (hm : terms[m.rank]? = some m.term)
    (hm' : terms[m'.rank]? = some m'.term) (hrank : m.rank = m'.rank)
    (hstart : m.start = m'.start) : m = m' := by
  rw [hrank, hm', Option.some.injEq] at hm
  cases m
  cases m'
  simp_all

/-- Whether a mark shares a character with the stretch of the given start and length. -/
def Mark.Meets (m : Mark) (start length : Nat) : Prop :=
  m.start < start + length ∧ start < m.stop

/-- Whether a mark comes before another in a greedy choice: that of the earlier term, and of one
    term the one further left. -/
def Mark.Before (m m' : Mark) : Prop :=
  m.rank < m'.rank ∨ m.rank = m'.rank ∧ m.start < m'.start

/-- The marks of pieces that start at the given place. -/
def marksFrom : Nat → List Piece → List Mark
  | _, [] => []
  | place, .plain text :: ps => marksFrom (place + text.length) ps
  | place, .marked rank term :: ps =>
    ⟨rank, place, term⟩ :: marksFrom (place + term.text.length) ps

def marksOf (ps : List Piece) : List Mark := marksFrom 0 ps

theorem marksFrom_append (place : Nat) (ps qs : List Piece) :
    marksFrom place (ps ++ qs) =
      marksFrom place ps ++ marksFrom (place + (textOf ps).length) qs := by
  induction ps generalizing place with
  | nil => rfl
  | cons p ps ih =>
    cases p with
    | plain text =>
      simp only [List.cons_append, marksFrom, ih, textOf_cons, Piece.text, List.length_append,
        Nat.add_assoc]
    | marked rank term =>
      simp only [List.cons_append, marksFrom, ih, textOf_cons, Piece.text, List.length_append,
        Nat.add_assoc]

theorem mem_marksFrom {place : Nat} {ps : List Piece} {m : Mark} :
    m ∈ marksFrom place ps ↔
      ∃ as bs, ps = as ++ .marked m.rank m.term :: bs ∧ m.start = place + (textOf as).length := by
  constructor
  · intro h
    induction ps generalizing place with
    | nil => cases h
    | cons p ps ih =>
      cases p with
      | plain text =>
        obtain ⟨as, bs, rfl, hstart⟩ := ih h
        refine ⟨.plain text :: as, bs, rfl, ?_⟩
        rw [hstart, textOf_cons, List.length_append, Piece.text, Nat.add_assoc]
      | marked rank term =>
        rcases List.mem_cons.mp h with rfl | h
        · exact ⟨[], ps, rfl, rfl⟩
        · obtain ⟨as, bs, rfl, hstart⟩ := ih h
          refine ⟨.marked rank term :: as, bs, rfl, ?_⟩
          rw [hstart, textOf_cons, List.length_append, Piece.text, Nat.add_assoc]
  · rintro ⟨as, bs, rfl, hstart⟩
    rw [marksFrom_append, marksFrom, ← hstart]
    exact List.mem_append_right _ List.mem_cons_self

/-- A mark is a piece. -/
theorem marked_mem_of_mem_marksOf {ps : List Piece} {m : Mark} (h : m ∈ marksOf ps) :
    .marked m.rank m.term ∈ ps := by
  obtain ⟨as, bs, rfl, -⟩ := mem_marksFrom.mp h
  exact List.mem_append_right _ List.mem_cons_self

/-- A marked piece is a mark where it starts. -/
theorem exists_mem_marksOf {ps : List Piece} {rank : Nat} {term : Term}
    (h : .marked rank term ∈ ps) : ∃ start, (⟨rank, start, term⟩ : Mark) ∈ marksOf ps := by
  obtain ⟨as, bs, rfl⟩ := List.append_of_mem h
  exact ⟨(textOf as).length, mem_marksFrom.mpr ⟨as, bs, rfl, by simp⟩⟩

theorem marksFrom_bounds {place : Nat} {ps : List Piece} {m : Mark} (h : m ∈ marksFrom place ps) :
    place ≤ m.start ∧ m.stop ≤ place + (textOf ps).length := by
  obtain ⟨as, bs, rfl, hstart⟩ := mem_marksFrom.mp h
  rw [Mark.stop, textOf_append, textOf_cons, Piece.text]
  simp only [List.length_append]
  omega

theorem pairwise_marksFrom (place : Nat) (ps : List Piece) :
    (marksFrom place ps).Pairwise fun m m' => m.stop ≤ m'.start := by
  induction ps generalizing place with
  | nil => exact .nil
  | cons p ps ih =>
    cases p with
    | plain text => exact ih _
    | marked rank term =>
      refine .cons ?_ (ih _)
      intro m hm
      exact (marksFrom_bounds hm).1

theorem eq_of_meets {ps : List Piece} {m m' : Mark} (hm : m ∈ marksOf ps) (hm' : m' ∈ marksOf ps)
    (hmeets : m.Meets m'.start m'.term.text.length) : m = m' := by
  have hpairs := pairwise_marksFrom 0 ps
  refine List.Pairwise.forall_of_forall_of_flip
    (R := fun a b => a.Meets b.start b.term.text.length → a = b) (fun _ _ _ => rfl)
    (hpairs.imp ?_) (hpairs.imp ?_) hm hm' hmeets
  · rintro a b hab ⟨-, hmeets⟩
    omega
  · rintro a b hab ⟨hmeets, -⟩
    rw [Mark.stop] at hab
    omega

theorem not_meets_plain {as bs : List Piece} {text : List Char} {m : Mark}
    (hm : m ∈ marksOf (as ++ .plain text :: bs)) {start length : Nat}
    (hstart : (textOf as).length ≤ start)
    (hstop : start + length ≤ (textOf as).length + text.length) : ¬ m.Meets start length := by
  rintro ⟨hlt, hgt⟩
  rw [marksOf, marksFrom_append, marksFrom] at hm
  rcases List.mem_append.mp hm with hm | hm
  · have hbounds := marksFrom_bounds hm
    omega
  · have hbounds := marksFrom_bounds hm
    omega

/-! ### The law of priority -/

/-- An occurrence of the term of a rank shares a character with a mark of an earlier term, or with
    a mark of this term that starts no later. The mark of the occurrence itself is such a mark. -/
def Blocked (ms : List Mark) (rank start length : Nat) : Prop :=
  ∃ m ∈ ms, m.Meets start length ∧ (m.rank < rank ∨ m.rank = rank ∧ m.start ≤ start)

/-- Pieces of a text, each mark literally its term, that leave no occurrence unmarked unless it is
    blocked. -/
structure Prioritized (terms : List Term) (text : List Char) (ps : List Piece) : Prop where
  text_eq : textOf ps = text
  literal : Literal terms ps
  blocked : ∀ (rank : Nat) (term : Term) (start : Nat), terms[rank]? = some term →
    term.text <+: text.drop start → Blocked (marksOf ps) rank start term.text.length

theorem Blocked.mono {ms ms' : List Mark} (hsub : ms ⊆ ms') {rank start length : Nat}
    (h : Blocked ms rank start length) : Blocked ms' rank start length := by
  obtain ⟨m, hm, hmeets, hrank⟩ := h
  exact ⟨m, hsub hm, hmeets, hrank⟩

section Prioritized

variable {terms : List Term} {text : List Char} {ps qs : List Piece}

theorem Prioritized.occurs (h : Prioritized terms text ps) {m : Mark} (hm : m ∈ marksOf ps) :
    terms[m.rank]? = some m.term ∧ m.term.text <+: text.drop m.start := by
  refine ⟨h.literal _ _ (marked_mem_of_mem_marksOf hm), ?_⟩
  obtain ⟨as, bs, hps, hstart⟩ := mem_marksFrom.mp hm
  rw [← h.text_eq, hps, hstart, Nat.zero_add, textOf_append, List.drop_left, textOf_cons,
    Piece.text]
  exact List.prefix_append _ _

/-- A mark of some pieces is a mark of others if the two agree on all that comes before it. -/
theorem Prioritized.mem_of_agree (hps : Prioritized terms text ps) (hqs : Prioritized terms text qs)
    {m : Mark} (hm : m ∈ marksOf ps)
    (hagree : ∀ m' : Mark, m'.Before m → m' ∈ marksOf qs → m' ∈ marksOf ps) : m ∈ marksOf qs := by
  obtain ⟨hterm, hoccurs⟩ := hps.occurs hm
  obtain ⟨m', hm', hmeets, hrank⟩ := hqs.blocked m.rank m.term m.start hterm hoccurs
  by_cases hbefore : m'.Before m
  · have heq := eq_of_meets (hagree m' hbefore hm') hm hmeets
    rw [← heq]
    exact hm'
  · have hsame : m'.rank = m.rank ∧ m'.start = m.start := by
      rw [Mark.Before] at hbefore
      omega
    rw [Mark.eq_of_place hterm (hqs.occurs hm').1 hsame.1.symm hsame.2.symm]
    exact hm'

/-- The law leaves no choice: the marks are agreed on one after the other, by rank and then by
    place. -/
theorem Prioritized.mem_marksOf (hps : Prioritized terms text ps) (hqs : Prioritized terms text qs)
    (m : Mark) : m ∈ marksOf ps ↔ m ∈ marksOf qs := by
  -- Strong induction on the rank and, within a rank, on the place: `Mark.Before` is this order.
  have key : ∀ rank start (m : Mark), m.rank = rank → m.start = start →
      (m ∈ marksOf ps ↔ m ∈ marksOf qs) := by
    intro rank
    induction rank using Nat.strongRecOn with
    | ind rank ihrank =>
      intro start
      induction start using Nat.strongRecOn with
      | ind start ihstart =>
        intro m hrank hstart
        have hagree : ∀ m' : Mark, m'.Before m → (m' ∈ marksOf ps ↔ m' ∈ marksOf qs) := by
          intro m' hbefore
          rcases hbefore with hlt | ⟨heq, hlt⟩
          · exact ihrank m'.rank (hrank ▸ hlt) m'.start m' rfl rfl
          · exact ihstart m'.start (hstart ▸ hlt) m' (heq.trans hrank) rfl
        constructor
        · intro hm
          exact hps.mem_of_agree hqs hm fun m' hbefore => (hagree m' hbefore).mpr
        · intro hm
          exact hqs.mem_of_agree hps hm fun m' hbefore => (hagree m' hbefore).mp
  exact key m.rank m.start m rfl rfl

/-- The marks are the occurrences that meet no mark before them. -/
theorem Prioritized.mem_marksOf_iff (h : Prioritized terms text ps) (m : Mark) :
    m ∈ marksOf ps ↔ terms[m.rank]? = some m.term ∧ m.term.text <+: text.drop m.start ∧
      ∀ m' ∈ marksOf ps, m'.Before m → ¬ m'.Meets m.start m.term.text.length := by
  constructor
  · intro hm
    obtain ⟨hterm, hoccurs⟩ := h.occurs hm
    refine ⟨hterm, hoccurs, ?_⟩
    intro m' hm' hbefore hmeets
    have heq := eq_of_meets hm' hm hmeets
    rw [heq, Mark.Before] at hbefore
    omega
  · rintro ⟨hterm, hoccurs, hfree⟩
    obtain ⟨m', hm', hmeets, hrank⟩ := h.blocked m.rank m.term m.start hterm hoccurs
    have hbefore : ¬ m'.Before m := fun hlt => hfree m' hm' hlt hmeets
    have hsame : m'.rank = m.rank ∧ m'.start = m.start := by
      rw [Mark.Before] at hbefore
      omega
    rw [Mark.eq_of_place hterm (h.occurs hm').1 hsame.1.symm hsame.2.symm]
    exact hm'

theorem Prioritized.not_infix_plain (h : Prioritized terms text ps) {left : List Char}
    (hleft : .plain left ∈ ps) {term : Term} (hterm : term ∈ terms) : ¬ term.text <:+: left := by
  rintro ⟨front, back, hinfix⟩
  obtain ⟨as, bs, hps⟩ := List.append_of_mem hleft
  obtain ⟨rank, hrank, hget⟩ := List.mem_iff_getElem.mp hterm
  have hlength : left.length = front.length + term.text.length + back.length := by
    rw [← hinfix, List.length_append, List.length_append]
  have hoccurs : term.text <+: text.drop ((textOf as).length + front.length) := by
    rw [← h.text_eq, hps, textOf_append, textOf_cons, Piece.text, ← List.drop_drop, List.drop_left,
      ← hinfix, List.append_assoc, List.append_assoc, List.drop_left]
    exact List.prefix_append _ _
  have hranked : terms[rank]? = some term := by rw [List.getElem?_eq_getElem hrank, hget]
  obtain ⟨m, hm, hmeets, -⟩ := h.blocked rank term _ hranked hoccurs
  rw [hps] at hm
  exact not_meets_plain hm (by omega) (by omega) hmeets

end Prioritized

/-! ### Left-over pieces between marks -/

/-- A stretch that meets no mark lies inside one left-over piece. -/
def Solid (ps : List Piece) : Prop :=
  ∀ start length, 0 < length → start + length ≤ (textOf ps).length →
    (∃ m ∈ marksOf ps, m.Meets start length) ∨
      ∃ as left bs, ps = as ++ .plain left :: bs ∧ (textOf as).length ≤ start ∧
        start + length ≤ (textOf as).length + left.length

theorem solid_plain (text : List Char) : Solid [.plain text] := by
  intro start length hpos hstop
  refine Or.inr ⟨[], text, [], rfl, Nat.zero_le _, ?_⟩
  simpa [textOf, Piece.text] using hstop

theorem leftOver_eq {reversed : List Char} (h : 0 < reversed.length) :
    leftOver reversed = [.plain reversed.reverse] := by
  have hne : reversed.isEmpty = false := by
    rwa [List.isEmpty_eq_false_iff, ← List.length_pos_iff]
  rw [leftOver, hne]
  rfl

theorem marksOf_leftOver (reversed : List Char) : marksOf (leftOver reversed) = [] := by
  unfold leftOver
  split <;> rfl

theorem marksOf_found (before : List Char) (rank : Nat) (term : Term) (ps : List Piece) :
    marksOf (leftOver before ++ .marked rank term :: ps) =
      ⟨rank, before.length, term⟩ :: marksFrom (before.length + term.text.length) ps := by
  rw [marksOf, marksFrom_append, ← marksOf, marksOf_leftOver, textOf_leftOver, marksFrom]
  simp

theorem mem_marksFrom_add {place : Nat} {ps : List Piece} {m : Mark} (h : m ∈ marksOf ps) :
    (⟨m.rank, place + m.start, m.term⟩ : Mark) ∈ marksFrom place ps := by
  obtain ⟨as, bs, hps, hstart⟩ := mem_marksFrom.mp h
  exact mem_marksFrom.mpr ⟨as, bs, hps, by simp [hstart]⟩

theorem solid_found {before : List Char} {rank : Nat} {term : Term} {ps : List Piece}
    (h : Solid ps) : Solid (leftOver before ++ .marked rank term :: ps) := by
  intro start length hpos hstop
  rw [textOf_append, textOf_leftOver, textOf_cons, Piece.text] at hstop
  simp only [List.length_append, List.length_reverse] at hstop
  rw [marksOf_found]
  by_cases hleft : start + length ≤ before.length
  · right
    refine ⟨[], before.reverse, .marked rank term :: ps, ?_, Nat.zero_le _, ?_⟩
    · rw [leftOver_eq (by omega)]
      rfl
    · simpa [textOf] using hleft
  · by_cases hmark : start < before.length + term.text.length
    · left
      exact ⟨_, List.mem_cons_self, by simp only; omega, hmark⟩
    · obtain ⟨place, hplace⟩ := Nat.exists_eq_add_of_le (Nat.le_of_not_lt hmark)
      rcases h place length hpos (by omega) with ⟨m, hm, hmeets⟩ | ⟨as, left, bs, hps, hfrom, hto⟩
      · left
        refine ⟨_, List.mem_cons_of_mem _ (mem_marksFrom_add hm), ?_⟩
        rw [Mark.Meets, Mark.stop] at hmeets ⊢
        simp only
        omega
      · right
        refine ⟨leftOver before ++ .marked rank term :: as, left, bs, ?_, ?_⟩
        · simp [hps]
        · rw [textOf_append, textOf_leftOver, textOf_cons, Piece.text]
          simp only [List.length_append, List.length_reverse]
          omega

theorem Cuts.solid {rank : Nat} {term : Term} {before text : List Char} {ps : List Piece}
    (h : Cuts rank term before text ps) : Solid ps := by
  induction h with
  | done before =>
    intro start length hpos hstop
    rw [textOf_leftOver, List.length_reverse] at hstop
    refine Or.inr ⟨[], before.reverse, [], leftOver_eq (by omega), Nat.zero_le _, ?_⟩
    simpa [textOf] using hstop
  | found before h ih => exact solid_found ih
  | missed hprefix h ih => exact ih

/-- An occurrence in the text of a cut meets a mark that starts no later. Nothing that was left over
    before the text starts an occurrence, as it would have been marked. -/
theorem Cuts.marks_occurrence {rank : Nat} {term : Term} {before text : List Char} {ps : List Piece}
    (h : Cuts rank term before text ps) (hterm : term.text ≠ [])
    (hbefore : ∀ place < before.length, ¬ term.text <+: (before.reverse ++ text).drop place)
    {place : Nat} (hoccurs : term.text <+: (before.reverse ++ text).drop place) :
    ∃ m ∈ marksOf ps, m.rank = rank ∧ m.start ≤ place ∧ place < m.stop := by
  -- The occurrence cannot start in what was left over; it starts inside the mark, or after it,
  -- where the search began anew with nothing left over.
  induction h generalizing place with
  | done before =>
    by_cases hplace : place < before.length
    · exact absurd hoccurs (hbefore place hplace)
    · rw [List.append_nil, List.drop_of_length_le (by simpa using hplace)] at hoccurs
      exact absurd (List.prefix_nil.mp hoccurs) hterm
  | @found before rest ps h ih =>
    rw [marksOf_found]
    by_cases hplace : place < before.length
    · exact absurd hoccurs (hbefore place hplace)
    · by_cases hmark : place < before.length + term.text.length
      · exact ⟨_, List.mem_cons_self, rfl, Nat.le_of_not_lt hplace, hmark⟩
      · obtain ⟨further, rfl⟩ := Nat.exists_eq_add_of_le (Nat.le_of_not_lt hmark)
        have hrest : term.text <+: ([].reverse ++ rest).drop further := by
          have hfront : (before.reverse ++ term.text).length = before.length + term.text.length := by
            simp
          rw [← List.append_assoc, ← List.drop_drop, ← hfront, List.drop_left] at hoccurs
          exact hoccurs
        obtain ⟨m, hm, hrank, hfrom, hto⟩ := ih (fun _ hlt => absurd hlt (Nat.not_lt_zero _)) hrest
        refine ⟨_, List.mem_cons_of_mem _ (mem_marksFrom_add hm), hrank, ?_, ?_⟩
        · simp only
          omega
        · rw [Mark.stop] at hto ⊢
          simp only
          omega
  | @missed before rest c ps hprefix h ih =>
    have hsame : (c :: before).reverse ++ rest = before.reverse ++ c :: rest := by simp
    rw [hsame] at ih
    refine ih ?_ hoccurs
    intro earlier hlt
    rw [List.length_cons] at hlt
    by_cases hold : earlier < before.length
    · exact hbefore earlier hold
    · have hhere : earlier = before.reverse.length := by
        rw [List.length_reverse]
        omega
      rw [hhere, List.drop_left]
      exact hprefix

/-! ### One pass -/

section Pass

variable {rank : Nat} {term : Term} {ps : List Piece}

theorem pass_around (as bs : List Piece) (p : Piece) (ranked : Term × Nat) :
    pass (as ++ p :: bs) ranked = pass as ranked ++ (p.cut ranked.2 ranked.1 ++ pass bs ranked) := by
  simp [pass]

theorem marksOf_subset_pass (hterm : term.text ≠ []) :
    marksOf ps ⊆ marksOf (pass ps (term, rank)) := by
  intro m hm
  obtain ⟨as, bs, rfl, hstart⟩ := mem_marksFrom.mp hm
  refine mem_marksFrom.mpr ⟨pass as (term, rank), pass bs (term, rank), pass_around as bs _ _, ?_⟩
  rw [textOf_pass hterm]
  exact hstart

theorem mem_marksOf_pass_plain (hterm : term.text ≠ []) {as bs : List Piece} {left : List Char}
    {m : Mark} (hm : m ∈ marksOf (cutAfter rank term 0 [] left)) :
    (⟨m.rank, (textOf as).length + m.start, m.term⟩ : Mark) ∈
      marksOf (pass (as ++ .plain left :: bs) (term, rank)) := by
  rw [pass_around, marksOf, marksFrom_append, marksFrom_append, textOf_pass hterm, Nat.zero_add]
  exact List.mem_append_right _ (List.mem_append_left _ (mem_marksFrom_add hm))

/-- A stretch that meets no mark and lies inside a left-over piece still does after a pass. -/
theorem solid_pass (hterm : term.text ≠ []) (h : Solid ps) : Solid (pass ps (term, rank)) := by
  intro start length hpos hstop
  rw [textOf_pass hterm] at hstop
  rcases h start length hpos hstop with ⟨m, hm, hmeets⟩ | ⟨as, left, bs, rfl, hfrom, hto⟩
  · exact Or.inl ⟨m, marksOf_subset_pass hterm hm, hmeets⟩
  · obtain ⟨place, rfl⟩ := Nat.exists_eq_add_of_le hfrom
    have hcut := cuts_cutAfter rank hterm [] left
    have hinside : place + length ≤ (textOf (cutAfter rank term 0 [] left)).length := by
      rw [hcut.text]
      simp only [List.reverse_nil, List.nil_append]
      omega
    rcases hcut.solid place length hpos hinside with
      ⟨m, hm, hmeets⟩ | ⟨as', left', bs', hps, hfrom', hto'⟩
    · left
      refine ⟨_, mem_marksOf_pass_plain hterm hm, ?_⟩
      rw [Mark.Meets, Mark.stop] at hmeets ⊢
      simp only
      omega
    · right
      refine ⟨pass as (term, rank) ++ as', left', bs' ++ pass bs (term, rank), ?_, ?_⟩
      · rw [pass_around, Piece.cut, hps]
        simp
      · rw [textOf_append, textOf_pass hterm, List.length_append]
        omega

/-- After its pass no occurrence of a term is free: it meets an older mark, or it lies inside a
    left-over piece and the cut of that piece marks it or an occurrence before it. -/
theorem blocked_pass (hterm : term.text ≠ []) (hsolid : Solid ps)
    (hranks : ∀ m ∈ marksOf ps, m.rank < rank) {start : Nat}
    (hoccurs : term.text <+: (textOf ps).drop start) :
    Blocked (marksOf (pass ps (term, rank))) rank start term.text.length := by
  have hpos := List.length_pos_iff.mpr hterm
  have hstop : start + term.text.length ≤ (textOf ps).length := by
    have hle := hoccurs.length_le
    rw [List.length_drop] at hle
    omega
  rcases hsolid start term.text.length hpos hstop with
    ⟨m, hm, hmeets⟩ | ⟨as, left, bs, rfl, hfrom, hto⟩
  · exact ⟨m, marksOf_subset_pass hterm hm, hmeets, Or.inl (hranks m hm)⟩
  · obtain ⟨place, rfl⟩ := Nat.exists_eq_add_of_le hfrom
    have hleft : term.text <+: ([].reverse ++ left).drop place := by
      rw [textOf_append, textOf_cons, Piece.text, ← List.drop_drop, List.drop_left,
        List.drop_append_of_le_length (by omega)] at hoccurs
      refine List.prefix_of_prefix_length_le hoccurs (List.prefix_append _ _) ?_
      simp only [List.reverse_nil, List.nil_append, List.length_drop]
      omega
    obtain ⟨m, hm, hrank, hmfrom, hmto⟩ := (cuts_cutAfter rank hterm [] left).marks_occurrence
      hterm (fun _ hlt => absurd hlt (Nat.not_lt_zero _)) hleft
    refine ⟨_, mem_marksOf_pass_plain hterm hm, ?_, Or.inr ⟨hrank, ?_⟩⟩
    · rw [Mark.Meets, Mark.stop] at *
      simp only
      omega
    · simp only
      omega

end Pass

/-! ### All passes -/

/-- What the passes for the first terms achieve. -/
structure Passed (terms : List Term) (text : List Char) (count : Nat) (ps : List Piece) : Prop where
  text_eq : textOf ps = text
  ranks : ∀ m ∈ marksOf ps, m.rank < count
  solid : Solid ps
  blocked : ∀ (rank : Nat) (term : Term) (start : Nat), rank < count → terms[rank]? = some term →
    term.text <+: text.drop start → Blocked (marksOf ps) rank start term.text.length

variable {terms : List Term}

theorem passed_plain (terms : List Term) (text : List Char) :
    Passed terms text 0 [.plain text] where
  text_eq := by simp [textOf, Piece.text]
  ranks m hm := by cases hm
  solid := solid_plain text
  blocked rank term start hlt := absurd hlt (Nat.not_lt_zero _)

theorem passed_pass (hterms : ∀ t ∈ terms, t.text ≠ []) {text : List Char} {count : Nat}
    {term : Term} {ps : List Piece} (hterm : terms[count]? = some term)
    (h : Passed terms text count ps) : Passed terms text (count + 1) (pass ps (term, count)) := by
  have hne := hterms term (List.mem_of_getElem? hterm)
  refine ⟨?_, ?_, solid_pass hne h.solid, ?_⟩
  · rw [textOf_pass hne, h.text_eq]
  · intro m hm
    rcases marked_mem_pass hne (marked_mem_of_mem_marksOf hm) with hin | ⟨heq, -⟩
    · obtain ⟨start, hold⟩ := exists_mem_marksOf hin
      have hlt := h.ranks _ hold
      exact Nat.lt_succ_of_lt hlt
    · rw [heq]
      exact Nat.lt_succ_self _
  · intro rank other start hlt hother hoccurs
    by_cases hold : rank < count
    · exact (h.blocked rank other start hold hother hoccurs).mono (marksOf_subset_pass hne)
    · have hrank : rank = count := by omega
      subst hrank
      rw [hterm, Option.some.injEq] at hother
      subst hother
      rw [← h.text_eq] at hoccurs
      exact blocked_pass hne h.solid h.ranks hoccurs

theorem prioritized_pieces (h : Highlighter) (hterms : ∀ t ∈ h.terms, t.text ≠ [])
    (text : List Char) : Prioritized h.terms text (h.pieces text) := by
  have hpassed : Passed h.terms text h.terms.length (h.pieces text) :=
    pieces_induction h text (motive := Passed h.terms text) (passed_plain h.terms text)
      fun count term ps hterm hps => passed_pass hterms hterm hps
  refine ⟨hpassed.text_eq, literal_pieces hterms text, ?_⟩
  intro rank term start hterm hoccurs
  have hlt : rank < h.terms.length := (List.getElem?_eq_some_iff.mp hterm).1
  exact hpassed.blocked rank term start hlt hterm hoccurs

/-- **The marks are a greedy choice.**  With at least one usable term, the markup is that of pieces
    of the decoded text that obey the law of priority; no other marks obey it; a mark is an
    occurrence that meets no mark before it; and no left-over piece contains a term.  Match order
    is by falling length, and by definition among terms of one length. -/
theorem markup_greedy (rules : RuleSet) (text : List Char) (h : rules.hasUsableTerm = true) :
    let terms := (ofRules rules).terms
    let decoded := Markup.decode text
    let ps := (ofRules rules).pieces decoded
    (ofRules rules).markup text = ps.flatMap Piece.markup ∧
      Prioritized terms decoded ps ∧
      (∀ qs, Prioritized terms decoded qs → ∀ m, m ∈ marksOf qs ↔ m ∈ marksOf ps) ∧
      (∀ m, m ∈ marksOf ps ↔ terms[m.rank]? = some m.term ∧ m.term.text <+: decoded.drop m.start ∧
        ∀ m' ∈ marksOf ps, m'.Before m → ¬ m'.Meets m.start m.term.text.length) ∧
      (∀ left, .plain left ∈ ps → ∀ term ∈ terms, ¬ term.text <:+: left) ∧
      terms.Pairwise (fun t u => u.text.length ≤ t.text.length) ∧
      ∀ n, terms.filter (·.text.length = n) = rules.marks.filter (·.text.length = n) := by
  intro terms decoded ps
  have hprioritized : Prioritized terms decoded ps :=
    prioritized_pieces (ofRules rules) (fun t ht => text_ne_nil ht) decoded
  refine ⟨?_, hprioritized, ?_, hprioritized.mem_marksOf_iff, ?_, pairwise_terms rules,
    filter_terms rules⟩
  · rw [markup, isEmpty_ofRules, h]
    rfl
  · intro qs hqs m
    exact hqs.mem_marksOf hprioritized m
  · intro left hleft term hterm
    exact hprioritized.not_infix_plain hleft hterm

/-- Rules whose terms overlap in a text. -/
def overlapping : RuleSet := ⟨[⟨"red", ["foo", "ab"]⟩, ⟨"blue", ["foobar", "bc"]⟩]⟩

theorem terms_overlapping : (ofRules overlapping).terms =
    [⟨['f', 'o', 'o', 'b', 'a', 'r'], "blue"⟩, ⟨['f', 'o', 'o'], "red"⟩, ⟨['a', 'b'], "red"⟩,
      ⟨['b', 'c'], "blue"⟩] := by
  have hmarks : overlapping.marks =
      [⟨['f', 'o', 'o'], "red"⟩, ⟨['a', 'b'], "red"⟩, ⟨['f', 'o', 'o', 'b', 'a', 'r'], "blue"⟩,
        ⟨['b', 'c'], "blue"⟩] := by decide
  rw [ofRules, hmarks]
  simp [List.mergeSort, List.MergeSort.Internal.splitInTwo, longerOrEqual]

/-- A longer term takes its text from a shorter one, and of two terms of one length the first. -/
theorem markup_greedy_overlapping :
    overlapping.hasUsableTerm = true ∧
      Prioritized (ofRules overlapping).terms (Markup.decode "foo abc foobar".toList)
        ((ofRules overlapping).pieces (Markup.decode "foo abc foobar".toList)) ∧
      (ofRules overlapping).pieces (Markup.decode "foo abc foobar".toList) =
        [.marked 1 ⟨['f', 'o', 'o'], "red"⟩, .plain [' '], .marked 2 ⟨['a', 'b'], "red"⟩,
          .plain ['c', ' '], .marked 0 ⟨['f', 'o', 'o', 'b', 'a', 'r'], "blue"⟩] := by
  have husable : overlapping.hasUsableTerm = true := by decide
  refine ⟨husable, (markup_greedy overlapping "foo abc foobar".toList husable).2.1, ?_⟩
  rw [pieces, terms_overlapping]
  decide

end ListenerReview.Highlighter
