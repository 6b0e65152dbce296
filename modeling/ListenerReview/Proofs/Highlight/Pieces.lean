/-
  ListenerReview/Proofs/Highlight/Pieces.lean
  ===========================================
  **Cutting a term out of a text** — what one pass does to a left-over piece, and
  what all passes do to a text.

  `cut_found` and `cut_missed` give the cut of a text by its front: an occurrence is
  taken as a whole, any other character is left over.  The relation `Cuts` has these
  two steps as its constructors, and facts about a cut are proved by induction on it.
  `pieces_induction` is the induction over the passes: what holds of the uncut text
  and is kept by every pass holds of the pieces.

  The first facts of this kind are that no character is lost, doubled or moved
  (`textOf_pieces`), and that a piece marked with a rank is the term of this rank
  (`literal_pieces`).
-/
import ListenerReview.Highlight

namespace ListenerReview.Highlighter

/-! ### One cut -/

section Cut

variable {rank : Nat} {term : Term}

theorem cut_nil (skip : Nat) (before : List Char) :
    cutAfter rank term skip before [] = leftOver before := by
  cases skip <;> rfl

theorem cut_skip (skip : Nat) (before text : List Char) :
    cutAfter rank term skip before text = cutAfter rank term 0 before (text.drop skip) := by
  induction text generalizing skip with
  | nil => simp [cut_nil]
  | cons c text ih =>
    cases skip with
    | zero => rfl
    | succ skip => exact ih skip

theorem cut_found (hterm : term.text ≠ []) (before rest : List Char) :
    cutAfter rank term 0 before (term.text ++ rest) =
      leftOver before ++ .marked rank term :: cutAfter rank term 0 [] rest := by
  obtain ⟨c, tail, htext⟩ := List.exists_cons_of_ne_nil hterm
  have hprefix : term.text.isPrefixOf (c :: (tail ++ rest)) = true := by
    rw [List.isPrefixOf_iff_prefix, htext, ← List.cons_append]
    exact List.prefix_append _ _
  rw [htext, List.cons_append, cutAfter, if_pos hprefix, cut_skip, htext]
  simp

theorem cut_missed {before rest : List Char} {c : Char} (h : ¬ term.text <+: c :: rest) :
    cutAfter rank term 0 before (c :: rest) = cutAfter rank term 0 (c :: before) rest := by
  rw [cutAfter, if_neg]
  rwa [List.isPrefixOf_iff_prefix]

/-- How a term is cut out of a text that stands after `before`, which is given in reverse: an
    occurrence at the front is marked, and any other character is left over. -/
inductive Cuts (rank : Nat) (term : Term) : List Char → List Char → List Piece → Prop where
  | done (before : List Char) : Cuts rank term before [] (leftOver before)
  | found (before : List Char) {rest : List Char} {ps : List Piece} :
    Cuts rank term [] rest ps →
      Cuts rank term before (term.text ++ rest) (leftOver before ++ .marked rank term :: ps)
  | missed {before rest : List Char} {c : Char} {ps : List Piece} :
    ¬ term.text <+: c :: rest → Cuts rank term (c :: before) rest ps →
      Cuts rank term before (c :: rest) ps

theorem cuts_cutAfter (rank : Nat) (hterm : term.text ≠ []) (before text : List Char) :
    Cuts rank term before text (cutAfter rank term 0 before text) := by
  induction hn : text.length using Nat.strongRecOn generalizing before text with
  | ind n ih =>
    cases text with
    | nil => exact .done before
    | cons c rest =>
      by_cases hprefix : term.text <+: c :: rest
      · obtain ⟨tail, htail⟩ := hprefix
        have hlength := congrArg List.length htail
        have hpos := List.length_pos_iff.mpr hterm
        rw [List.length_append, hn] at hlength
        rw [← htail, cut_found hterm]
        exact .found before (ih tail.length (by omega) [] tail rfl)
      · rw [cut_missed hprefix]
        refine .missed hprefix (ih rest.length ?_ (c :: before) rest rfl)
        rw [← hn]
        exact Nat.lt_succ_self _

end Cut

/-! ### The text of pieces -/

def textOf (ps : List Piece) : List Char := ps.flatMap Piece.text

theorem textOf_cons (p : Piece) (ps : List Piece) : textOf (p :: ps) = p.text ++ textOf ps := rfl

theorem textOf_append (ps qs : List Piece) : textOf (ps ++ qs) = textOf ps ++ textOf qs :=
  List.flatMap_append

theorem textOf_leftOver (reversed : List Char) : textOf (leftOver reversed) = reversed.reverse := by
  unfold leftOver
  split
  · next h =>
    rw [List.isEmpty_iff] at h
    simp [h, textOf]
  · simp [textOf, Piece.text]

theorem Cuts.text {rank : Nat} {term : Term} {before text : List Char} {ps : List Piece}
    (h : Cuts rank term before text ps) : textOf ps = before.reverse ++ text := by
  induction h with
  | done before => simp [textOf_leftOver]
  | found before h ih =>
    rw [textOf_append, textOf_leftOver, textOf_cons, ih, Piece.text]
    simp
  | missed hprefix h ih => simpa using ih

theorem textOf_cut {rank : Nat} {term : Term} (hterm : term.text ≠ []) (p : Piece) :
    textOf (p.cut rank term) = p.text := by
  cases p with
  | plain text => exact (cuts_cutAfter rank hterm [] text).text
  | marked r t => simp [Piece.cut, textOf]

theorem textOf_pass {term : Term} {rank : Nat} (hterm : term.text ≠ []) (ps : List Piece) :
    textOf (pass ps (term, rank)) = textOf ps := by
  induction ps with
  | nil => rfl
  | cons p ps ih =>
    rw [pass, List.flatMap_cons, textOf_append, textOf_cons, textOf_cut hterm]
    rw [pass] at ih
    rw [ih]

/-! ### Literal marks -/

/-- Every piece marked with a rank is the term of this rank. -/
def Literal (terms : List Term) (ps : List Piece) : Prop :=
  ∀ r t, .marked r t ∈ ps → terms[r]? = some t

theorem Cuts.marked {rank : Nat} {term : Term} {before text : List Char} {ps : List Piece}
    (h : Cuts rank term before text ps) {r : Nat} {t : Term} (hmem : .marked r t ∈ ps) :
    r = rank ∧ t = term := by
  have hleft : ∀ reversed, .marked r t ∉ leftOver reversed := by
    intro reversed hin
    unfold leftOver at hin
    split at hin
    · cases hin
    · simp at hin
  induction h with
  | done before => exact absurd hmem (hleft before)
  | found before h ih =>
    rcases List.mem_append.mp hmem with hin | hin
    · exact absurd hin (hleft before)
    · rcases List.mem_cons.mp hin with heq | hin
      · cases heq
        exact ⟨rfl, rfl⟩
      · exact ih hin
  | missed hprefix h ih => exact ih hmem

/-- The marks after a pass are those before it and those of its term. -/
theorem marked_mem_pass {term : Term} {rank : Nat} (hterm : term.text ≠ []) {ps : List Piece}
    {r : Nat} {t : Term} (hmem : .marked r t ∈ pass ps (term, rank)) :
    .marked r t ∈ ps ∨ (r = rank ∧ t = term) := by
  rw [pass, List.mem_flatMap] at hmem
  obtain ⟨p, hp, hin⟩ := hmem
  cases p with
  | plain text => exact Or.inr ((cuts_cutAfter rank hterm [] text).marked hin)
  | marked r' t' =>
    simp only [Piece.cut, List.mem_singleton] at hin
    rw [hin]
    exact Or.inl hp

/-! ### All passes -/

/-- What holds of the uncut text and is kept by the pass for every term holds of the pieces. -/
theorem pieces_induction (h : Highlighter) (text : List Char) {motive : Nat → List Piece → Prop}
    (start : motive 0 [.plain text])
    (step : ∀ rank term ps, h.terms[rank]? = some term → motive rank ps →
      motive (rank + 1) (pass ps (term, rank))) :
    motive h.terms.length (h.pieces text) := by
  have key : ∀ (rest done : List Term) (ps : List Piece), h.terms = done ++ rest →
      motive done.length ps → motive h.terms.length ((rest.zipIdx done.length).foldl pass ps) := by
    intro rest
    induction rest with
    | nil =>
      intro done ps hterms hps
      rw [hterms, List.append_nil]
      exact hps
    | cons term rest ih =>
      intro done ps hterms hps
      have hterm : h.terms[done.length]? = some term := by
        rw [hterms]
        simp
      have hnext := ih (done ++ [term]) (pass ps (term, done.length)) (by simp [hterms])
      rw [List.length_append] at hnext
      exact hnext (step done.length term ps hterm hps)
  exact key h.terms [] [.plain text] rfl start

variable {h : Highlighter}

/-- No character of a text is lost, doubled or moved. -/
theorem textOf_pieces (hterms : ∀ t ∈ h.terms, t.text ≠ []) (text : List Char) :
    textOf (h.pieces text) = text := by
  apply pieces_induction h text (motive := fun _ ps => textOf ps = text)
  · simp [textOf, Piece.text]
  · intro rank term ps hterm hps
    rw [textOf_pass (hterms term (List.mem_of_getElem? hterm)), hps]

theorem literal_pieces (hterms : ∀ t ∈ h.terms, t.text ≠ []) (text : List Char) :
    Literal h.terms (h.pieces text) := by
  apply pieces_induction h text (motive := fun _ ps => Literal h.terms ps)
  · intro r t hmem
    simp at hmem
  · intro rank term ps hterm hps r t hmem
    rcases marked_mem_pass (hterms term (List.mem_of_getElem? hterm)) hmem with hin | ⟨rfl, rfl⟩
    · exact hps r t hin
    · exact hterm

end ListenerReview.Highlighter
