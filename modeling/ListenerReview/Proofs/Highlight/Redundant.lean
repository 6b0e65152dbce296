/-
  ListenerReview/Proofs/Highlight/Redundant.lean
  ==============================================
  **Terms that mark nothing can be taken out of the rules.**

  A term of a rule set has a place in match order (`RuleSet.rankAt`), and taking it out
  of the set takes it out of match order at this place and changes nothing else
  (`terms_eraseTerm`).  All later terms move up by one rank, and there is one pass less.

  Neither is seen in the markup.  Ranks are labels of the pieces that no pass looks at:
  without them (`unranked`), the passes are a fold over the terms alone.  And a pass
  that marks nothing changes no piece (`unranked_pass_of_idle`), since an occurrence in
  a left-over piece would be marked.

  Which terms mark nothing follows from the law of priority: those all of whose
  occurrences meet marks of earlier terms (`idle_iff`), so in every text those that
  repeat an earlier term.
-/
import ListenerReview.Proofs.Highlight.Priority
import Mathlib.Data.List.Basic

namespace ListenerReview

/-! ### Places of terms -/

namespace Category

theorem marks_append (name : String) (terms others : List String) :
    marks ⟨name, terms ++ others⟩ = marks ⟨name, terms⟩ ++ marks ⟨name, others⟩ := by
  simp [marks]

/-- The usable terms of a category around one of its terms. -/
theorem marks_around {c : Category} {index : Nat} {text : String}
    (h : c.terms[index]? = some text) :
    c.marks = marks ⟨c.name, c.terms.take index⟩ ++
      ((if Text.trim text.toList = [] then [] else [⟨Text.trim text.toList, c.name⟩]) ++
        marks ⟨c.name, c.terms.drop (index + 1)⟩) := by
  obtain ⟨hindex, hget⟩ := List.getElem?_eq_some_iff.mp h
  have hterms : c.terms = c.terms.take index ++ ([text] ++ c.terms.drop (index + 1)) := by
    rw [← hget, List.singleton_append, List.getElem_cons_drop, List.take_append_drop]
  have hone : marks ⟨c.name, [text]⟩ =
      if Text.trim text.toList = [] then [] else [⟨Text.trim text.toList, c.name⟩] := by
    by_cases hblank : Text.trim text.toList = []
    · simp [marks, hblank]
    · simp [marks, hblank]
  calc c.marks
      = marks ⟨c.name, c.terms.take index ++ ([text] ++ c.terms.drop (index + 1))⟩ :=
        congrArg (fun terms => marks ⟨c.name, terms⟩) hterms
    _ = _ := by rw [marks_append, marks_append, hone]

end Category

namespace RuleSet

/-- The term at a place of a set, as it would be marked: that of the given index in the category of
    the given index. -/
def termAt? (rules : RuleSet) (category index : Nat) : Option Term :=
  rules.categories[category]?.bind fun c =>
    c.terms[index]?.map fun term => ⟨Text.trim term.toList, c.name⟩

/-- The set without the term at a place. -/
def eraseTerm (rules : RuleSet) (category index : Nat) : RuleSet :=
  ⟨rules.categories.modify category fun c => ⟨c.name, c.terms.eraseIdx index⟩⟩

/-- What a set defines before a place. -/
def upTo (rules : RuleSet) (category index : Nat) : RuleSet :=
  ⟨rules.categories.take category ++
    (rules.categories[category]?.map fun c => ⟨c.name, c.terms.take index⟩).toList⟩

/-- The rank in match order of the term at a place: longer terms come before it, and those of its
    length that are defined before it. -/
def rankAt (rules : RuleSet) (category index : Nat) (term : Term) : Nat :=
  rules.marks.countP (fun t => decide (term.text.length < t.text.length)) +
    (rules.upTo category index).marks.countP (fun t => decide (t.text.length = term.text.length))

/-- The usable terms of a set around a place: taking the term there out leaves the others. -/
theorem marks_around {rules : RuleSet} {category index : Nat} {term : Term}
    (h : rules.termAt? category index = some term) :
    ∃ later, rules.marks = (rules.upTo category index).marks ++
        ((if term.text = [] then [] else [term]) ++ later) ∧
      (rules.eraseTerm category index).marks = (rules.upTo category index).marks ++ later := by
  obtain ⟨c, hc, hmap⟩ := Option.bind_eq_some_iff.mp h
  obtain ⟨text, htext, rfl⟩ := Option.map_eq_some_iff.mp hmap
  obtain ⟨hcategory, hget⟩ := List.getElem?_eq_some_iff.mp hc
  have hcategories : rules.categories =
      rules.categories.take category ++ c :: rules.categories.drop (category + 1) := by
    rw [← hget, List.getElem_cons_drop, List.take_append_drop]
  have hupTo : (rules.upTo category index).marks =
      (rules.categories.take category).flatMap Category.marks ++
        Category.marks ⟨c.name, c.terms.take index⟩ := by
    simp [marks, upTo, hc]
  refine ⟨Category.marks ⟨c.name, c.terms.drop (index + 1)⟩ ++
    (rules.categories.drop (category + 1)).flatMap Category.marks, ?_, ?_⟩
  · calc rules.marks
        = (rules.categories.take category ++ c :: rules.categories.drop (category + 1)).flatMap
            Category.marks := congrArg (List.flatMap Category.marks) hcategories
      _ = _ := by
        rw [List.flatMap_append, List.flatMap_cons, Category.marks_around htext, hupTo]
        simp only [List.append_assoc]
  · rw [marks, eraseTerm, List.modify_eq_take_cons_drop hcategory, hget,
      List.eraseIdx_eq_take_drop_succ, List.flatMap_append, List.flatMap_cons,
      Category.marks_append, hupTo]
    simp only [List.append_assoc]

end RuleSet

namespace Highlighter

/-! ### Match order around a term -/

/-- A list in which what has a property comes first is that, and then the rest. -/
theorem filter_append_filter_not {α : Type} {p : α → Bool} {l : List α}
    (h : l.Pairwise fun a b => p b = true → p a = true) :
    l.filter p ++ l.filter (fun a => !p a) = l := by
  induction h with
  | nil => rfl
  | @cons a l hfirst _ ih =>
    by_cases ha : p a = true
    · rw [List.filter_cons_of_pos ha, List.filter_cons_of_neg (by simp [ha]), List.cons_append, ih]
    · have hnone : ∀ b ∈ l, ¬ p b = true := fun b hb hpb => ha (hfirst b hb hpb)
      rw [List.filter_cons_of_neg ha, List.filter_eq_nil_iff.mpr hnone,
        List.filter_cons_of_pos (by simp [ha]), List.nil_append, List.filter_eq_self.mpr]
      intro b hb
      simp [hnone b hb]

/-- In match order stand the terms that are longer than a length, then those of this length in the
    order of their definition, then others. -/
theorem exists_terms_eq (rules : RuleSet) (n : Nat) :
    ∃ longer others,
      (ofRules rules).terms =
          longer ++ (rules.marks.filter (·.text.length = n) ++ others) ∧
        longer.length = rules.marks.countP (n < ·.text.length) ∧
        longer.filter (·.text.length = n) = [] ∧ others.filter (·.text.length = n) = [] := by
  have hlonger := filter_append_filter_not (p := fun t : Term => decide (n < t.text.length))
    ((pairwise_terms rules).imp fun hle => by simp only [decide_eq_true_eq]; omega)
  have hpairwise : ((ofRules rules).terms.filter fun t => !decide (n < t.text.length)).Pairwise
      fun t u => decide (u.text.length = n) = true → decide (t.text.length = n) = true := by
    refine ((pairwise_terms rules).filter _).imp_of_mem ?_
    intro t u ht _ hle
    simp only [List.mem_filter, Bool.not_eq_true', decide_eq_false_iff_not] at ht
    simp only [decide_eq_true_eq]
    omega
  have hothers := filter_append_filter_not hpairwise
  have hsame : ((ofRules rules).terms.filter fun t => !decide (n < t.text.length)).filter
      (·.text.length = n) = rules.marks.filter (·.text.length = n) := by
    rw [← filter_terms, List.filter_filter]
    apply List.filter_congr
    intro t _
    by_cases ht : t.text.length = n
    · simp [ht]
    · simp [ht]
  rw [hsame] at hothers
  rw [← hothers] at hlonger
  refine ⟨_, _, hlonger.symm, ?_, ?_, ?_⟩
  · rw [← List.countP_eq_length_filter]
    exact (List.mergeSort_perm rules.marks longerOrEqual).countP_eq _
  · rw [List.filter_filter, List.filter_eq_nil_iff]
    intro t _
    simp only [Bool.and_eq_true, decide_eq_true_eq]
    omega
  · rw [List.filter_filter, List.filter_eq_nil_iff]
    intro t _
    simp

/-- Match order around a term that is defined between others, and match order without it. -/
theorem exists_terms_around {rules : RuleSet} {term : Term} {earlier later : List Term}
    (h : rules.marks = earlier ++ term :: later) :
    ∃ front back, (ofRules rules).terms = front ++ term :: back ∧
      front.length = rules.marks.countP (term.text.length < ·.text.length) +
        earlier.countP (·.text.length = term.text.length) ∧
      ∀ fewer : RuleSet, fewer.marks = earlier ++ later →
        (ofRules fewer).terms = front ++ back := by
  obtain ⟨longer, others, hterms, hlength, hlonger, hothers⟩ :=
    exists_terms_eq rules term.text.length
  have haround : (ofRules rules).terms =
      (longer ++ earlier.filter (·.text.length = term.text.length)) ++
        term :: (later.filter (·.text.length = term.text.length) ++ others) := by
    rw [hterms, h, List.filter_append, List.filter_cons_of_pos (by simp)]
    simp only [List.append_assoc, List.cons_append]
  refine ⟨_, _, haround, ?_, ?_⟩
  · rw [List.length_append, hlength, ← List.countP_eq_length_filter]
  · intro fewer hfewer
    symm
    rw [eq_terms_iff, hfewer]
    constructor
    · refine (pairwise_terms rules).sublist ?_
      rw [haround]
      exact (List.Sublist.refl _).append (List.sublist_cons_self _ _)
    · intro n
      by_cases hn : term.text.length = n
      · subst hn
        simp [List.filter_append, hlonger, hothers]
      -- of another length there are as many terms as before
      · have hall := filter_terms rules n
        have hdrop : ∀ terms : List Term, (term :: terms).filter (·.text.length = n) =
            terms.filter (·.text.length = n) :=
          fun terms => List.filter_cons_of_neg (by simpa using hn)
        rw [haround, h, List.filter_append, List.filter_append earlier, hdrop, hdrop] at hall
        rw [List.filter_append, hall, List.filter_append]

/-- Taking a term out of a set takes it out of match order and leaves the others as they are. -/
theorem terms_eraseTerm {rules : RuleSet} {category index : Nat} {term : Term}
    (h : rules.termAt? category index = some term) :
    (ofRules rules).terms[rules.rankAt category index term]? =
        (if term.text = [] then none else some term) ∧
      (ofRules (rules.eraseTerm category index)).terms =
        (ofRules rules).terms.eraseIdx (rules.rankAt category index term) := by
  obtain ⟨later, hmarks, herased⟩ := RuleSet.marks_around h
  by_cases hblank : term.text = []
  -- a blank term is not in match order, and all that are come before it
  · rw [if_pos hblank, List.nil_append] at hmarks
    have hlonger : rules.marks.countP (term.text.length < ·.text.length) = rules.marks.length := by
      rw [List.countP_eq_length]
      intro t ht
      have hne : t.text ≠ [] := text_ne_nil (show t ∈ (ofRules rules).terms from List.mem_mergeSort.mpr ht)
      simpa [hblank] using List.length_pos_iff.mpr hne
    have hlength : (ofRules rules).terms.length ≤ rules.rankAt category index term := by
      rw [RuleSet.rankAt, hlonger, ofRules, List.length_mergeSort]
      exact Nat.le_add_right _ _
    rw [if_pos hblank, List.getElem?_eq_none hlength, List.eraseIdx_of_length_le hlength]
    refine ⟨rfl, ?_⟩
    rw [ofRules, ofRules, herased, hmarks]
  · rw [if_neg hblank, List.singleton_append] at hmarks
    obtain ⟨front, back, hterms, hlength, hfewer⟩ := exists_terms_around hmarks
    have hrank : rules.rankAt category index term = front.length := hlength.symm
    rw [if_neg hblank, hrank, hterms, hfewer _ herased,
      List.eraseIdx_append_of_length_le (Nat.le_refl _)]
    simp

/-! ### Pieces without ranks -/

/-- A piece without the rank of its mark. A left-over piece is kept unless it is empty. -/
def Piece.unranked : Piece → List Piece
  | .plain text => leftOver text.reverse
  | .marked _ term => [.marked 0 term]

def unranked (ps : List Piece) : List Piece := ps.flatMap Piece.unranked

theorem unranked_append (ps qs : List Piece) : unranked (ps ++ qs) = unranked ps ++ unranked qs :=
  List.flatMap_append

theorem unranked_leftOver (reversed : List Char) :
    unranked (leftOver reversed) = leftOver reversed := by
  unfold leftOver
  split
  · rfl
  · next h => simp [unranked, Piece.unranked, leftOver, h]

theorem markup_leftOver (reversed : List Char) :
    (leftOver reversed).flatMap Piece.markup = Markup.escape reversed.reverse := by
  unfold leftOver
  split
  · next h => simp [List.isEmpty_iff.mp h, Markup.escape_nil]
  · simp [Piece.markup]

/-- Ranks are not seen in the markup. -/
theorem markup_unranked (ps : List Piece) :
    (unranked ps).flatMap Piece.markup = ps.flatMap Piece.markup := by
  rw [unranked, List.flatMap_assoc]
  apply List.flatMap_congr
  intro p _
  cases p with
  | plain text => rw [Piece.unranked, markup_leftOver, List.reverse_reverse, Piece.markup]
  | marked rank term => simp [Piece.unranked, Piece.markup]

theorem unranked_cutAfter (rank : Nat) (term : Term) (skip : Nat) (before text : List Char) :
    unranked (cutAfter rank term skip before text) = cutAfter 0 term skip before text := by
  fun_induction cutAfter rank term skip before text with
  | case1 skip before => rw [unranked_leftOver, cut_nil]
  | case2 skip before c text ih => rw [ih, cutAfter]
  | case3 before c text hprefix ih =>
    rw [unranked_append, unranked_leftOver, cutAfter, if_pos hprefix, ← ih]
    rfl
  | case4 before c text hprefix ih => rw [ih, cutAfter, if_neg hprefix]

/-- A pass does not look at ranks. -/
theorem unranked_pass (ps : List Piece) (term : Term) (rank : Nat) :
    unranked (pass ps (term, rank)) = pass (unranked ps) (term, 0) := by
  rw [unranked, pass, List.flatMap_assoc, unranked, pass, List.flatMap_assoc]
  apply List.flatMap_congr
  intro p _
  cases p with
  | plain text =>
    rw [Piece.cut, ← unranked, unranked_cutAfter, Piece.unranked]
    cases text with
    | nil => rfl
    | cons c text => simp [leftOver, Piece.cut]
  | marked r t => rfl

theorem unranked_foldl (terms : List Term) (start : Nat) (ps : List Piece) :
    unranked ((terms.zipIdx start).foldl pass ps) =
      terms.foldl (fun qs term => pass qs (term, 0)) (unranked ps) := by
  induction terms generalizing start ps with
  | nil => rfl
  | cons term terms ih =>
    rw [List.zipIdx_cons, List.foldl_cons, ih, unranked_pass, List.foldl_cons]

/-! ### Terms that mark nothing -/

/-- No piece of a text is marked with the given rank. -/
def Idle (h : Highlighter) (rank : Nat) (text : List Char) : Prop :=
  ∀ term, .marked rank term ∉ h.pieces text

/-- A mark stays through all later passes. -/
theorem marked_mem_foldl {ranked : List (Term × Nat)} {ps : List Piece} {rank : Nat} {term : Term}
    (h : .marked rank term ∈ ps) : .marked rank term ∈ ranked.foldl pass ps := by
  induction ranked generalizing ps with
  | nil => exact h
  | cons r ranked ih =>
    apply ih
    rw [pass, List.mem_flatMap]
    exact ⟨_, h, List.mem_singleton_self _⟩

theorem Cuts.eq_leftOver {rank : Nat} {term : Term} {before text : List Char} {ps : List Piece}
    (h : Cuts rank term before text ps) (hnone : .marked rank term ∉ ps) :
    ps = leftOver (text.reverse ++ before) := by
  induction h with
  | done before => rfl
  | found before h ih => exact absurd (List.mem_append_right _ List.mem_cons_self) hnone
  | missed hprefix h ih =>
    rw [ih hnone]
    simp

/-- A pass that marks nothing changes nothing. -/
theorem unranked_pass_of_idle {ps : List Piece} {rank : Nat} {term : Term} (hterm : term.text ≠ [])
    (hnone : .marked rank term ∉ pass ps (term, rank)) :
    unranked (pass ps (term, rank)) = unranked ps := by
  rw [unranked, pass, List.flatMap_assoc, unranked]
  apply List.flatMap_congr
  intro p hp
  cases p with
  | plain text =>
    have hcut : .marked rank term ∉ cutAfter rank term 0 [] text := by
      intro hmem
      apply hnone
      rw [pass, List.mem_flatMap]
      exact ⟨_, hp, hmem⟩
    rw [Piece.cut, (cuts_cutAfter rank hterm [] text).eq_leftOver hcut, List.append_nil, ← unranked,
      unranked_leftOver, Piece.unranked]
  | marked r t => simp [Piece.cut]

/-- The pieces of a text are those that the terms before a rank make, after the pass for the term
    of this rank, after all later passes. -/
theorem pieces_around {h : Highlighter} {front back : List Term} {term : Term}
    (hterms : h.terms = front ++ term :: back) (text : List Char) :
    h.pieces text = (back.zipIdx (front.length + 1)).foldl pass
      (pass (front.zipIdx.foldl pass [.plain text]) (term, front.length)) := by
  rw [pieces, hterms, List.zipIdx_append, List.foldl_append, List.zipIdx_cons, List.foldl_cons,
    Nat.zero_add]

/-- Without a term that marks nothing in a text, the text is marked as before. -/
theorem markup_of_idle {h fewer : Highlighter} {rank : Nat} {text : List Char}
    (hterms : ∀ t ∈ h.terms, t.text ≠ []) (hfewer : fewer.terms = h.terms.eraseIdx rank)
    (hidle : h.Idle rank text) :
    (fewer.pieces text).flatMap Piece.markup = (h.pieces text).flatMap Piece.markup := by
  rcases Nat.lt_or_ge rank h.terms.length with hrank | hrank
  · obtain ⟨front, term, back, hsplit, rfl⟩ : ∃ front term back,
        h.terms = front ++ term :: back ∧ front.length = rank := by
      refine ⟨h.terms.take rank, h.terms[rank], h.terms.drop (rank + 1), ?_, ?_⟩
      · rw [List.getElem_cons_drop, List.take_append_drop]
      · exact List.length_take_of_le (Nat.le_of_lt hrank)
    have hne : term.text ≠ [] := hterms term (by simp [hsplit])
    have hrest : fewer.terms = front ++ back := by
      rw [hfewer, hsplit, List.eraseIdx_append_of_length_le (Nat.le_refl _)]
      simp
    have hpieces := pieces_around hsplit text
    -- the pass of the term marks nothing, as a mark would stay to the end
    have hpass :
        unranked (pass (front.zipIdx.foldl pass [.plain text]) (term, front.length)) =
          unranked (front.zipIdx.foldl pass [.plain text]) := by
      apply unranked_pass_of_idle hne
      intro hmem
      apply hidle term
      rw [hpieces]
      exact marked_mem_foldl hmem
    have hunranked : unranked (fewer.pieces text) = unranked (h.pieces text) := by
      calc unranked (fewer.pieces text)
          = back.foldl (fun qs t => pass qs (t, 0))
              (unranked (front.zipIdx.foldl pass [.plain text])) := by
            rw [pieces, hrest, unranked_foldl, List.foldl_append, unranked_foldl]
        _ = back.foldl (fun qs t => pass qs (t, 0))
              (unranked (pass (front.zipIdx.foldl pass [.plain text]) (term, front.length))) := by
            rw [hpass]
        _ = unranked (h.pieces text) := by rw [hpieces, unranked_foldl]
    rw [← markup_unranked, hunranked, markup_unranked]
  · rw [pieces, hfewer, List.eraseIdx_of_length_le hrank, pieces]

/-! ### Which terms mark nothing -/

section Idle

variable {h : Highlighter} {text : List Char}

theorem idle_iff_rank_ne (h : Highlighter) (rank : Nat) (text : List Char) :
    h.Idle rank text ↔ ∀ m ∈ marksOf (h.pieces text), m.rank ≠ rank := by
  constructor
  · rintro hidle m hm rfl
    exact hidle m.term (marked_mem_of_mem_marksOf hm)
  · intro hranks term hmem
    obtain ⟨start, hmark⟩ := exists_mem_marksOf hmem
    exact hranks _ hmark rfl

/-- A term marks nothing in a text exactly when each of its occurrences meets the mark of an
    earlier term. -/
theorem idle_iff (hterms : ∀ t ∈ h.terms, t.text ≠ []) (rank : Nat) :
    h.Idle rank text ↔ ∀ term start, h.terms[rank]? = some term → term.text <+: text.drop start →
      ∃ m ∈ marksOf (h.pieces text), m.rank < rank ∧ m.Meets start term.text.length := by
  have hprioritized := prioritized_pieces h hterms text
  rw [idle_iff_rank_ne]
  constructor
  · intro hranks term start hterm hoccurs
    obtain ⟨m, hm, hmeets, hlt | ⟨heq, -⟩⟩ := hprioritized.blocked rank term start hterm hoccurs
    · exact ⟨m, hm, hlt, hmeets⟩
    · exact absurd heq (hranks m hm)
  -- a mark of the term would be an occurrence, and no two marks meet
  · rintro hblocked m hm rfl
    obtain ⟨hterm, hoccurs⟩ := hprioritized.occurs hm
    obtain ⟨m', hm', hlt, hmeets⟩ := hblocked m.term m.start hterm hoccurs
    rw [eq_of_meets hm' hm hmeets] at hlt
    exact Nat.lt_irrefl _ hlt

/-- Of terms with the same text only the first marks anything. -/
theorem text_ne_of_mark (hterms : ∀ t ∈ h.terms, t.text ≠ []) {m : Mark}
    (hm : m ∈ marksOf (h.pieces text)) {first : Nat} {term : Term} (hfirst : first < m.rank)
    (hterm : h.terms[first]? = some term) : term.text ≠ m.term.text := by
  intro hsame
  have hprioritized := prioritized_pieces h hterms text
  obtain ⟨-, hoccurs⟩ := hprioritized.occurs hm
  rw [← hsame] at hoccurs
  obtain ⟨m', hm', hmeets, hrank⟩ := hprioritized.blocked first term m.start hterm hoccurs
  rw [hsame] at hmeets
  rw [eq_of_meets hm' hm hmeets] at hrank
  omega

/-- A term that repeats the text of an earlier one marks nothing. -/
theorem idle_of_repeats (hterms : ∀ t ∈ h.terms, t.text ≠ []) {first rank : Nat} {earlier : Term}
    (hfirst : first < rank) (hearlier : h.terms[first]? = some earlier)
    (hsame : ∀ term, h.terms[rank]? = some term → earlier.text = term.text) : h.Idle rank text := by
  rw [idle_iff_rank_ne]
  rintro m hm rfl
  obtain ⟨hterm, -⟩ := (prioritized_pieces h hterms text).occurs hm
  exact text_ne_of_mark hterms hm hfirst hearlier (hsame m.term hterm)

end Idle

/-! ### Terms of a rule set -/

/-- A set has a usable term when there is a term in match order. -/
theorem hasUsableTerm_of_getElem? {rules : RuleSet} {rank : Nat} {term : Term}
    (h : (ofRules rules).terms[rank]? = some term) : rules.hasUsableTerm = true := by
  have hne : (ofRules rules).isEmpty = false := by
    rw [isEmpty, List.isEmpty_eq_false_iff]
    intro hnil
    simp [hnil] at h
  rw [isEmpty_ofRules] at hne
  simpa using hne

theorem markup_eraseTerm_of_idle {rules : RuleSet} {category index : Nat} {term : Term}
    (hterm : rules.termAt? category index = some term)
    (husable : (rules.eraseTerm category index).hasUsableTerm = true) {text : List Char}
    (hidle : (ofRules rules).Idle (rules.rankAt category index term) (Markup.decode text)) :
    (ofRules (rules.eraseTerm category index)).markup text = (ofRules rules).markup text := by
  obtain ⟨-, hterms⟩ := terms_eraseTerm hterm
  have hfewer : (ofRules (rules.eraseTerm category index)).isEmpty = false := by
    rw [isEmpty_ofRules, husable]
    rfl
  have hall : (ofRules rules).isEmpty = false := by
    rw [isEmpty, List.isEmpty_eq_false_iff] at hfewer ⊢
    intro hnil
    simp [hterms, hnil] at hfewer
  rw [markup, markup, hfewer, hall]
  exact markup_of_idle (fun _ ht => text_ne_nil ht) hterms hidle

/-- **Terms that mark nothing can be taken out.**  Taking the term at a place out of a set takes it
    out of match order at its rank.  If it marks nothing in a text, and a usable term remains, then
    the text has the same markup without it.  It marks nothing exactly when each of its occurrences
    meets the mark of an earlier term; so a term that repeats the text of an earlier one can be
    taken out whatever the text, and all marks of a text belong to the first term that has it. -/
theorem markup_eraseTerm (rules : RuleSet) (category index : Nat) (term : Term)
    (hterm : rules.termAt? category index = some term) :
    let h := ofRules rules
    let fewer := rules.eraseTerm category index
    let rank := rules.rankAt category index term
    h.terms[rank]? = (if term.text = [] then none else some term) ∧
      (ofRules fewer).terms = h.terms.eraseIdx rank ∧
      (∀ text, fewer.hasUsableTerm = true → h.Idle rank (Markup.decode text) →
        (ofRules fewer).markup text = h.markup text) ∧
      (∀ decoded, h.Idle rank decoded ↔
        ∀ t start, h.terms[rank]? = some t → t.text <+: decoded.drop start →
          ∃ m ∈ marksOf (h.pieces decoded), m.rank < rank ∧ m.Meets start t.text.length) ∧
      (∀ first other, first < rank → h.terms[first]? = some other → other.text = term.text →
        ∀ text, (ofRules fewer).markup text = h.markup text) ∧
      ∀ decoded, ∀ m ∈ marksOf (h.pieces decoded), ∀ first other, first < m.rank →
        h.terms[first]? = some other → other.text ≠ m.term.text := by
  intro h fewer rank
  obtain ⟨hrank, hfewer⟩ := terms_eraseTerm hterm
  have hterms : ∀ t ∈ h.terms, t.text ≠ [] := fun _ ht => text_ne_nil ht
  refine ⟨hrank, hfewer, fun text husable hidle => markup_eraseTerm_of_idle hterm husable hidle,
    fun decoded => idle_iff hterms rank, ?_,
    fun decoded m hm first other => text_ne_of_mark hterms hm⟩
  intro first other hfirst hother hsame text
  have hremains : (ofRules fewer).terms[first]? = some other := by
    rw [hfewer, List.getElem?_eraseIdx_of_lt hfirst]
    exact hother
  refine markup_eraseTerm_of_idle hterm (hasUsableTerm_of_getElem? hremains) ?_
  apply idle_of_repeats hterms hfirst hother
  intro t ht
  rw [hrank] at ht
  split at ht
  · cases ht
  · rw [Option.some.injEq] at ht
    rw [← ht]
    exact hsame

/-- In a text where a term of equal length that is defined before it takes its only occurrence, a
    term can be taken out. -/
theorem markup_eraseTerm_blocked :
    overlapping.termAt? 1 1 = some ⟨['b', 'c'], "blue"⟩ ∧
      (overlapping.eraseTerm 1 1).hasUsableTerm = true ∧
      (ofRules overlapping).Idle (overlapping.rankAt 1 1 ⟨['b', 'c'], "blue"⟩)
        (Markup.decode "foo abc foobar".toList) ∧
      (ofRules (overlapping.eraseTerm 1 1)).markup "foo abc foobar".toList =
        (ofRules overlapping).markup "foo abc foobar".toList := by
  have hterm : overlapping.termAt? 1 1 = some ⟨['b', 'c'], "blue"⟩ := by decide
  have husable : (overlapping.eraseTerm 1 1).hasUsableTerm = true := by decide
  have hrank : overlapping.rankAt 1 1 ⟨['b', 'c'], "blue"⟩ = 3 := by decide
  have hpieces : (ofRules overlapping).pieces (Markup.decode "foo abc foobar".toList) =
      [.marked 1 ⟨['f', 'o', 'o'], "red"⟩, .plain [' '], .marked 2 ⟨['a', 'b'], "red"⟩,
        .plain ['c', ' '], .marked 0 ⟨['f', 'o', 'o', 'b', 'a', 'r'], "blue"⟩] := by
    rw [pieces, terms_overlapping]
    decide
  have hidle : (ofRules overlapping).Idle (overlapping.rankAt 1 1 ⟨['b', 'c'], "blue"⟩)
      (Markup.decode "foo abc foobar".toList) := by
    intro term hmem
    rw [hrank, hpieces] at hmem
    simp at hmem
  obtain ⟨-, -, hsame, -⟩ := markup_eraseTerm overlapping 1 1 ⟨['b', 'c'], "blue"⟩ hterm
  exact ⟨hterm, husable, hidle, hsame _ husable hidle⟩

end Highlighter

end ListenerReview
