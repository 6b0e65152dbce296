/-
  ListenerReview/Proofs/Program/ObtainedRules.lean
  ================================================
  **The terms of a normal rule set are the terms that are marked** — counting them,
  looking for the first of them and preparing them for the search agree.

  Three places decide on their own which terms count: the set when it takes terms in,
  the set when it is counted, and the search, which trims the terms again and leaves
  out what is blank then.  On a normal set the search finds nothing to trim or to leave
  out (`Normal.marks_eq`), so it has a term for each term of the set.

  Every rule set that can be obtained is normal, and so they agree on all of them.
-/
import ListenerReview.Proofs.Highlight.Order
import ListenerReview.Proofs.Program.SavedRules

namespace ListenerReview

/-! ### Terms that are marked -/

theorem IsTerm.trim_toList {t : String} (h : IsTerm t) : Text.trim t.toList = t.toList := by
  rw [← String.toList_ofList (l := Text.trim t.toList), h.2]

theorem Category.marks_eq {c : Category} (h : ∀ t ∈ c.terms, IsTerm t) :
    c.marks = c.terms.map fun t => ⟨t.toList, c.name⟩ := by
  have htrim : (c.terms.map fun t => Text.trim t.toList) = c.terms.map String.toList :=
    List.map_congr_left fun t ht => (h t ht).trim_toList
  have hkeep : (c.terms.map String.toList).filter (!·.isEmpty) = c.terms.map String.toList := by
    apply List.filter_eq_self.mpr
    intro text htext
    obtain ⟨t, ht, rfl⟩ := List.mem_map.mp htext
    simpa using (h t ht).1
  rw [marks, htrim, hkeep, List.map_map]
  rfl

namespace RuleSet

variable {rules : RuleSet}

theorem Normal.marks_eq (h : rules.Normal) :
    rules.marks = rules.categories.flatMap fun c => c.terms.map fun t => ⟨t.toList, c.name⟩ := by
  rw [RuleSet.marks, List.flatMap_def, List.flatMap_def]
  congr 1
  apply List.map_congr_left
  intro c hc
  exact Category.marks_eq (h.terms c hc)

theorem termCount_eq (rules : RuleSet) :
    rules.termCount = (rules.categories.flatMap Category.terms).length := by
  have hfold (n : Nat) (categories : List Category) :
      categories.foldl (fun n c => n + c.terms.length) n =
        n + (categories.flatMap Category.terms).length := by
    induction categories generalizing n with
    | nil => rfl
    | cons c categories ih =>
      rw [List.foldl_cons, ih, List.flatMap_cons, List.length_append, Nat.add_assoc]
  rw [termCount, hfold, Nat.zero_add]

theorem isEmpty_eq (rules : RuleSet) : rules.isEmpty = decide (rules.termCount = 0) := by
  rw [termCount_eq, Bool.eq_iff_iff, isEmpty]
  simp only [List.all_eq_true, List.isEmpty_iff, decide_eq_true_eq, List.length_eq_zero_iff,
    List.flatMap_eq_nil_iff]

theorem Normal.length_terms (h : rules.Normal) :
    (Highlighter.ofRules rules).terms.length = rules.termCount := by
  rw [Highlighter.ofRules, List.length_mergeSort, h.marks_eq, termCount_eq]
  induction rules.categories with
  | nil => rfl
  | cons c categories ih =>
    rw [List.flatMap_cons, List.flatMap_cons, List.length_append, List.length_append, ih,
      List.length_map]

theorem Normal.isEmpty_ofRules (h : rules.Normal) :
    (Highlighter.ofRules rules).isEmpty = rules.isEmpty := by
  rw [isEmpty_eq, ← h.length_terms, Highlighter.isEmpty, Bool.eq_iff_iff]
  simp only [List.isEmpty_iff, decide_eq_true_eq, List.length_eq_zero_iff]

end RuleSet

/-! ### Rule sets that can be obtained -/

namespace Program

/-- **What holds of every rule set that can be obtained**: no two categories have the same name, no
    name changes in lower case, and every term is there trimmed and not blank.  So normalizing
    leaves the set alone, it is searched for exactly its terms, and the search is empty exactly if
    the set is. -/
theorem obtainable_form {rules : RuleSet} (h : Obtainable rules) :
    ((rules.categories.map Category.name).Nodup ∧
        (∀ c ∈ rules.categories, Text.lowerString c.name = c.name) ∧
        ∀ c ∈ rules.categories, ∀ t ∈ c.terms, t ≠ "" ∧ String.ofList (Text.trim t.toList) = t) ∧
      rules.normalized = rules ∧
      (Highlighter.ofRules rules).terms.length = rules.termCount ∧
      (Highlighter.ofRules rules).isEmpty = rules.isEmpty := by
  have hnormal := h.normal
  refine ⟨⟨hnormal.distinct, ?_, hnormal.terms⟩, hnormal.normalized_eq, hnormal.length_terms,
    hnormal.isEmpty_ofRules⟩
  intro c hc
  exact hnormal.lower c.name (List.mem_map_of_mem hc)

/-- Three spellings of one name, one of them with the sigma that ends a word, and terms to trim. -/
theorem obtainable_form_merged :
    let rules := RuleSet.normalized ⟨[⟨"ΟΔΟΣ", [" eval ", "\t"]⟩, ⟨"οδος", []⟩, ⟨"Οδος", ["eval"]⟩]⟩
    rules = ⟨[⟨"οδος", ["eval", "eval"]⟩]⟩ ∧ Obtainable rules ∧
      ((rules.categories.map Category.name).Nodup ∧
        (∀ c ∈ rules.categories, Text.lowerString c.name = c.name) ∧
        ∀ c ∈ rules.categories, ∀ t ∈ c.terms, t ≠ "" ∧ String.ofList (Text.trim t.toList) = t) ∧
      rules.normalized = rules ∧
      (Highlighter.ofRules rules).terms.length = rules.termCount ∧
      (Highlighter.ofRules rules).isEmpty = rules.isEmpty := by
  intro rules
  exact ⟨by decide +kernel, .ofRecord _, obtainable_form (.ofRecord _)⟩

end Program

end ListenerReview
