/-
  ListenerReview/Proofs/Highlight/Order.lean
  ==========================================
  **Usable terms and their order** — which terms of a rule set are marked at all, and
  in which order.

  A term is usable when it is not blank, and it is marked without its blank ends, so
  no term in match order is empty.  Match order puts longer terms first
  (`pairwise_terms`) and leaves terms of one length in the order of their definition
  (`filter_terms`).  No other list of terms does both (`eq_terms_iff`), so how a set
  spreads its terms over categories is not seen in what it marks, as long as the terms
  of each length come in the same order (`markup_arrangement`).
-/
import ListenerReview.Highlight

namespace ListenerReview

/-! ### Usable terms -/

/-- Whether a set has a term that is not blank. -/
def RuleSet.hasUsableTerm (rules : RuleSet) : Bool :=
  rules.categories.any fun c => c.terms.any fun t => !Text.allBlank t.toList

theorem Category.mem_marks {c : Category} {term : Term} :
    term ∈ c.marks ↔
      term.category = c.name ∧ term.text ≠ [] ∧ ∃ t ∈ c.terms, Text.trim t.toList = term.text := by
  obtain ⟨text, category⟩ := term
  simp only [marks, List.mem_map, List.mem_filter, Term.mk.injEq, Bool.not_eq_true',
    List.isEmpty_eq_false_iff]
  constructor
  · rintro ⟨trimmed, ⟨⟨t, ht, rfl⟩, hne⟩, rfl, rfl⟩
    exact ⟨rfl, hne, t, ht, rfl⟩
  · rintro ⟨rfl, hne, t, ht, rfl⟩
    exact ⟨_, ⟨⟨t, ht, rfl⟩, hne⟩, rfl, rfl⟩

theorem RuleSet.marks_eq_nil_iff (rules : RuleSet) :
    rules.marks = [] ↔ rules.hasUsableTerm = false := by
  simp only [RuleSet.marks, hasUsableTerm, List.flatMap_eq_nil_iff, List.any_eq_false,
    List.any_eq_true, Bool.not_eq_true', not_exists, not_and]
  constructor
  · intro h c hc t ht hblank
    have hne : Text.trim t.toList ≠ [] := by
      intro hnil
      rw [Text.trim_eq_nil_iff, hblank] at hnil
      cases hnil
    have hmem : (⟨Text.trim t.toList, c.name⟩ : Term) ∈ c.marks :=
      Category.mem_marks.mpr ⟨rfl, hne, t, ht, rfl⟩
    rw [h c hc] at hmem
    cases hmem
  · intro h c hc
    apply List.eq_nil_iff_forall_not_mem.mpr
    intro term hterm
    obtain ⟨-, hne, t, ht, htrim⟩ := Category.mem_marks.mp hterm
    apply hne
    rw [← htrim, Text.trim_eq_nil_iff]
    simpa using h c hc t ht

namespace Highlighter

theorem mem_terms {rules : RuleSet} {term : Term} :
    term ∈ (ofRules rules).terms ↔ ∃ c ∈ rules.categories, term ∈ c.marks := by
  simp only [ofRules, List.mem_mergeSort, RuleSet.marks, List.mem_flatMap]

theorem text_ne_nil {rules : RuleSet} {term : Term} (h : term ∈ (ofRules rules).terms) :
    term.text ≠ [] := by
  obtain ⟨c, -, hterm⟩ := mem_terms.mp h
  exact (Category.mem_marks.mp hterm).2.1

theorem isEmpty_ofRules (rules : RuleSet) : (ofRules rules).isEmpty = !rules.hasUsableTerm := by
  have hperm := List.mergeSort_perm rules.marks longerOrEqual
  rw [Bool.eq_iff_iff, isEmpty, List.isEmpty_iff, Bool.not_eq_true',
    ← RuleSet.marks_eq_nil_iff]
  change rules.marks.mergeSort longerOrEqual = [] ↔ rules.marks = []
  constructor
  · intro h
    rw [h] at hperm
    exact hperm.symm.eq_nil
  · intro h
    rw [h] at hperm
    rw [h]
    exact hperm.eq_nil

/-! ### Match order -/

theorem longerOrEqual_trans (a b c : Term) (hab : longerOrEqual a b = true)
    (hbc : longerOrEqual b c = true) : longerOrEqual a c = true := by
  simp only [longerOrEqual, decide_eq_true_eq] at *
  omega

theorem longerOrEqual_total (a b : Term) : (longerOrEqual a b || longerOrEqual b a) = true := by
  simp only [longerOrEqual, Bool.or_eq_true, decide_eq_true_eq]
  omega

/-- Longer terms come first. -/
theorem pairwise_terms (rules : RuleSet) :
    (ofRules rules).terms.Pairwise fun t u => u.text.length ≤ t.text.length := by
  have h := List.pairwise_mergeSort longerOrEqual_trans longerOrEqual_total rules.marks
  exact h.imp fun hle => by simpa [longerOrEqual] using hle

/-- Terms of one length keep the order of their definition. -/
theorem filter_terms (rules : RuleSet) (n : Nat) :
    (ofRules rules).terms.filter (·.text.length = n) = rules.marks.filter (·.text.length = n) := by
  have hsorted : (rules.marks.filter (·.text.length = n)).Pairwise
      (fun a b => longerOrEqual a b = true) := by
    apply List.pairwise_of_forall_mem_list
    intro a ha b hb
    simp only [List.mem_filter, decide_eq_true_eq] at ha hb
    simp [longerOrEqual, ha.2, hb.2]
  have hsublist := (List.sublist_mergeSort longerOrEqual_trans longerOrEqual_total hsorted
    List.filter_sublist).filter (·.text.length = n)
  rw [List.filter_filter] at hsublist
  simp only [Bool.and_self] at hsublist
  have hlength := ((List.mergeSort_perm rules.marks longerOrEqual).filter
    (·.text.length = n)).length_eq
  exact (hsublist.eq_of_length_le (Nat.le_of_eq hlength)).symm

/-- Lists with the same terms of each length have the same terms. -/
theorem mem_iff_of_filter_eq {ts us : List Term}
    (h : ∀ n, ts.filter (·.text.length = n) = us.filter (·.text.length = n)) (t : Term) :
    t ∈ ts ↔ t ∈ us := by
  have hlength : ∀ vs : List Term, t ∈ vs ↔ t ∈ vs.filter (·.text.length = t.text.length) := by
    intro vs
    simp
  rw [hlength ts, h, ← hlength us]

/-- A list in match order is determined by its terms of each length. -/
theorem eq_of_filter_eq {ts us : List Term}
    (hts : ts.Pairwise fun t u => u.text.length ≤ t.text.length)
    (hus : us.Pairwise fun t u => u.text.length ≤ t.text.length)
    (h : ∀ n, ts.filter (·.text.length = n) = us.filter (·.text.length = n)) : ts = us := by
  induction hts generalizing us with
  | nil =>
    symm
    apply List.eq_nil_iff_forall_not_mem.mpr
    intro t ht
    exact List.not_mem_nil ((mem_iff_of_filter_eq h t).mpr ht)
  | @cons t ts htmax _ ih =>
    cases hus with
    | nil => exact absurd ((mem_iff_of_filter_eq h t).mp List.mem_cons_self) List.not_mem_nil
    | @cons u us humax hus =>
      -- the first terms are both the longest, so they are the first of one length
      have hlength : t.text.length = u.text.length := by
        apply Nat.le_antisymm
        · rcases List.mem_cons.mp ((mem_iff_of_filter_eq h t).mp List.mem_cons_self) with rfl | ht
          · exact Nat.le_refl _
          · exact humax t ht
        · rcases List.mem_cons.mp ((mem_iff_of_filter_eq h u).mpr List.mem_cons_self) with rfl | hu
          · exact Nat.le_refl _
          · exact htmax u hu
      have hfirst := h u.text.length
      rw [List.filter_cons_of_pos (by simpa using hlength), List.filter_cons_of_pos (by simp)]
        at hfirst
      obtain rfl : t = u := (List.cons.inj hfirst).1
      have hrest : ∀ n, ts.filter (·.text.length = n) = us.filter (·.text.length = n) := by
        intro n
        have hn := h n
        simp only [List.filter_cons] at hn
        split at hn
        · exact (List.cons.inj hn).2
        · exact hn
      rw [ih hus hrest]

/-- The terms in match order are the only list in which longer terms come first and terms of one
    length keep the order of their definition. -/
theorem eq_terms_iff (rules : RuleSet) (terms : List Term) :
    terms = (ofRules rules).terms ↔
      terms.Pairwise (fun t u => u.text.length ≤ t.text.length) ∧
        ∀ n, terms.filter (·.text.length = n) = rules.marks.filter (·.text.length = n) := by
  constructor
  · rintro rfl
    exact ⟨pairwise_terms rules, filter_terms rules⟩
  · rintro ⟨hpairwise, hfilter⟩
    apply eq_of_filter_eq hpairwise (pairwise_terms rules)
    intro n
    rw [hfilter n, filter_terms]

/-- **The order of definition matters only between terms of one length.**  The terms in match order
    are a rearrangement of those of the set, and the only one in which longer terms come first and
    terms of one length keep the order of their definition.  So sets that define the same terms of
    each length in the same order, in whatever categories and however the lengths are mixed, mark
    the same in every text. -/
theorem markup_arrangement (rules : RuleSet) :
    (ofRules rules).terms.Perm rules.marks ∧
      (∀ terms : List Term, terms = (ofRules rules).terms ↔
        terms.Pairwise (fun t u => u.text.length ≤ t.text.length) ∧
          ∀ n, terms.filter (·.text.length = n) = rules.marks.filter (·.text.length = n)) ∧
      ∀ other : RuleSet,
        (∀ n, rules.marks.filter (·.text.length = n) = other.marks.filter (·.text.length = n)) →
          ∀ text, (ofRules rules).markup text = (ofRules other).markup text := by
  refine ⟨List.mergeSort_perm rules.marks longerOrEqual, eq_terms_iff rules, ?_⟩
  intro other hsame text
  have hterms : (ofRules rules).terms = (ofRules other).terms := by
    rw [eq_terms_iff]
    refine ⟨pairwise_terms rules, ?_⟩
    intro n
    rw [filter_terms, hsame]
  have heq : ofRules rules = ofRules other := congrArg Highlighter.mk hterms
  rw [heq]

/-- Two sets with the same terms of each length: the second opens its categories in another order,
    two of them again, and has a category without terms and terms with blank ends. -/
theorem markup_arrangement_reopened :
    let rules : RuleSet := ⟨[⟨"red", ["a", "abc"]⟩, ⟨"blue", ["ab", " xyz"]⟩]⟩
    let other : RuleSet :=
      ⟨[⟨"green", []⟩, ⟨"blue", ["ab"]⟩, ⟨"red", ["abc ", " "]⟩, ⟨"blue", ["xyz"]⟩,
        ⟨"red", ["a"]⟩]⟩
    (∀ n, rules.marks.filter (·.text.length = n) = other.marks.filter (·.text.length = n)) ∧
      ∀ text, (ofRules rules).markup text = (ofRules other).markup text := by
  intro rules other
  have hrules : rules.marks =
      [⟨['a'], "red"⟩, ⟨['a', 'b', 'c'], "red"⟩, ⟨['a', 'b'], "blue"⟩, ⟨['x', 'y', 'z'], "blue"⟩] := by
    decide
  have hother : other.marks =
      [⟨['a', 'b'], "blue"⟩, ⟨['a', 'b', 'c'], "red"⟩, ⟨['x', 'y', 'z'], "blue"⟩, ⟨['a'], "red"⟩] := by
    decide
  have hsame : ∀ n, rules.marks.filter (·.text.length = n) =
      other.marks.filter (·.text.length = n) := by
    intro n
    rw [hrules, hother]
    match n with
    | 0 | 1 | 2 | 3 => rfl
    | n + 4 => simp
  exact ⟨hsame, (markup_arrangement rules).2.2 other hsame⟩

end Highlighter

end ListenerReview
