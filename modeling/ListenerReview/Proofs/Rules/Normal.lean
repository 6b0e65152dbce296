/-
  ListenerReview/Proofs/Rules/Normal.lean
  =======================================
  **The normal form of rule sets** — no name twice, no name with a capital, and terms
  that are trimmed and not blank.

  Whatever opens categories and adds terms keeps the form (`normal_openCategory`,
  `normal_pushTerms`), so normalizing gives it to any list of categories, and reading
  rule text only ever passes through sets that have it.  On a set that has it,
  normalizing changes nothing (`Normal.normalized_eq`): each category is opened again
  at the end, where it stood, because lower-casing its name a second and a third time
  gives the same name.
-/
import ListenerReview.Proofs.Text.Lower
import ListenerReview.Rules.Source

namespace ListenerReview

/-! ### Terms -/

/-- A text as it may stand among the terms of a category: not blank, and without blank ends. -/
def IsTerm (text : String) : Prop := text ≠ "" ∧ String.ofList (Text.trim text.toList) = text

namespace RuleSet

theorem isTerm_of_mem_usable {texts : List String} {t : String} (h : t ∈ usable texts) :
    IsTerm t := by
  obtain ⟨hmem, hne⟩ := List.mem_filter.mp h
  obtain ⟨text, -, rfl⟩ := List.mem_map.mp hmem
  constructor
  · simpa using hne
  · rw [String.toList_ofList, Text.trim_trim]

theorem usable_eq_self {texts : List String} (h : ∀ t ∈ texts, IsTerm t) :
    usable texts = texts := by
  have hmap : texts.map (fun t => String.ofList (Text.trim t.toList)) = texts := by
    rw [List.map_congr_left fun t ht => (h t ht).2, List.map_id']
  rw [usable, hmap]
  apply List.filter_eq_self.mpr
  intro t ht
  simpa using (h t ht).1

/-! ### The normal form -/

/-- The names of the categories. -/
def names (rules : RuleSet) : List String := rules.categories.map Category.name

/-- A rule set as its operations leave it. -/
structure Normal (rules : RuleSet) : Prop where
  distinct : rules.names.Nodup
  lower : ∀ name ∈ rules.names, Text.lowerString name = name
  terms : ∀ c ∈ rules.categories, ∀ t ∈ c.terms, IsTerm t

theorem normal_empty : Normal empty where
  distinct := List.nodup_nil
  lower := by simp [names, empty]
  terms := by simp [empty]

/-- What opening a category does: nothing if its name is there in lower case, else one more category
    at the end. -/
theorem openCategory_cases (rules : RuleSet) (name : String) :
    (Text.lowerString name ∈ rules.names ∧ (rules.openCategory name).1 = rules) ∨
      (Text.lowerString name ∉ rules.names ∧ rules.openCategory name =
        (⟨rules.categories ++ [⟨Text.lowerString name, []⟩]⟩, rules.size)) := by
  cases hindex : rules.categories.findIdx? (·.name == Text.lowerString name) with
  | some index =>
    left
    obtain ⟨h, hname, -⟩ := List.findIdx?_eq_some_iff_getElem.mp hindex
    constructor
    · exact List.mem_map.mpr ⟨rules.categories[index], List.getElem_mem h, by simpa using hname⟩
    · rw [openCategory_of_some hindex]
  | none =>
    right
    constructor
    · intro hmem
      obtain ⟨c, hc, hname⟩ := List.mem_map.mp hmem
      have hne := List.findIdx?_eq_none_iff.mp hindex c hc
      simp [hname] at hne
    · rw [openCategory_of_none hindex, Category.new, Text.lowerString_lowerString]

theorem normal_openCategory {rules : RuleSet} (h : rules.Normal) (name : String) :
    (rules.openCategory name).1.Normal := by
  rcases openCategory_cases rules name with ⟨-, heq⟩ | ⟨hnew, heq⟩
  · rw [heq]
    exact h
  · rw [heq]
    constructor
    · rw [names, List.map_append, List.map_singleton, List.nodup_append]
      refine ⟨h.distinct, by simp, ?_⟩
      intro a ha b hb hab
      rw [List.mem_singleton] at hb
      rw [hab, hb] at ha
      exact hnew ha
    · intro a ha
      rw [names, List.map_append, List.map_singleton, List.mem_append, List.mem_singleton] at ha
      rcases ha with ha | rfl
      · exact h.lower a ha
      · exact Text.lowerString_lowerString name
    · intro c hc
      rcases List.mem_append.mp hc with hc | hc
      · exact h.terms c hc
      · rw [List.mem_singleton.mp hc]
        simp

theorem names_pushTerms (rules : RuleSet) (index : Nat) (texts : List String) :
    (rules.pushTerms index texts).names = rules.names := by
  apply List.ext_getElem?
  intro i
  simp only [names, pushTerms, List.getElem?_map, List.getElem?_modify]
  split <;> cases rules.categories[i]? <;> rfl

theorem normal_pushTerms {rules : RuleSet} (h : rules.Normal) (index : Nat)
    (texts : List String) : (rules.pushTerms index texts).Normal where
  distinct := by
    rw [names_pushTerms]
    exact h.distinct
  lower := by
    rw [names_pushTerms]
    exact h.lower
  terms := by
    intro c hc t ht
    obtain ⟨i, hi, rfl⟩ := List.mem_iff_getElem.mp hc
    have hlength : i < rules.categories.length := by simpa [pushTerms] using hi
    simp only [pushTerms, List.getElem_modify] at ht
    split at ht
    · rcases List.mem_append.mp ht with ht | ht
      · exact h.terms _ (List.getElem_mem hlength) t ht
      · exact isTerm_of_mem_usable ht
    · exact h.terms _ (List.getElem_mem hlength) t ht

theorem normal_addCategory {rules : RuleSet} (h : rules.Normal) (c : Category) :
    (rules.addCategory c).Normal :=
  normal_pushTerms (normal_openCategory h c.name) _ c.terms

/-- Any list of categories is brought into the form. -/
theorem normal_normalized (rules : RuleSet) : rules.normalized.Normal :=
  List.foldlRecOn rules.categories addCategory normal_empty fun _ h c _ => normal_addCategory h c

/-! ### Rule text -/

theorem normal_takeLine {reading : Reading} (h : reading.rules.Normal) (line : List Char) :
    (reading.takeLine line).rules.Normal := by
  rw [Reading.takeLine]
  split
  · exact normal_openCategory h _
  · split
    · exact normal_pushTerms h _ _
    · exact h

theorem normal_ofText (text : String) : (ofText text).Normal := by
  unfold ofText
  apply List.foldlRecOn (motive := fun reading : Reading => reading.rules.Normal)
  · exact normal_empty
  · exact fun _ h line _ => normal_takeLine h line

/-! ### Normalizing a normal set -/

theorem modify_concat (categories : List Category) (c : Category) (f : Category → Category) :
    (categories ++ [c]).modify categories.length f = categories ++ [f c] := by
  induction categories with
  | nil => rfl
  | cons d categories ih => exact congrArg (d :: ·) ih

/-- A category in normal form is added at the end. -/
theorem addCategory_eq {rules : RuleSet} {c : Category} (hlower : Text.lowerString c.name = c.name)
    (hnew : c.name ∉ rules.names) (hterms : ∀ t ∈ c.terms, IsTerm t) :
    rules.addCategory c = ⟨rules.categories ++ [c]⟩ := by
  rcases openCategory_cases rules c.name with ⟨hmem, -⟩ | ⟨-, heq⟩
  · rw [hlower] at hmem
    exact absurd hmem hnew
  · rw [addCategory, heq, hlower]
    simp only [pushTerms, size]
    rw [modify_concat, usable_eq_self hterms]
    rfl

/-- **On a normal set, normalizing changes nothing.** -/
theorem Normal.normalized_eq {rules : RuleSet} (h : rules.Normal) : rules.normalized = rules := by
  -- the categories before are in place, those after are still to be added
  have hfold (before after : List Category) (hnormal : Normal ⟨before ++ after⟩) :
      after.foldl addCategory ⟨before⟩ = ⟨before ++ after⟩ := by
    induction after generalizing before with
    | nil => rw [List.append_nil]; rfl
    | cons c after ih =>
      have hmem : c ∈ before ++ c :: after := by simp
      have hnew : c.name ∉ names ⟨before⟩ := by
        have hdistinct := hnormal.distinct
        rw [names, List.map_append, List.map_cons] at hdistinct
        intro hc
        exact (List.nodup_append.mp hdistinct).2.2 _ hc _ List.mem_cons_self rfl
      have hshift : before ++ c :: after = before ++ [c] ++ after := List.append_cons before c after
      rw [List.foldl_cons, addCategory_eq (hnormal.lower _ (List.mem_map_of_mem hmem)) hnew
        (hnormal.terms c hmem), hshift]
      exact ih _ (hshift ▸ hnormal)
  exact hfold [] rules.categories h

end RuleSet

end ListenerReview
