/-
  ListenerReview/Proofs/Rules/Ordered.lean
  ========================================
  **A rule set is an ordered map** — a list of names without repetition, and for every
  name a list of terms.

  The two views are `RuleSet.names` and `RuleSet.termsOf`.  They determine a set whose
  names are distinct (`eq_of_views`), so to compare two ways of building a set it is
  enough to follow both views through the operations.  Opening a category adds its
  lower-case name at the end unless it is there, and adds no terms; pushing terms adds
  them to one name.  Normalizing does both for every category in turn, and its views
  can be read off the list of categories (`names_normalized`, `termsOf_normalized`).
-/
import ListenerReview.Proofs.Rules.Normal
import Mathlib.Data.List.Induction

namespace ListenerReview

/-! ### First occurrences -/

section FirstOccurrences

variable {α : Type} [BEq α] [LawfulBEq α]

theorem eraseDups_concat (l : List α) (a : α) :
    (l ++ [a]).eraseDups = if a ∈ l then l.eraseDups else l.eraseDups ++ [a] := by
  rw [List.eraseDups_append]
  split
  · next hmem => simp [List.removeAll, hmem]
  · next hnew => simp [List.removeAll, hnew, List.eraseDups_cons]

/-- First occurrences of a list are found among those of its parts. -/
theorem eraseDups_append_eraseDups (l m : List α) :
    (l.eraseDups ++ m.eraseDups).eraseDups = (l ++ m).eraseDups := by
  induction m using List.reverseRecOn with
  | nil =>
    rw [List.eraseDups_nil, List.append_nil, List.append_nil]
    induction l using List.reverseRecOn with
    | nil => rfl
    | append_singleton l a ih =>
      rw [eraseDups_concat]
      split
      · exact ih
      · next hnew => rw [eraseDups_concat, if_neg (by rwa [List.mem_eraseDups]), ih]
  | append_singleton m a ih =>
    rw [eraseDups_concat, ← List.append_assoc, eraseDups_concat]
    by_cases hm : a ∈ m
    · rw [if_pos hm, if_pos (List.mem_append_right l hm), ih]
    · rw [if_neg hm, ← List.append_assoc, eraseDups_concat, ih]
      simp only [List.mem_append, List.mem_eraseDups]

end FirstOccurrences

namespace RuleSet

variable {rules : RuleSet}

/-! ### Views -/

/-- The terms of the categories of the given name, in order. -/
def termsOf (rules : RuleSet) (name : String) : List String :=
  rules.categories.flatMap fun c => if c.name = name then c.terms else []

theorem names_append (categories others : List Category) :
    names ⟨categories ++ others⟩ = names ⟨categories⟩ ++ names ⟨others⟩ :=
  List.map_append

theorem termsOf_append (categories others : List Category) (name : String) :
    termsOf ⟨categories ++ others⟩ name = termsOf ⟨categories⟩ name ++ termsOf ⟨others⟩ name :=
  List.flatMap_append

theorem termsOf_singleton (c : Category) (name : String) :
    termsOf ⟨[c]⟩ name = if c.name = name then c.terms else [] := by
  rw [termsOf, List.flatMap_singleton]

/-- A name that no category has, has no terms. -/
theorem termsOf_eq_nil {name : String} (h : name ∉ rules.names) : rules.termsOf name = [] := by
  rw [termsOf, List.flatMap_eq_nil_iff]
  intro c hc
  apply if_neg
  rintro rfl
  exact h (List.mem_map_of_mem hc)

/-- Around a category of a set with distinct names, no category has its name. -/
theorem distinct_around {before after : List Category} {c : Category}
    (h : (names ⟨before ++ c :: after⟩).Nodup) :
    c.name ∉ names ⟨before⟩ ∧ c.name ∉ names ⟨after⟩ := by
  simp only [names, List.map_append, List.map_cons] at h
  obtain ⟨-, hafter, hapart⟩ := List.nodup_append.mp h
  exact ⟨fun hmem => hapart _ hmem _ List.mem_cons_self rfl, (List.nodup_cons.mp hafter).1⟩

theorem termsOf_name {c : Category} (h : rules.names.Nodup) (hc : c ∈ rules.categories) :
    rules.termsOf c.name = c.terms := by
  obtain ⟨before, after, hsplit⟩ := List.append_of_mem hc
  have hrules : rules = ⟨before ++ c :: after⟩ := congrArg RuleSet.mk hsplit
  rw [hrules] at h ⊢
  obtain ⟨hbefore, hafter⟩ := distinct_around h
  rw [List.append_cons, termsOf_append, termsOf_append, termsOf_singleton, if_pos rfl,
    termsOf_eq_nil hbefore, termsOf_eq_nil hafter, List.nil_append, List.append_nil]

/-- A set with distinct names is what its views say. -/
theorem categories_eq (h : rules.names.Nodup) :
    rules.categories = rules.names.map fun name => ⟨name, rules.termsOf name⟩ := by
  rw [names, List.map_map]
  refine (List.map_id' rules.categories).symm.trans (List.map_congr_left fun c hc => ?_)
  rw [Function.comp, termsOf_name h hc]

theorem eq_of_views {other : RuleSet} (h : rules.names.Nodup) (hnames : rules.names = other.names)
    (hterms : ∀ name, rules.termsOf name = other.termsOf name) : rules = other := by
  have hother : other.names.Nodup := hnames ▸ h
  have hcategories : rules.categories = other.categories := by
    rw [categories_eq h, categories_eq hother, hnames]
    simp only [hterms]
  exact congrArg RuleSet.mk hcategories

/-! ### Operations -/

theorem names_openCategory (rules : RuleSet) (name : String) :
    (rules.openCategory name).1.names =
      if Text.lowerString name ∈ rules.names then rules.names
      else rules.names ++ [Text.lowerString name] := by
  rcases openCategory_cases rules name with ⟨hmem, heq⟩ | ⟨hnew, heq⟩
  · rw [heq, if_pos hmem]
  · rw [heq, if_neg hnew, names, List.map_append]
    rfl

theorem termsOf_openCategory (rules : RuleSet) (name other : String) :
    (rules.openCategory name).1.termsOf other = rules.termsOf other := by
  rcases openCategory_cases rules name with ⟨-, heq⟩ | ⟨-, heq⟩
  · rw [heq]
  · rw [heq, termsOf_append, termsOf_singleton, ite_self, List.append_nil]

/-- The index of an opened category is that of its lower-case name. -/
theorem getElem?_openCategory (rules : RuleSet) (name : String) :
    (rules.openCategory name).1.names[(rules.openCategory name).2]? =
      some (Text.lowerString name) := by
  cases hindex : rules.categories.findIdx? (·.name == Text.lowerString name) with
  | some index =>
    obtain ⟨hlt, hname, -⟩ := List.findIdx?_eq_some_iff_getElem.mp hindex
    rw [openCategory_of_some hindex, names, List.getElem?_map, List.getElem?_eq_getElem hlt,
      Option.map_some]
    exact congrArg some (by simpa using hname)
  | none =>
    rw [openCategory_of_none hindex, names, List.map_append, size, ← List.length_map Category.name]
    exact List.getElem?_concat_length.trans (congrArg some (Text.lowerString_lowerString name))

/-- Terms are pushed to one name. -/
theorem termsOf_pushTerms (h : rules.names.Nodup) {index : Nat} {name : String}
    (hname : rules.names[index]? = some name) (texts : List String) (other : String) :
    (rules.pushTerms index texts).termsOf other =
      rules.termsOf other ++ if other = name then usable texts else [] := by
  have hlt : index < rules.categories.length := by
    rw [← List.length_map Category.name]
    exact (List.getElem?_eq_some_iff.mp hname).1
  obtain ⟨before, c, after, hsplit, hlength, hmodify⟩ :=
    List.exists_of_modify (fun c => (⟨c.name, c.terms ++ usable texts⟩ : Category)) hlt
  have hc : c.name = name := by
    rw [names, hsplit, List.map_append, List.getElem?_append_right (by simp [hlength]),
      List.length_map, hlength, Nat.sub_self] at hname
    exact Option.some.inj hname
  have hrules : rules = ⟨before ++ c :: after⟩ := congrArg RuleSet.mk hsplit
  rw [pushTerms, hmodify]
  rw [hrules] at h ⊢
  obtain ⟨-, hafter⟩ := distinct_around h
  rw [List.append_cons, List.append_cons before c]
  simp only [termsOf_append, termsOf_singleton, hc]
  by_cases hother : other = name
  · subst hother
    rw [hc] at hafter
    rw [if_pos rfl, if_pos rfl, if_pos rfl, termsOf_eq_nil hafter]
    simp
  · rw [if_neg (Ne.symm hother), if_neg (Ne.symm hother), if_neg hother, List.append_nil,
      List.append_nil]

theorem names_addCategory (rules : RuleSet) (c : Category) :
    (rules.addCategory c).names =
      if Text.lowerString c.name ∈ rules.names then rules.names
      else rules.names ++ [Text.lowerString c.name] :=
  (names_pushTerms _ _ _).trans (names_openCategory rules c.name)

theorem termsOf_addCategory (h : rules.Normal) (c : Category) (name : String) :
    (rules.addCategory c).termsOf name =
      rules.termsOf name ++ if name = Text.lowerString c.name then usable c.terms else [] := by
  have hpushed := termsOf_pushTerms (normal_openCategory h c.name).distinct
    (getElem?_openCategory rules c.name) c.terms name
  rw [termsOf_openCategory] at hpushed
  exact hpushed

/-! ### Normalizing -/

theorem normalized_concat (categories : List Category) (c : Category) :
    normalized ⟨categories ++ [c]⟩ = (normalized ⟨categories⟩).addCategory c := by
  rw [normalized, List.foldl_append]
  rfl

/-- Normalizing keeps the first occurrence of every name, in lower case. -/
theorem names_normalized (rules : RuleSet) :
    rules.normalized.names = (rules.names.map Text.lowerString).eraseDups := by
  obtain ⟨categories⟩ := rules
  induction categories using List.reverseRecOn with
  | nil => rfl
  | append_singleton categories c ih =>
    have hone : (names ⟨[c]⟩).map Text.lowerString = [Text.lowerString c.name] := rfl
    rw [normalized_concat, names_addCategory, ih, names_append, List.map_append, hone,
      eraseDups_concat]
    simp only [List.mem_eraseDups]

/-- Normalizing gathers the usable terms of every name. -/
theorem termsOf_normalized (rules : RuleSet) (name : String) :
    rules.normalized.termsOf name =
      rules.categories.flatMap fun c =>
        if name = Text.lowerString c.name then usable c.terms else [] := by
  obtain ⟨categories⟩ := rules
  induction categories using List.reverseRecOn with
  | nil => rfl
  | append_singleton categories c ih =>
    rw [normalized_concat, termsOf_addCategory (normal_normalized _), ih, List.flatMap_append,
      List.flatMap_singleton]

/-- Of names in lower case, normalizing keeps the first occurrences as they are. -/
theorem names_normalized_of_lower
    (hlower : ∀ c ∈ rules.categories, Text.lowerString c.name = c.name) :
    rules.normalized.names = rules.names.eraseDups := by
  rw [names_normalized, names, List.map_map]
  congr 1
  exact List.map_congr_left hlower

/-- Of categories in lower case with terms in normal form, of which several may have one name,
    normalizing gathers the terms as they are. -/
theorem termsOf_normalized_of_terms
    (hlower : ∀ c ∈ rules.categories, Text.lowerString c.name = c.name)
    (hterms : ∀ c ∈ rules.categories, ∀ t ∈ c.terms, IsTerm t) (name : String) :
    rules.normalized.termsOf name = rules.termsOf name := by
  rw [termsOf_normalized, termsOf, List.flatMap_def, List.flatMap_def]
  congr 1
  apply List.map_congr_left
  intro c hc
  rw [hlower c hc, usable_eq_self (hterms c hc)]
  simp only [eq_comm]

end RuleSet

end ListenerReview
