/-
  ListenerReview/Proofs/Rules/Indexes.lean
  ========================================
  **Indexes of categories last** — an index that opening a category gave refers to that
  category ever after.

  A rule set is built from the empty one by edits: categories are opened, terms are
  pushed to indexes, and the set is normalized.  Categories are found by name and
  changed by index.  The two agree because categories are only added at the end, no
  name comes twice, and normalizing a set that was built this way changes nothing.

  `getElem?_step` says all that an edit does to a category that is there: it may add
  terms to it.  From this follow, by induction over the edits, what a run does to one
  category (`getElem?_foldl`), and that every category holds the terms that were pushed
  to its index since it was opened (`describes_edits`).  A push to an index that has no
  category yet is lost, also if there is one later.
-/
import ListenerReview.Proofs.Rules.Ordered
import Mathlib.Data.List.Induction
import Mathlib.Data.List.Nodup

namespace ListenerReview.RuleSet

/-! ### Edits -/

/-- What may be done to a rule set. -/
inductive Edit where
  | openCategory (name : String)
  | pushTerms (index : Nat) (texts : List String)
  | normalize

def step (rules : RuleSet) : Edit → RuleSet
  | .openCategory name => (rules.openCategory name).1
  | .pushTerms index texts => rules.pushTerms index texts
  | .normalize => rules.normalized

/-- The empty set after edits. -/
def after (edits : List Edit) : RuleSet := edits.foldl step empty

theorem after_concat (edits : List Edit) (edit : Edit) :
    after (edits ++ [edit]) = (after edits).step edit := by
  simp [after]

/-- The name that an edit opens a category by, in lower case. -/
def Edit.name? : Edit → Option String
  | .openCategory name => some (Text.lowerString name)
  | _ => none

/-- The names that edits open categories by, in order and in lower case. -/
def opened (edits : List Edit) : List String := edits.filterMap Edit.name?

theorem opened_concat (edits : List Edit) (edit : Edit) :
    opened (edits ++ [edit]) = opened edits ++ edit.name?.toList := by
  cases hname : edit.name? <;> simp [opened, hname]

theorem mem_opened {edits : List Edit} {name : String} :
    name ∈ opened edits ↔ ∃ other, .openCategory other ∈ edits ∧ Text.lowerString other = name := by
  simp only [opened, List.mem_filterMap]
  constructor
  · rintro ⟨edit, hedit, hname⟩
    cases edit with
    | openCategory other => exact ⟨other, hedit, Option.some.inj hname⟩
    | pushTerms index texts => cases hname
    | normalize => cases hname
  · rintro ⟨other, hedit, rfl⟩
    exact ⟨.openCategory other, hedit, rfl⟩

/-- The terms that an edit adds to the category of the given index. -/
def Edit.termsFor (index : Nat) : Edit → List String
  | .pushTerms other texts => if other = index then usable texts else []
  | _ => []

/-! ### The form of a set that was built by edits -/

variable {rules : RuleSet}

theorem normal_step (h : rules.Normal) (edit : Edit) : (rules.step edit).Normal := by
  cases edit with
  | openCategory name => exact normal_openCategory h name
  | pushTerms index texts => exact normal_pushTerms h index texts
  | normalize => exact normal_normalized rules

theorem normal_foldl (h : rules.Normal) (edits : List Edit) : (edits.foldl step rules).Normal := by
  induction edits generalizing rules with
  | nil => exact h
  | cons edit edits ih => exact ih (normal_step h edit)

theorem normal_after (edits : List Edit) : (after edits).Normal := normal_foldl normal_empty edits

/-- Categories stand in the order in which their names were opened first. -/
theorem names_after (edits : List Edit) : (after edits).names = (opened edits).eraseDups := by
  induction edits using List.reverseRecOn with
  | nil => rfl
  | append_singleton edits edit ih =>
    rw [after_concat, opened_concat]
    cases edit with
    | openCategory name =>
      simp only [step, Edit.name?, Option.toList_some, names_openCategory, eraseDups_concat, ih,
        List.mem_eraseDups]
    | pushTerms index texts => simpa [step, names_pushTerms, Edit.name?] using ih
    | normalize => simpa [step, (normal_after edits).normalized_eq, Edit.name?] using ih

/-! ### One category -/

/-- Pushing terms changes one category. -/
theorem getElem?_pushTerms (rules : RuleSet) (index : Nat) (texts : List String) (other : Nat) :
    (rules.pushTerms index texts).categories[other]? =
      if other = index then
        rules.categories[other]?.map fun c => ⟨c.name, c.terms ++ usable texts⟩
      else rules.categories[other]? := by
  simp only [pushTerms, List.getElem?_modify]
  by_cases heq : other = index
  · simp [heq]
  · simp [heq, Ne.symm heq]

/-- A category that is there stays at its index and keeps its name, and an edit may only add terms
    to it. -/
theorem getElem?_step (h : rules.Normal) {index : Nat} {c : Category}
    (hc : rules.categories[index]? = some c) (edit : Edit) :
    (rules.step edit).categories[index]? = some ⟨c.name, c.terms ++ edit.termsFor index⟩ := by
  cases edit with
  | openCategory name =>
    rcases openCategory_cases rules name with ⟨-, heq⟩ | ⟨-, heq⟩
    · simp [step, heq, hc, Edit.termsFor]
    · have hlt : index < rules.categories.length := (List.getElem?_eq_some_iff.mp hc).1
      simp [step, heq, List.getElem?_append_left hlt, hc, Edit.termsFor]
  | pushTerms other texts =>
    rw [step, getElem?_pushTerms, hc]
    by_cases heq : index = other
    · simp [heq, Edit.termsFor]
    · simp [heq, Ne.symm heq, Edit.termsFor]
  | normalize => simp [step, h.normalized_eq, hc, Edit.termsFor]

/-- A run of edits adds to a category what is pushed to its index, in order. -/
theorem getElem?_foldl (h : rules.Normal) {index : Nat} {c : Category}
    (hc : rules.categories[index]? = some c) (edits : List Edit) :
    (edits.foldl step rules).categories[index]? =
      some ⟨c.name, c.terms ++ edits.flatMap (Edit.termsFor index)⟩ := by
  induction edits generalizing rules c with
  | nil => simpa using hc
  | cons edit edits ih =>
    have hrest := ih (normal_step h edit) (getElem?_step h hc edit)
    simpa [List.append_assoc] using hrest

/-! ### Names and indexes -/

theorem isSome_category?_iff (rules : RuleSet) (name : String) :
    (rules.category? name).isSome = true ↔ Text.lowerString name ∈ rules.names := by
  simp [category?, names]

/-- No two categories of a normal set have one name, so a name finds the category that has it. -/
theorem category?_eq (h : rules.Normal) {index : Nat} {c : Category}
    (hc : rules.categories[index]? = some c) {name : String}
    (hname : c.name = Text.lowerString name) : rules.category? name = some c := by
  have hmem : c ∈ rules.categories := List.mem_of_getElem? hc
  have hsome : (rules.category? name).isSome = true := by
    rw [isSome_category?_iff, ← hname]
    exact List.mem_map_of_mem hmem
  obtain ⟨found, hfound⟩ := Option.isSome_iff_exists.mp hsome
  have hfound' : found.name = Text.lowerString name := by
    simpa using List.find?_some (p := fun c : Category => c.name == Text.lowerString name) hfound
  have hmem' : found ∈ rules.categories := List.mem_of_find?_eq_some hfound
  rw [hfound, List.inj_on_of_nodup_map h.distinct hmem' hmem (hfound'.trans hname.symm)]

/-- Opening a category gives the index of a category of that name. -/
theorem exists_openCategory (rules : RuleSet) (name : String) :
    ∃ c, (rules.openCategory name).1.categories[(rules.openCategory name).2]? = some c ∧
      c.name = Text.lowerString name := by
  have hname := getElem?_openCategory rules name
  rw [names, List.getElem?_map, Option.map_eq_some_iff] at hname
  exact hname

/-- A name that is opened for the first time gets a category without terms, at the end. -/
theorem openCategory_new {name : String} (hnew : Text.lowerString name ∉ rules.names) :
    (rules.openCategory name).2 = rules.size ∧
      (rules.openCategory name).1.categories[rules.size]? =
        some ⟨Text.lowerString name, []⟩ := by
  rcases openCategory_cases rules name with ⟨hmem, -⟩ | ⟨-, heq⟩
  · exact absurd hmem hnew
  · rw [heq]
    exact ⟨rfl, List.getElem?_concat_length⟩

theorem after_around (earlier : List Edit) (name : String) (later : List Edit) :
    after (earlier ++ .openCategory name :: later) =
      later.foldl step ((after earlier).openCategory name).1 := by
  rw [after, List.foldl_append]
  rfl

/-- An index that opening a category gave refers to the category of that name ever after. -/
theorem index_lasts (earlier : List Edit) (name : String) (later : List Edit) :
    let index := ((after earlier).openCategory name).2
    let rules := after (earlier ++ .openCategory name :: later)
    ∃ c, rules.categories[index]? = some c ∧ c.name = Text.lowerString name ∧
      rules.category? name = some c := by
  intro index rules
  obtain ⟨c, hc, hname⟩ := exists_openCategory (after earlier) name
  have hlater := getElem?_foldl (normal_openCategory (normal_after earlier) name) hc later
  rw [← after_around] at hlater
  exact ⟨_, hlater, hname, category?_eq (normal_after _) hlater hname⟩

/-- A category that is opened for the first time gets the terms that are pushed to its index from
    then on. -/
theorem terms_since (earlier : List Edit) {name : String} (later : List Edit)
    (hnew : Text.lowerString name ∉ opened earlier) :
    (after (earlier ++ .openCategory name :: later)).categories[(after earlier).size]? =
      some ⟨Text.lowerString name, later.flatMap (Edit.termsFor (after earlier).size)⟩ := by
  have hnew' : Text.lowerString name ∉ (after earlier).names := by
    rwa [names_after, List.mem_eraseDups]
  obtain ⟨-, hc⟩ := openCategory_new hnew'
  rw [after_around]
  exact getElem?_foldl (normal_openCategory (normal_after earlier) name) hc later

/-- A name that was opened was opened for the first time by some edit. -/
theorem exists_first_opening {edits : List Edit} {name : String} (h : name ∈ opened edits) :
    ∃ earlier other later, edits = earlier ++ .openCategory other :: later ∧
      Text.lowerString other = name ∧ name ∉ opened earlier := by
  induction edits using List.reverseRecOn with
  | nil => cases h
  | append_singleton edits edit ih =>
    by_cases hbefore : name ∈ opened edits
    · obtain ⟨earlier, other, later, rfl, hother, hnew⟩ := ih hbefore
      exact ⟨earlier, other, later ++ [edit], by simp, hother, hnew⟩
    · rw [opened_concat, List.mem_append] at h
      have hlast : name ∈ edit.name?.toList := h.resolve_left hbefore
      cases edit with
      | openCategory other =>
        exact ⟨edits, other, [], rfl, by simpa [Edit.name?, eq_comm] using hlast, hbefore⟩
      | pushTerms index texts => simp [Edit.name?] at hlast
      | normalize => simp [Edit.name?] at hlast

/-- Every category was opened for the first time by some edit, when there were as many categories
    as its index says, and has the terms that were pushed to its index from then on. -/
theorem describes_edits {edits : List Edit} {index : Nat} {c : Category}
    (hc : (after edits).categories[index]? = some c) :
    ∃ earlier name later, edits = earlier ++ .openCategory name :: later ∧
      Text.lowerString name ∉ opened earlier ∧ index = (after earlier).size ∧
      c = ⟨Text.lowerString name, later.flatMap (Edit.termsFor index)⟩ := by
  have hname : c.name ∈ opened edits := by
    rw [← List.mem_eraseDups, ← names_after]
    exact List.mem_map_of_mem (List.mem_of_getElem? hc)
  obtain ⟨earlier, name, later, rfl, hlower, hnew⟩ := exists_first_opening hname
  rw [← hlower] at hnew
  have hopened := terms_since earlier later hnew
  -- distinct names tell the indexes apart
  have hindex : index = (after earlier).size := by
    have hlt : index < (after (earlier ++ .openCategory name :: later)).names.length := by
      simpa [names] using (List.getElem?_eq_some_iff.mp hc).1
    rw [← List.getElem?_inj hlt (normal_after _).distinct]
    simp [names, hc, hopened, hlower]
  refine ⟨earlier, name, later, rfl, hnew, hindex, ?_⟩
  rw [← hindex, hc] at hopened
  exact Option.some.inj hopened

/-- **A rule set is an ordered map whose indexes last.**  After any edits of an empty set, a name
    finds a category exactly when one was opened by a name with the same lower-case form; the
    categories stand in the order in which they were opened first; and the index that any opening
    gave refers to the category of its name.  Every category has, in order, the usable terms that
    were pushed to its index since it was opened first, which was at the end of the categories
    there were.  A push adds its usable terms to the category of its index, and changes no other;
    to an index without a category it changes nothing. -/
theorem after_describes (edits : List Edit) :
    let rules := after edits
    (∀ name, (rules.category? name).isSome = true ↔
        ∃ other, .openCategory other ∈ edits ∧ Text.lowerString other = Text.lowerString name) ∧
      rules.names = (opened edits).eraseDups ∧
      (∀ earlier name later, edits = earlier ++ .openCategory name :: later →
        ∃ c, rules.categories[((after earlier).openCategory name).2]? = some c ∧
          c.name = Text.lowerString name ∧ rules.category? name = some c) ∧
      (∀ index c, rules.categories[index]? = some c →
        ∃ earlier name later, edits = earlier ++ .openCategory name :: later ∧
          Text.lowerString name ∉ opened earlier ∧ index = (after earlier).size ∧
          c = ⟨Text.lowerString name, later.flatMap (Edit.termsFor index)⟩) ∧
      (∀ index texts other, (rules.pushTerms index texts).categories[other]? =
        if other = index then
          rules.categories[other]?.map fun c => ⟨c.name, c.terms ++ usable texts⟩
        else rules.categories[other]?) ∧
      ∀ index texts, rules.size ≤ index → rules.pushTerms index texts = rules := by
  intro rules
  refine ⟨?_, names_after edits, ?_, ?_, getElem?_pushTerms rules, ?_⟩
  · intro name
    rw [isSome_category?_iff, names_after, List.mem_eraseDups, mem_opened]
  · rintro earlier name later rfl
    exact index_lasts earlier name later
  · intro index c hc
    exact describes_edits hc
  · intro index texts hbeyond
    exact pushTerms_of_size_le hbeyond texts

end ListenerReview.RuleSet
