/-
  ListenerReview/Rules/Basic.lean
  ===============================
  **Rule sets** — categories of terms to mark, in the order of their definition.

  Categories are found by the lower-case form of their names and opened at most
  once, at the end; terms are added to a category trimmed and unless blank.
  `normalized` rebuilds a set by these two operations alone, so that sets from
  outside get the same form as sets that were built here.
-/
import ListenerReview.Text.Case

namespace ListenerReview

/-- A category: its lower-case name and its terms, none blank, in order of definition. -/
structure Category where
  name : String
  terms : List String
deriving DecidableEq, Repr

/-- A category of the given name without terms. -/
def Category.new (name : String) : Category := ⟨Text.lowerString name, []⟩

/-- Categories in order of definition. -/
structure RuleSet where
  categories : List Category
deriving DecidableEq, Repr

namespace RuleSet

def empty : RuleSet := ⟨[]⟩

/-- The number of categories, those without terms included. -/
def size (rules : RuleSet) : Nat := rules.categories.length

/-- Whether no category has a term. -/
def isEmpty (rules : RuleSet) : Bool := rules.categories.all (·.terms.isEmpty)

def termCount (rules : RuleSet) : Nat :=
  rules.categories.foldl (fun n category => n + category.terms.length) 0

/-- The category of the given name, in any case. -/
def category? (rules : RuleSet) (name : String) : Option Category :=
  rules.categories.find? (·.name == Text.lowerString name)

/-- Opens the category of the given name, at the end if there is none yet: the set and the index
    of the category in it. -/
def openCategory (rules : RuleSet) (name : String) : RuleSet × Nat :=
  let name := Text.lowerString name
  match rules.categories.findIdx? (·.name == name) with
  | some index => (rules, index)
  | none => (⟨rules.categories ++ [Category.new name]⟩, rules.categories.length)

/-- The trimmed texts of those that are not blank. -/
def usable (texts : List String) : List String :=
  (texts.map fun t => String.ofList (Text.trim t.toList)).filter (· ≠ "")

/-- Adds terms at the end of the category of the given index; without such a category, nothing. -/
def pushTerms (rules : RuleSet) (index : Nat) (texts : List String) : RuleSet :=
  ⟨rules.categories.modify index fun c => ⟨c.name, c.terms ++ usable texts⟩⟩

/-- Opens a category and adds terms to it. -/
def addCategory (rules : RuleSet) (c : Category) : RuleSet :=
  let (rules, index) := rules.openCategory c.name
  rules.pushTerms index c.terms

/-- The set rebuilt category by category. -/
def normalized (rules : RuleSet) : RuleSet := rules.categories.foldl addCategory empty

theorem openCategory_of_some {rules : RuleSet} {name : String} {index : Nat}
    (h : rules.categories.findIdx? (·.name == Text.lowerString name) = some index) :
    rules.openCategory name = (rules, index) := by
  simp [openCategory, h]

theorem openCategory_of_none {rules : RuleSet} {name : String}
    (h : rules.categories.findIdx? (·.name == Text.lowerString name) = none) :
    rules.openCategory name =
      (⟨rules.categories ++ [Category.new (Text.lowerString name)]⟩, rules.size) := by
  simp [openCategory, h, size]

/-- An index beyond the categories is ignored. -/
theorem pushTerms_of_size_le {rules : RuleSet} {index : Nat} (h : rules.size ≤ index)
    (texts : List String) : rules.pushTerms index texts = rules := by
  simp only [pushTerms]
  rw [List.modify_eq_self h]

end RuleSet

end ListenerReview
