/-
  ListenerReview/Rules/Stored.lean
  ================================
  **Rule sets in JSON** — the bare form of a rule set and the stored form, which
  carries a version, and what may be wrong with a stored set.

  Both forms are read with the names and terms as they stand and normalized
  afterwards.  The version of a stored set is looked at only when all of it has
  been read.
-/
import ListenerReview.Json.Shape
import ListenerReview.Rules.Basic

namespace ListenerReview

open Json (Fault Input Reader Shape)

/-! ### Writing -/

def Category.toJson (c : Category) : Json :=
  .object [("name", .string c.name), ("terms", Json.ofStrings c.terms)]

namespace RuleSet

def categoriesJson (rules : RuleSet) : Json := .array (rules.categories.map Category.toJson)

/-- The bare form of a set. -/
def toJson (rules : RuleSet) : Json := .object [("categories", rules.categoriesJson)]

def storedVersion : Nat := 1

/-- The stored form of a set. -/
def toStored (rules : RuleSet) : Json :=
  .object [("version", .ofNat storedVersion), ("categories", rules.categoriesJson)]

end RuleSet

/-! ### Reading -/

/-- A category whose members may be open. -/
structure Category.Draft where
  name : Option String
  terms : Option (List String)

/-- Categories have a name and terms. -/
def Category.shape : Shape Category.Draft Category where
  name := "Category"
  members :=
    [⟨"name", fun d => d.name.isSome, fun d input =>
        (Json.readString input).map fun r => ({ d with name := some r.1 }, r.2)⟩,
      ⟨"terms", fun d => d.terms.isSome, fun d input =>
        (Json.elements Json.readString input).map fun r => ({ d with terms := some r.1 }, r.2)⟩]
  empty := ⟨none, none⟩
  mayStop := false
  finish
    | ⟨none, _⟩ => .error (.missingMember "name")
    | ⟨_, none⟩ => .error (.missingMember "terms")
    | ⟨some name, some terms⟩ => .ok ⟨name, terms⟩

namespace RuleSet

/-- The bare form has the categories as its only member. -/
def shape : Shape (Option (List Category)) RuleSet where
  name := "RawRuleSet"
  members :=
    [⟨"categories", Option.isSome, fun _ input =>
      (Json.elements Category.shape.read input).map fun r => (some r.1, r.2)⟩]
  empty := none
  mayStop := false
  finish
    | none => .error (.missingMember "categories")
    | some categories => .ok ⟨categories⟩

/-- A stored set as it was read: its version and its categories. -/
structure Stored where
  version : Nat
  categories : List Category
deriving DecidableEq, Repr

/-- A stored set whose members may be open. -/
structure Stored.Draft where
  version : Option Nat
  categories : Option (List Category)

/-- The stored form has a version and categories. -/
def Stored.shape : Shape Stored.Draft Stored where
  name := "PersistedRules"
  members :=
    [⟨"version", fun d => d.version.isSome, fun d input =>
        (Json.readNatural 32 input).map fun r => ({ d with version := some r.1 }, r.2)⟩,
      ⟨"categories", fun d => d.categories.isSome, fun d input =>
        (Json.elements Category.shape.read input).map fun r =>
          ({ d with categories := some r.1 }, r.2)⟩]
  empty := ⟨none, none⟩
  mayStop := false
  finish
    | ⟨none, _⟩ => .error (.missingMember "version")
    | ⟨_, none⟩ => .error (.missingMember "categories")
    | ⟨some version, some categories⟩ => .ok ⟨version, categories⟩

/-- Reads the bare form of a set and normalizes it. -/
def ofJson (input : Input) : Except Fault RuleSet :=
  (Json.readAll shape.read input).map normalized

/-- Why a stored set cannot be used. -/
inductive StoredFault where
  | unreadable (fault : Fault)
  | version (found : Nat)
deriving DecidableEq, Repr

/-- Reads the stored form of a set and normalizes it. -/
def ofStored (input : Input) : Except StoredFault RuleSet :=
  match Json.readAll Stored.shape.read input with
  | .error fault => .error (.unreadable fault)
  | .ok stored =>
    if stored.version = storedVersion then .ok (normalized ⟨stored.categories⟩)
    else .error (.version stored.version)

end RuleSet

end ListenerReview
