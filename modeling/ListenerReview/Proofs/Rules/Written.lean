/-
  ListenerReview/Proofs/Rules/Written.lean
  ========================================
  **Rule sets in JSON, written and read** — both forms of a rule set, set in any
  style, are read as the set they were written from.

  The shapes of a category, of a set and of a stored set read their members by name
  (`reads_category`, `reads_bare`, `reads_stored`).  What they read is normalized, and
  that changes nothing on a set in normal form.
-/
import ListenerReview.Proofs.Json.Numbers
import ListenerReview.Proofs.Rules.Normal
import ListenerReview.Rules.Stored

namespace ListenerReview

open Json

variable {style : Style}

theorem Json.reads_strings (hstyle : style.Spaced) (depth : Nat) (texts : List String) :
    Reads (elements readString) (utf8 ((ofStrings texts).text style depth)) texts :=
  reads_elements hstyle (fun s _ => reads_string style (depth + 1) s)
    (fun s _ => starts_string style (depth + 1) s)

theorem Category.reads_category (hstyle : style.Spaced) (depth : Nat) (c : Category) :
    Reads shape.read (utf8 (c.toJson.text style depth)) c := by
  have hname : Reads (shape.readMember "name" ⟨none, none⟩)
      (memberBytes style depth (.string c.name)) ⟨some c.name, none⟩ :=
    reads_member hstyle (fun name => (⟨some name, none⟩ : Draft)) rfl rfl rfl skips_readString
      (reads_string style (depth + 1) c.name)
  have hterms : Reads (shape.readMember "terms" ⟨some c.name, none⟩)
      (memberBytes style depth (ofStrings c.terms)) ⟨some c.name, some c.terms⟩ :=
    reads_member hstyle (fun terms => (⟨some c.name, some terms⟩ : Draft)) rfl rfl rfl
      (skips_elements readString) (reads_strings hstyle (depth + 1) c.terms)
  exact reads_object hstyle (.cons hname (.cons hterms .nil)) rfl

theorem Category.starts_category (style : Style) (depth : Nat) (c : Category) :
    Starts (utf8 (c.toJson.text style depth)) := starts_object style depth _

namespace RuleSet

theorem reads_categories (hstyle : style.Spaced) (depth : Nat) (rules : RuleSet) :
    Reads (elements Category.shape.read) (utf8 (rules.categoriesJson.text style depth))
      rules.categories :=
  reads_elements hstyle (fun c _ => c.reads_category hstyle (depth + 1))
    (fun c _ => c.starts_category style (depth + 1))

theorem reads_bare (hstyle : style.Spaced) (depth : Nat) (rules : RuleSet) :
    Reads shape.read (utf8 (rules.toJson.text style depth)) rules := by
  have hcategories : Reads (shape.readMember "categories" none)
      (memberBytes style depth rules.categoriesJson) (some rules.categories) :=
    reads_member hstyle some rfl rfl rfl (skips_elements _)
      (reads_categories hstyle (depth + 1) rules)
  exact reads_object hstyle (.cons hcategories .nil) rfl

theorem reads_stored (hstyle : style.Spaced) (depth : Nat) (rules : RuleSet) :
    Reads Stored.shape.read (utf8 (rules.toStored.text style depth))
      ⟨storedVersion, rules.categories⟩ := by
  have hversion : Reads (Stored.shape.readMember "version" ⟨none, none⟩)
      (memberBytes style depth (ofNat storedVersion)) ⟨some storedVersion, none⟩ :=
    reads_member hstyle (fun version => (⟨some version, none⟩ : Stored.Draft)) rfl rfl rfl
      (skips_readNatural 32)
      (reads_natural (by decide) (by decide) style (depth + 1))
  have hcategories : Reads (Stored.shape.readMember "categories" ⟨some storedVersion, none⟩)
      (memberBytes style depth rules.categoriesJson)
      ⟨some storedVersion, some rules.categories⟩ :=
    reads_member hstyle (fun categories => (⟨some storedVersion, some categories⟩ : Stored.Draft))
      rfl rfl rfl (skips_elements _) (reads_categories hstyle (depth + 1) rules)
  exact reads_object hstyle (.cons hversion (.cons hcategories .nil)) rfl

/-! ### Whole texts -/

theorem normal_ofJson {rules : RuleSet} {input : Input} (h : ofJson input = .ok rules) :
    rules.Normal := by
  rw [ofJson] at h
  cases hread : readAll shape.read input with
  | error fault =>
    rw [hread] at h
    cases h
  | ok raw =>
    rw [hread] at h
    cases h
    exact normal_normalized raw

theorem normal_ofStored {rules : RuleSet} {input : Input} (h : ofStored input = .ok rules) :
    rules.Normal := by
  rw [ofStored] at h
  split at h
  · cases h
  · split at h
    · cases h
      exact normal_normalized _
    · cases h

/-- A normal set is read back from its compact text. -/
theorem ofJson_toJson {rules : RuleSet} (h : rules.Normal) :
    ofJson (bytesOf rules.toJson.compactText) = .ok rules := by
  rw [ofJson, compactText, bytesOf_ofList, readAll_of_reads (reads_bare spaced_compact 0 rules)]
  exact congrArg Except.ok h.normalized_eq

/-- A normal set is read back from its stored text. -/
theorem ofStored_toStored {rules : RuleSet} (h : rules.Normal) :
    ofStored (bytesOf rules.toStored.prettyText) = .ok rules := by
  rw [ofStored, prettyText, bytesOf_ofList, readAll_of_reads (reads_stored spaced_pretty 0 rules)]
  simp only [↓reduceIte]
  exact congrArg Except.ok h.normalized_eq

end RuleSet

end ListenerReview
