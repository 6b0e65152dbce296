/-
  ListenerReview/Proofs/Program/SavedRules.lean
  =============================================
  **Saved rule sets** — every rule set that can be obtained at all is loaded again from
  where it was saved.

  However a rule set came about (`Obtainable`), it is in normal form, since it was
  either built by the operations that keep the form or normalized when it was read.
  Saving it puts its stored text into the file, cut into writes by the buffer; loading
  reads that text, and normalizing it again changes nothing.
-/
import ListenerReview.Proofs.Program.Writing
import ListenerReview.Proofs.Rules.Written

namespace ListenerReview.Program

open Files (Buffer Bytes)
open Files.Tree (Wrote create_file read_wrote)

/-! ### Where rule sets come from -/

/-- A rule set that can be obtained: built category by category, read from rule text, from a record
    of any form, from JSON or from a file, in any world. -/
inductive Obtainable : RuleSet → Prop
  | empty : Obtainable .empty
  | openCategory {rules : RuleSet} (h : Obtainable rules) (name : String) :
      Obtainable (rules.openCategory name).1
  | pushTerms {rules : RuleSet} (h : Obtainable rules) (index : Nat) (texts : List String) :
      Obtainable (rules.pushTerms index texts)
  | ofText (text : String) : Obtainable (.ofText text)
  | ofRecord (categories : List Category) : Obtainable (RuleSet.normalized ⟨categories⟩)
  | ofJson {rules : RuleSet} {input : Json.Input} (h : RuleSet.ofJson input = .ok rules) :
      Obtainable rules
  | loaded {rules : RuleSet} {machine : Machine} {world after : World} {path : String}
      (h : (loadRules machine.host path).run world = (.ok rules, after)) : Obtainable rules

theorem normal_rulesOfBytes {rules : RuleSet} {path : String} {bytes : Bytes}
    (h : rulesOfBytes path bytes = .ok rules) : rules.Normal := by
  rw [rulesOfBytes] at h
  split at h
  · split at h
    · next hstored =>
      cases h
      exact RuleSet.normal_ofStored hstored
    · cases h
    · cases h
  · split at h
    · cases h
      exact RuleSet.normal_ofText _
    · cases h

/-- Loading changes nothing in the world. -/
theorem run_loadRules (machine : Machine) {world : World} {path : String} {bytes : Bytes}
    (h : world.files.read path = .ok bytes) :
    (loadRules machine.host path).run world = (rulesOfBytes path bytes, world) := by
  have hread : (machine.host.readFile path).run world = (Except.ok bytes, world) := by
    rw [← h]
    rfl
  rw [loadRules, StateT.run_bind, hread]
  rfl

theorem normal_loadRules {rules : RuleSet} {machine : Machine} {world after : World}
    {path : String} (h : (loadRules machine.host path).run world = (.ok rules, after)) :
    rules.Normal := by
  cases hread : world.files.read path with
  | ok bytes =>
    rw [run_loadRules machine hread] at h
    exact normal_rulesOfBytes (congrArg Prod.fst h)
  | error fault =>
    have hfail : (machine.host.readFile path).run world = (Except.error fault, world) := by
      rw [← hread]
      rfl
    rw [loadRules, StateT.run_bind, hfail] at h
    cases fault <;> cases h

theorem Obtainable.normal {rules : RuleSet} (h : Obtainable rules) : rules.Normal := by
  induction h with
  | empty => exact RuleSet.normal_empty
  | openCategory _ name ih => exact RuleSet.normal_openCategory ih name
  | pushTerms _ index texts ih => exact RuleSet.normal_pushTerms ih index texts
  | ofText text => exact RuleSet.normal_ofText text
  | ofRecord categories => exact RuleSet.normal_normalized ⟨categories⟩
  | ofJson h => exact RuleSet.normal_ofJson h
  | loaded h => exact normal_loadRules h

/-! ### Names of stored rule sets -/

/-- A path with a last name that has the extension `json`, in any case, and something before it. -/
def NamesJson (path : String) : Prop :=
  ∃ directory stem extension, path.toList = directory ++ (stem ++ '.' :: extension) ∧
    (directory = [] ∨ directory.getLast? = some '/') ∧ stem ≠ [] ∧ '/' ∉ stem ∧
    extension.map Char.toLower = "json".toList

theorem lastName_eq {path : String} {directory name : List Char}
    (hpath : path.toList = directory ++ name)
    (hdirectory : directory = [] ∨ directory.getLast? = some '/') (hslash : '/' ∉ name)
    (hname : name ≠ [] ∧ name ≠ ['.']) : lastName path = name := by
  have hlast : ∃ others, path.toList.splitOn '/' = others ++ [name] := by
    rcases hdirectory with rfl | hslashed
    · rw [hpath, List.nil_append, List.splitOn_eq_singleton hslash]
      exact ⟨[], rfl⟩
    · obtain ⟨before, rfl⟩ := List.getLast?_eq_some_iff.mp hslashed
      refine ⟨before.splitOn '/', ?_⟩
      rw [hpath, List.append_assoc, List.singleton_append, List.splitOn,
        List.splitOnP_append_cons _ _ (by simp), ← List.splitOn, ← List.splitOn,
        List.splitOn_eq_singleton hslash]
  obtain ⟨others, hothers⟩ := hlast
  rw [lastName, hothers, List.filter_append, List.filter_cons_of_pos (by simpa using hname),
    List.filter_nil, List.getLast?_concat]
  rfl

theorem isStored_of_namesJson {path : String} (h : NamesJson path) : isStored path = true := by
  obtain ⟨directory, stem, extension, hpath, hdirectory, hstem, hslash, hjson⟩ := h
  have hplain (c : Char) (hc : c.toLower ∉ "json".toList) : c ∉ extension := by
    intro hmem
    exact hc (hjson ▸ List.mem_map_of_mem hmem)
  have hpos : 0 < stem.length := List.length_pos_iff.mpr hstem
  have hfour : extension.length = 4 := by
    rw [← List.length_map, hjson]
    rfl
  have hlong {short : List Char} (hshort : short.length < 6) :
      stem ++ '.' :: extension ≠ short := by
    rintro rfl
    simp only [List.length_append, List.length_cons] at hshort
    omega
  have hname : lastName path = stem ++ '.' :: extension := by
    apply lastName_eq hpath hdirectory
    · simp only [List.mem_append, List.mem_cons, not_or]
      exact ⟨hslash, by decide, hplain '/' (by decide)⟩
    · exact ⟨hlong (by decide), hlong (by decide)⟩
  have hextension :
      ((stem ++ '.' :: extension).reverse.takeWhile (· ≠ '.')).reverse = extension := by
    rw [List.reverse_append, List.reverse_cons, List.append_assoc, List.takeWhile_append_of_pos]
    · simp
    · intro c hc
      have hne : c ≠ '.' := by
        rintro rfl
        exact hplain '.' (by decide) (List.mem_reverse.mp hc)
      simpa using hne
  have hsome : extension? path = some extension := by
    rw [extension?, hname, hextension, if_neg]
    rintro (hdots | hshort)
    · exact hlong (by decide) hdots
    · simp only [List.length_append, List.length_cons] at hshort
      omega
  rw [isStored, hsome]
  simpa using hjson

/-! ### Saving and loading -/

/-- A path by which a file of a world can be opened for writing. The device without room is no
    file. -/
def OpensFile (world : World) (path : String) : Prop :=
  ∃ made place, world.files.create path = .ok (made, .file place)

/-- Saving to a file succeeds and leaves it with the stored text. -/
theorem saveRules_file {machine : Machine} (haccepts : machine.AcceptsWrites) {world : World}
    {made : Files.Tree} {place : Files.Place} {path : String}
    (h : world.files.create path = .ok (made, .file place)) (rules : RuleSet) :
    ∃ saved : World, (saveRules machine.host rules path).run world = (.ok (), saved) ∧
      Wrote world.files saved.files place (Json.bytesOf rules.toStored.prettyText) := by
  have hmade : Wrote world.files made place [] := (create_file h).1
  have hcreate : (machine.host.create path).run world =
      (Except.ok (fileSink place), { world with files := made }) := by
    have hworld :
        world.create path = (.ok (.file (.file place)), { world with files := made }) := by
      rw [World.create, h]
    exact hworld
  have hempty : ({ world with files := made } : World).files.node? place = some (.file []) :=
    hmade.file
  obtain ⟨left, between, written, hparts, hleft, hbetween, hwritten⟩ :=
    writeParts_file haccepts hempty Buffer.sized_empty
      (machine.cutting.parts (Json.bytesOf rules.toStored.prettyText))
  -- what still waits in the buffer is written when it is emptied at the end
  obtain ⟨saved, hrest, hsaved⟩ := writeAll_file haccepts hbetween.file left.rest
  have htext : written ++ left.rest.flatten = Json.bytesOf rules.toStored.prettyText := by
    rw [hleft.flatten_rest, hwritten, machine.cutting.flatten_parts]
    rfl
  refine ⟨saved, ?_, ?_⟩
  · rw [saveRules, StateT.run_bind, hcreate]
    change StateT.run (writeParts machine.host (fileSink place) .empty _ >>= _) _ = _
    rw [StateT.run_bind, hparts]
    change StateT.run (writeAll machine.host (fileSink place) left.rest >>= _) _ = _
    rw [StateT.run_bind, hrest]
    rfl
  · rw [← htext]
    exact (hmade.trans hbetween).trans hsaved

/-- **A rule set that is saved and loaded is the same set**, whatever its names and terms are and
    however its text is handed over, and so is one that is written to JSON and read. -/
theorem loadRules_saveRules {rules : RuleSet} (h : Obtainable rules) {machine : Machine}
    (haccepts : machine.AcceptsWrites) {world : World} {path : String} (hjson : NamesJson path)
    (hfile : OpensFile world path) :
    (∃ saved : World, (saveRules machine.host rules path).run world = (.ok (), saved) ∧
      (loadRules machine.host path).run saved = (.ok rules, saved)) ∧
    RuleSet.ofJson (Json.bytesOf rules.toJson.compactText) = .ok rules := by
  obtain ⟨made, place, hcreate⟩ := hfile
  obtain ⟨saved, hsave, hwrote⟩ := saveRules_file haccepts hcreate rules
  have hread := read_wrote hcreate hwrote
  have hrules : rulesOfBytes path (Json.bytesOf rules.toStored.prettyText) = .ok rules := by
    rw [rulesOfBytes, if_pos (isStored_of_namesJson hjson), RuleSet.ofStored_toStored h.normal]
  refine ⟨⟨saved, hsave, ?_⟩, RuleSet.ofJson_toJson h.normal⟩
  rw [run_loadRules machine hread, hrules]

/-- A set with a repeated term, a quotation mark, a control character and an empty category, saved
    in a directory. -/
theorem loadRules_saveRules_quoted :
    let rules := ((((RuleSet.empty.openCategory "ΣΑΣ \"").1.pushTerms 0
      ["\\ \n", "\x01𝕒 b", "𝕒", "𝕒"]).openCategory "none").1)
    let world := World.start ⟨[(["rules"], .directory)]⟩ []
    let machine := Machine.standard
    (Obtainable rules ∧ machine.AcceptsWrites ∧ NamesJson "rules/Mine.Json" ∧
        OpensFile world "rules/Mine.Json") ∧
      (∃ saved : World,
        (saveRules machine.host rules "rules/Mine.Json").run world = (.ok (), saved) ∧
        (loadRules machine.host "rules/Mine.Json").run saved = (.ok rules, saved)) ∧
      RuleSet.ofJson (Json.bytesOf rules.toJson.compactText) = .ok rules := by
  intro rules world machine
  have hrules : Obtainable rules := .openCategory (.pushTerms (.openCategory .empty _) _ _) _
  have hjson : NamesJson "rules/Mine.Json" :=
    ⟨"rules/".toList, "Mine".toList, "Json".toList, by decide, by decide, by decide, by decide,
      by decide⟩
  have hfile : OpensFile world "rules/Mine.Json" :=
    ⟨world.files.put ["rules", "Mine.Json"] (.file []), ["rules", "Mine.Json"], by rfl⟩
  have haccepts : machine.AcceptsWrites := fun _ _ _ _ => rfl
  exact ⟨⟨hrules, haccepts, hjson, hfile⟩, loadRules_saveRules hrules haccepts hjson hfile⟩

end ListenerReview.Program
