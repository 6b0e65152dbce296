/-
  ListenerReview/Proofs/Program/Saving.lean
  =========================================
  **Saving rules** — which failures of a save are reported, and which are not.

  Opening the file is looked at, and so is every write that is made while the text is
  handed over: those by which the buffer gains room, and those of parts as large as the
  buffer.  The write that empties the buffer at the end is not.  There is such a write
  unless the text ends with a part as large as the buffer, and a text that fits into the
  buffer part by part is written by it alone: saving it succeeds as soon as the file is
  open (`writeParts_of_fits`).

  A save touches nothing but the file that its path opens (`TouchedOnly`).
-/
import ListenerReview.Proofs.Program.Delivery
import ListenerReview.Proofs.Program.SavedRules

namespace ListenerReview

open Files (Buffer Bytes OsFault Tree)
open Act (AllAccepted StoppedBy written written_append allAccepted_append allAccepted_singleton)

/-! ### What waits in a buffer -/

namespace Files.Buffer

theorem size_push_le {buffer : Buffer} (h : buffer.size ≤ capacity) (part : Bytes) :
    (buffer.push part).2.size ≤ capacity := by
  rw [push]
  split
  · next hroom => exact hroom.1
  · by_cases hfull : capacity < buffer.size + part.length
    · simp only [hfull, ↓reduceIte]
      split
      · exact Nat.zero_le _
      · simp only [gather, empty]
        omega
    · simp only [hfull, ↓reduceIte]
      split
      · exact h
      · simp only [gather]
        omega

/-- A part as large as the whole buffer leaves nothing waiting. -/
theorem size_push_of_large {buffer : Buffer} {part : Bytes} (hlarge : capacity ≤ part.length) :
    (buffer.push part).2.size = 0 := by
  rw [push, if_neg (by omega)]
  by_cases hfull : capacity < buffer.size + part.length
  · simp only [hfull, hlarge, ↓reduceIte]
    rfl
  · simp only [hfull, hlarge, ↓reduceIte]
    omega

theorem size_push_pos (buffer : Buffer) {part : Bytes} (hpart : part ≠ [])
    (hroom : part.length < capacity) : 0 < (buffer.push part).2.size := by
  have hpos : 0 < part.length := List.length_pos_iff.mpr hpart
  rw [push]
  split
  · simp only [gather]
    omega
  · simp only [if_neg (Nat.not_le.mpr hroom), gather]
    omega

theorem push_of_fits {buffer : Buffer} {part : Bytes} (hroom : part.length < capacity)
    (hfits : buffer.size + part.length ≤ capacity) :
    buffer.push part = ([], buffer.gather part) := by
  rw [push, if_pos ⟨hfits, hroom⟩]

/-- Parts that the buffer takes without a write: together they fit into it, and none of them is as
    large as all of it. -/
def Fits (parts : List Bytes) : Prop :=
  parts.flatten.length ≤ capacity ∧ ∀ part ∈ parts, part.length < capacity

end Files.Buffer

namespace Program

theorem pushed_append_singleton (buffer : Buffer) (parts : List Bytes) (last : Bytes) :
    pushed buffer (parts ++ [last]) = ((pushed buffer parts).push last).2 := by
  rw [pushed, List.foldl_append]
  rfl

theorem size_pushed_le {buffer : Buffer} (h : buffer.size ≤ Buffer.capacity) (parts : List Bytes) :
    (pushed buffer parts).size ≤ Buffer.capacity := by
  induction parts generalizing buffer with
  | nil => exact h
  | cons part parts ih => exact ih (Buffer.size_push_le h part)

section

variable {m : Type → Type} [Monad m] [LawfulMonad m] (host : Host m) (sink : host.Sink)

theorem writeAll_singleton (bytes : Bytes) :
    writeAll host sink [bytes] = host.write sink bytes := by
  calc writeAll host sink [bytes] = host.write sink bytes >>= pure := by
        apply bind_congr
        intro outcome
        cases outcome with
        | error fault => rfl
        | ok => rfl
    _ = host.write sink bytes := bind_pure _

theorem writeParts_of_room {buffer : Buffer} {parts : List Bytes}
    (hparts : ∀ part ∈ parts, part.length < Buffer.capacity)
    (hfits : buffer.size + parts.flatten.length ≤ Buffer.capacity) :
    writeParts host sink buffer parts = pure (.ok (pushed buffer parts)) := by
  induction parts generalizing buffer with
  | nil => rfl
  | cons part parts ih =>
    rw [List.flatten_cons, List.length_append] at hfits
    have hpush : buffer.push part = ([], buffer.gather part) :=
      Buffer.push_of_fits (hparts part List.mem_cons_self) (by omega)
    have hrest := @ih (buffer.gather part) (fun p hp => hparts p (List.mem_cons_of_mem _ hp))
      (by simp only [Buffer.gather]; omega)
    have hpushed : pushed buffer (part :: parts) = pushed (buffer.gather part) parts := by
      rw [pushed, List.foldl_cons, hpush]
      rfl
    rw [writeParts, hpush, hpushed]
    simp only [writeAll, pure_bind, hrest]

/-- Parts that fit into the buffer cause no write. -/
theorem writeParts_of_fits {parts : List Bytes} (h : Buffer.Fits parts) :
    writeParts host sink .empty parts = pure (.ok (pushed .empty parts)) := by
  apply writeParts_of_room host sink h.2
  rw [Buffer.empty, Nat.zero_add]
  exact h.1

end

/-- What is left when the buffer has taken all parts: the end of the text, for one more write, or
    nothing, if the last part is as large as the whole buffer. -/
theorem rest_pushed (others : List Bytes) {final : Bytes} (hfinal : final ≠ [])
    (hsized : (pushed .empty (others ++ [final])).Sized) :
    (∃ last, (pushed .empty (others ++ [final])).rest = [last] ∧
        (pushed .empty (others ++ [final])).bytes = last ∧ last ≠ [] ∧
        last.length ≤ Buffer.capacity) ∨
      ((pushed .empty (others ++ [final])).rest = [] ∧
        (pushed .empty (others ++ [final])).bytes = [] ∧ Buffer.capacity ≤ final.length) := by
  rcases Nat.lt_or_ge final.length Buffer.capacity with hroom | hlarge
  · have hpos : 0 < (pushed .empty (others ++ [final])).size := by
      rw [pushed_append_singleton]
      exact Buffer.size_push_pos _ hfinal hroom
    refine .inl ⟨_, ?_, rfl, ?_, ?_⟩
    · rw [Buffer.rest, if_neg (Nat.pos_iff_ne_zero.mp hpos)]
    · rwa [← List.length_pos_iff, ← hsized]
    · rw [← hsized]
      exact size_pushed_le (Nat.zero_le _) _
  · have hzero : (pushed .empty (others ++ [final])).size = 0 := by
      rw [pushed_append_singleton]
      exact Buffer.size_push_of_large hlarge
    refine .inr ⟨?_, ?_, hlarge⟩
    · rw [Buffer.rest, if_pos hzero]
    · rw [← List.length_eq_zero_iff, ← hsized, hzero]

/-- Parts are handed over without a write if they fit, and else up to the first write that is
    refused. -/
theorem runs_handOver (machine : Machine) (sink : World.Sink) (parts : List Bytes)
    (world : World) :
    ∃ outcome spills after,
      Runs (writeParts machine.host.recorded sink .empty parts) world outcome spills after ∧
      Batch sink world spills after ∧
      ((outcome = .ok (pushed .empty parts) ∧ AllAccepted spills ∧ (pushed .empty parts).Sized ∧
          written spills ++ (pushed .empty parts).bytes = parts.flatten ∧
          (Buffer.Fits parts → spills = [])) ∨
        ∃ fault, outcome = .error fault ∧ StoppedBy fault spills ∧ ¬Buffer.Fits parts) := by
  obtain ⟨outcome, spills, after, hruns, hbatch, hended⟩ :=
    runs_writeParts machine sink parts Buffer.sized_empty world
  have hquiet (hfits : Buffer.Fits parts) :
      outcome = .ok (pushed .empty parts) ∧ spills = [] := by
    rw [writeParts_of_fits _ _ hfits] at hruns
    obtain ⟨houtcome, hspills, -⟩ := hruns.unique (.pure world _)
    exact ⟨houtcome, hspills⟩
  refine ⟨outcome, spills, after, hruns, hbatch, ?_⟩
  rcases hended with ⟨rfl, haccepted, hsized, hwritten⟩ | ⟨fault, rfl, hstopped⟩
  · exact .inl ⟨rfl, haccepted, hsized, hwritten, fun hfits => (hquiet hfits).2⟩
  · refine .inr ⟨fault, rfl, hstopped, ?_⟩
    intro hfits
    cases (hquiet hfits).1

/-! ### Saving -/

/-- Between two worlds at most the file that a path opens was changed. -/
structure TouchedOnly (path : String) (before after : World) : Prop where
  input : after.input = before.input
  output : after.output = before.output
  files : ∀ place, after.files.node? place ≠ before.files.node? place →
    ∃ made, before.files.create path = .ok (made, .file place)

theorem TouchedOnly.refl (path : String) (world : World) : TouchedOnly path world world where
  input := rfl
  output := rfl
  files _ hchanged := absurd rfl hchanged

theorem touchedOnly_of_frame {path : String} {before after : World} {made : Tree}
    {opened : Tree.Sink} (hcreate : before.files.create path = .ok (made, opened))
    (hframe : World.Frame (.file opened) before after) : TouchedOnly path before after where
  input := hframe.input
  output := hframe.output (by simp)
  files place hchanged := by
    by_cases hplace : opened = .file place
    · exact ⟨made, hplace ▸ hcreate⟩
    · exact absurd (hframe.nodes place (by simpa using hplace)) hchanged

/-- The ends of a save of a text that is handed over in parts, with what was done until then. -/
inductive SaveEnd (path : String) (parts : List Bytes) :
    Except ReviewFault Unit → List (Act World.Sink) → Prop
  | notCreated (fault : OsFault) :
    SaveEnd path parts (.error (.rulesNotCreated path fault)) [.create path (.error fault)]
  /-- A write that was made while the text was handed over has failed. There is none if the parts
      fit into the buffer. -/
  | notWritten {opened : Tree.Sink} {spills : List (Act World.Sink)} {fault : OsFault}
    (hlong : ¬Buffer.Fits parts)
    (hwrites : ∀ act ∈ spills, ∃ bytes outcome, act = .write (.file opened) bytes outcome)
    (hstopped : StoppedBy fault spills) :
    SaveEnd path parts (.error (.rulesNotWritten fault))
      (.create path (.ok (.file opened)) :: spills)
  /-- The last write may have failed. -/
  | closed {opened : Tree.Sink} {spills : List (Act World.Sink)} {last : Bytes}
    (closing : Except OsFault Unit)
    (hwrites : ∀ act ∈ spills, ∃ bytes outcome, act = .write (.file opened) bytes outcome)
    (haccepted : AllAccepted spills) (htext : written spills ++ last = parts.flatten)
    (hlast : last ≠ []) (hfits : last.length ≤ Buffer.capacity)
    (hshort : Buffer.Fits parts → spills = []) :
    SaveEnd path parts (.ok ())
      (.create path (.ok (.file opened)) :: (spills ++ [.write (.file opened) last closing]))
  /-- The last part was as large as the whole buffer, so that nothing was left to write. -/
  | emptied {opened : Tree.Sink} {spills : List (Act World.Sink)} {others : List Bytes}
    {final : Bytes} (hparts : parts = others ++ [final])
    (hlarge : Buffer.capacity ≤ final.length)
    (hwrites : ∀ act ∈ spills, ∃ bytes outcome, act = .write (.file opened) bytes outcome)
    (haccepted : AllAccepted spills) (htext : written spills = parts.flatten) :
    SaveEnd path parts (.ok ()) (.create path (.ok (.file opened)) :: spills)

/-- The parts in which the stored form of a rule set is handed over. -/
def savedParts (machine : Machine) (rules : RuleSet) : List Bytes :=
  machine.cutting.parts (Json.bytesOf rules.toStored.prettyText)

theorem flatten_savedParts (machine : Machine) (rules : RuleSet) :
    (savedParts machine rules).flatten = Json.bytesOf rules.toStored.prettyText :=
  machine.cutting.flatten_parts _

theorem savedText_ne_nil (rules : RuleSet) : Json.bytesOf rules.toStored.prettyText ≠ [] := by
  rw [Json.prettyText, Json.bytesOf_ofList]
  simp [RuleSet.toStored, Json.text, Json.utf8_cons, String.utf8EncodeChar_ne_nil]

theorem exists_savedParts (machine : Machine) (rules : RuleSet) :
    ∃ others final, savedParts machine rules = others ++ [final] ∧ final ≠ [] := by
  rcases List.eq_nil_or_concat (savedParts machine rules) with hnil | ⟨others, final, hparts⟩
  · refine absurd ?_ (savedText_ne_nil rules)
    rw [← flatten_savedParts machine, hnil]
    rfl
  · have hmem : final ∈ savedParts machine rules := by simp [hparts]
    exact ⟨others, final, by rw [hparts, List.concat_eq_append],
      machine.cutting.ne_nil _ final hmem⟩

theorem runs_saveRules (machine : Machine) (rules : RuleSet) (path : String) (world : World) :
    ∃ outcome acts after,
      Runs (saveRules machine.host.recorded rules path) world outcome acts after ∧
      SaveEnd path (savedParts machine rules) outcome acts ∧
      TouchedOnly path world after ∧ after.said = world.said ∧
      (AllAccepted acts → FileHolds world after path rules.toStored.prettyText) := by
  have hcreate := runs_create machine path world
  rcases World.create_cases world path with
    ⟨fault, hrefused⟩ | ⟨opened, made, hmade, hfiles, hframe, hempty⟩
  · rw [hrefused] at hcreate
    refine ⟨_, _, world, hcreate.bind_quiet (.pure _ _), .notCreated fault, .refl path world, rfl,
      ?_⟩
    intro hdone
    cases allAccepted_singleton.mp hdone
  · rw [hmade] at hcreate
    -- whatever was written to the file is the text if all of it was accepted
    have hholds {acts : List (Act World.Sink)} {after : World}
        (hbatch : Batch (.file opened) made acts after)
        (htext : written acts = (savedParts machine rules).flatten)
        (hdone : AllAccepted (.create path (.ok (.file opened)) :: acts)) :
        FileHolds world after path rules.toStored.prettyText := by
      have hcontents := hbatch.contents (List.forall_mem_cons.mp hdone).2 [] hempty
      rw [htext, flatten_savedParts, List.nil_append] at hcontents
      exact fileHolds_of_contents hfiles (hframe.trans hbatch.frame) hcontents
        (savedText_ne_nil rules)
    obtain ⟨handed, spills, between, hruns, hbatch, hended⟩ :=
      runs_handOver machine (.file opened) (savedParts machine rules) made
    rcases hended with ⟨rfl, haccepted, hsized, htext, hshort⟩ | ⟨fault, rfl, hstopped, hlong⟩
    · obtain ⟨others, final, hparts, hfinal⟩ := exists_savedParts machine rules
      have hleft := rest_pushed others hfinal (hparts ▸ hsized)
      rw [← hparts] at hleft
      rcases hleft with ⟨last, hrest, hbytes, hlast, hfits⟩ | ⟨hrest, hbytes, hlarge⟩
      · rw [hbytes] at htext
        have hclosing := runs_write machine (.file opened) last between
        have hall := hbatch.append (.write machine (.file opened) last between)
        have hframes := hframe.trans hall.frame
        have hwritten : written (spills ++ [.write (.file opened) last
            (between.writeOr machine.writeFaults (.file opened) last).1]) =
              (savedParts machine rules).flatten := by
          rw [written_append, ← htext]
          exact congrArg _ (List.append_nil last)
        rw [← writeAll_singleton, ← hrest] at hclosing
        exact ⟨.ok (), _, _, hcreate.bind (hruns.bind (hclosing.bind_quiet (.pure _ _))),
          .closed _ hbatch.toSink haccepted htext hlast hfits hshort,
          touchedOnly_of_frame hfiles hframes, hframes.said, hholds hall hwritten⟩
      · rw [hbytes, List.append_nil] at htext
        have hframes := hframe.trans hbatch.frame
        have hclosing : Runs (writeAll machine.host.recorded (.file opened)
            (pushed .empty (savedParts machine rules)).rest) between (.ok ()) [] between := by
          rw [hrest]
          exact .pure between _
        exact ⟨.ok (), _, _, hcreate.bind (hruns.bind_quiet (hclosing.bind_quiet (.pure _ _))),
          .emptied hparts hlarge hbatch.toSink haccepted htext,
          touchedOnly_of_frame hfiles hframes, hframes.said, hholds hbatch htext⟩
    · have hframes := hframe.trans hbatch.frame
      refine ⟨.error (.rulesNotWritten fault), _, between,
        hcreate.bind (hruns.bind_quiet (.pure _ _)), .notWritten hlong hbatch.toSink hstopped,
        touchedOnly_of_frame hfiles hframes, hframes.said, ?_⟩
      intro hdone
      exact absurd (allAccepted_append.mp hdone).2 hstopped.not_allAccepted

/-- **What a save reports.**  For every rule set, path and world, whichever writes the machine
    refuses and however the text is cut into parts: opening the file is looked at and so are the
    writes that are made while the text is handed over, and the first of them that fails is the
    fault that is reported; then the program says so and ends with exit code 2.  The write that
    empties the buffer at the end is not looked at: it takes the last bytes of the text, at least
    one and at most as many as fit into the buffer, and all of them if the parts fit.  There is no
    such write only if the last part is as large as the buffer.  If everything is accepted, the file
    holds the text. -/
theorem saveRules_reports (machine : Machine) (rules : RuleSet) (path : String)
    (options : Options) (world : World) :
    ∃ outcome acts after,
      Runs (saveRules machine.host.recorded rules path) world outcome acts after ∧
      (saveRules machine.host rules path).run world = (outcome, after) ∧
      SaveEnd path (savedParts machine rules) outcome acts ∧
      TouchedOnly path world after ∧ after.said = world.said ∧
      (AllAccepted acts → FileHolds world after path rules.toStored.prettyText) ∧
      (keepRules machine.host { options with saveRules := some path } rules).run world =
        match outcome with
        | .error fault =>
          (fail machine.host ("Error saving rules: " ++ fault.message)).run after
        | .ok () =>
          (progress machine.host { options with saveRules := some path }
            ("Saved rule set to '" ++ path ++ "'")
            (reviewRecords machine.host { options with saveRules := some path } rules)).run
              after := by
  obtain ⟨outcome, acts, after, hruns, hend, honly, hsaid, hholds⟩ :=
    runs_saveRules machine rules path world
  have hplain : (saveRules machine.host rules path).run world = (outcome, after) :=
    hruns.run_eq ((alike_recorded machine.host).saveRules rules path)
  refine ⟨outcome, acts, after, hruns, hplain, hend, honly, hsaid, hholds, ?_⟩
  rw [keepRules, StateT.run_bind, hplain]
  cases outcome with
  | error fault => rfl
  | ok => rfl

/-- A save that is said to have succeeded although not a byte of the text was accepted: the text
    fits into the buffer, and the device has no room for the one write of it. -/
theorem saveRules_unreported :
    let machine := Machine.standard
    let world := World.start .empty (Json.bytesOf "[]")
    let text := Json.bytesOf RuleSet.empty.toStored.prettyText
    ((saveRules machine.host.recorded .empty "/dev/full").run []).run world =
        ((.ok (), [.create "/dev/full" (.ok (.file .fullDevice)),
          .write (.file .fullDevice) text (.error .noSpace)]), world) ∧
      ((run machine.host ["--save-rules", "/dev/full", "-"]).run world).1 = succeeded ∧
      ((run machine.host ["--save-rules", "/dev/full", "-"]).run world).2.said =
        [.progress "Saved rule set to '/dev/full'", .progress "Loaded 0 listener records"] :=
  ⟨rfl, rfl, rfl⟩

end Program

end ListenerReview
