/-
  ListenerReview/Proofs/Program/Delivery.lean
  ===========================================
  **Delivering** — what a program does when it writes a text through a buffer, in a
  world that may refuse writes.

  Writes to a sink form a batch, which ends with the first write that is refused
  (`runs_writeAll`).  The buffer only decides how the parts are cut into writes: what
  is written and what still waits are together the parts (`runs_writeParts`).  A
  delivery makes the last write itself and looks at its outcome, so it succeeds exactly
  if everything was accepted, and then all of the text is there (`runs_deliver`).
-/
import ListenerReview.Proofs.Program.Acts
import ListenerReview.Proofs.Json.Strings

namespace ListenerReview

open Files (Buffer Bytes OsFault Tree)
open Files.Tree (Wrote)

namespace Act

variable {Sink : Type}

/-- The host did all it was asked to. -/
def AllAccepted (acts : List (Act Sink)) : Prop := ∀ act ∈ acts, act.accepted = true

/-- The last act is a write that failed, and nothing failed before. -/
def StoppedBy (fault : OsFault) (acts : List (Act Sink)) : Prop :=
  ∃ done sink bytes, acts = done ++ [.write sink bytes (.error fault)] ∧ AllAccepted done

theorem allAccepted_nil : AllAccepted ([] : List (Act Sink)) := fun _ h => nomatch h

theorem allAccepted_append {acts more : List (Act Sink)} :
    AllAccepted (acts ++ more) ↔ AllAccepted acts ∧ AllAccepted more :=
  List.forall_mem_append

theorem allAccepted_singleton {act : Act Sink} : AllAccepted [act] ↔ act.accepted = true :=
  List.forall_mem_singleton

theorem StoppedBy.not_allAccepted {fault : OsFault} {acts : List (Act Sink)}
    (h : StoppedBy fault acts) : ¬AllAccepted acts := by
  obtain ⟨done, sink, bytes, rfl, -⟩ := h
  intro haccepted
  have hlast := (allAccepted_append.mp haccepted).2
  rw [allAccepted_singleton] at hlast
  cases hlast

theorem StoppedBy.prepend {fault : OsFault} {before acts : List (Act Sink)}
    (hbefore : AllAccepted before) (h : StoppedBy fault acts) :
    StoppedBy fault (before ++ acts) := by
  obtain ⟨done, sink, bytes, rfl, hdone⟩ := h
  exact ⟨before ++ done, sink, bytes, (List.append_assoc ..).symm,
    allAccepted_append.mpr ⟨hbefore, hdone⟩⟩

end Act

open Act (AllAccepted StoppedBy written written_append allAccepted_nil allAccepted_append
  allAccepted_singleton)

/-! ### Batches of writes -/

/-- Writes to one sink, between two worlds. -/
structure Batch (sink : World.Sink) (before : World) (acts : List (Act World.Sink))
    (after : World) : Prop where
  toSink : ∀ act ∈ acts, ∃ bytes outcome, act = .write sink bytes outcome
  frame : World.Frame sink before after
  contents : AllAccepted acts → ∀ old, before.contents sink = some old →
    after.contents sink = some (old ++ written acts)

namespace Batch

variable {sink : World.Sink} {before between after : World} {acts more : List (Act World.Sink)}

theorem nil (sink : World.Sink) (world : World) : Batch sink world [] world where
  toSink := fun _ h => nomatch h
  frame := .refl sink world
  contents _ old hold := by rw [hold, written, List.flatMap_nil, List.append_nil]

theorem write (machine : Machine) (sink : World.Sink) (bytes : Bytes) (world : World) :
    Batch sink world [.write sink bytes (world.writeOr machine.writeFaults sink bytes).1]
      (world.writeOr machine.writeFaults sink bytes).2 where
  toSink act hact := ⟨bytes, _, List.mem_singleton.mp hact⟩
  frame := (World.writeOr_cases machine.writeFaults world sink bytes).1
  contents haccepted old hold := by
    rw [allAccepted_singleton] at haccepted
    have hok : (world.writeOr machine.writeFaults sink bytes).1 = .ok () := by
      cases houtcome : (world.writeOr machine.writeFaults sink bytes).1 with
      | ok => rfl
      | error fault =>
        rw [houtcome] at haccepted
        cases haccepted
    obtain ⟨held, hheld, hafter⟩ := (World.writeOr_cases machine.writeFaults world sink bytes).2 hok
    rw [hold] at hheld
    cases hheld
    simpa [written, Act.bytes] using hafter

theorem append (h : Batch sink before acts between) (h' : Batch sink between more after) :
    Batch sink before (acts ++ more) after where
  toSink act hact := (List.mem_append.mp hact).elim (h.toSink act) (h'.toSink act)
  frame := h.frame.trans h'.frame
  contents haccepted old hold := by
    obtain ⟨hacts, hmore⟩ := allAccepted_append.mp haccepted
    rw [written_append, ← List.append_assoc]
    exact h'.contents hmore _ (h.contents hacts old hold)

end Batch

/-! ### Writing through a buffer -/

namespace Program

variable (machine : Machine) (sink : World.Sink)

theorem runs_writeAll (writes : List Bytes) (world : World) :
    ∃ outcome acts after,
      Runs (writeAll machine.host.recorded sink writes) world outcome acts after ∧
      Batch sink world acts after ∧
      ((outcome = .ok () ∧ AllAccepted acts ∧ acts.map Act.bytes = writes) ∨
        ∃ fault, outcome = .error fault ∧ StoppedBy fault acts) := by
  induction writes generalizing world with
  | nil =>
    exact ⟨.ok (), [], world, .pure world _, .nil sink world, .inl ⟨rfl, allAccepted_nil, rfl⟩⟩
  | cons bytes others ih =>
    have hwrite := runs_write machine sink bytes world
    have hbatch := Batch.write machine sink bytes world
    cases houtcome : (world.writeOr machine.writeFaults sink bytes).1 with
    | error fault =>
      rw [houtcome] at hwrite hbatch
      refine ⟨.error fault, _, _, hwrite.bind (.pure _ _), hbatch, .inr ⟨fault, rfl, ?_⟩⟩
      exact ⟨[], sink, bytes, rfl, allAccepted_nil⟩
    | ok =>
      rw [houtcome] at hwrite hbatch
      obtain ⟨outcome, acts, after, hruns, hothers, hended⟩ :=
        ih (world.writeOr machine.writeFaults sink bytes).2
      have hfirst : AllAccepted [Act.write sink bytes (.ok ())] := allAccepted_singleton.mpr rfl
      refine ⟨outcome, _, after, hwrite.bind hruns, hbatch.append hothers, ?_⟩
      rcases hended with ⟨hok, haccepted, hwrites⟩ | ⟨fault, herror, hstopped⟩
      · refine .inl ⟨hok, allAccepted_append.mpr ⟨hfirst, haccepted⟩, ?_⟩
        rw [List.map_append, hwrites]
        rfl
      · exact .inr ⟨fault, herror, hstopped.prepend hfirst⟩

/-- The buffer after parts were handed to it, whatever became of the writes. -/
def pushed (buffer : Buffer) (parts : List Bytes) : Buffer :=
  parts.foldl (fun buffer part => (buffer.push part).2) buffer

theorem written_eq_flatten (acts : List (Act World.Sink)) :
    written acts = (acts.map Act.bytes).flatten :=
  List.flatMap_def ..

/-- Handing over parts ends with the first write that is refused, or else nothing of them is lost
    between the sink and the buffer. -/
theorem runs_writeParts (parts : List Bytes) {buffer : Buffer} (hbuffer : buffer.Sized)
    (world : World) :
    ∃ outcome acts after,
      Runs (writeParts machine.host.recorded sink buffer parts) world outcome acts
        after ∧
      Batch sink world acts after ∧
      ((outcome = .ok (pushed buffer parts) ∧ AllAccepted acts ∧ (pushed buffer parts).Sized ∧
          written acts ++ (pushed buffer parts).bytes = buffer.bytes ++ parts.flatten) ∨
        ∃ fault, outcome = .error fault ∧ StoppedBy fault acts) := by
  induction parts generalizing buffer world with
  | nil =>
    exact ⟨.ok buffer, [], world, .pure world _, .nil sink world,
      .inl ⟨rfl, allAccepted_nil, hbuffer, by simp [written, pushed]⟩⟩
  | cons part parts ih =>
    obtain ⟨hsized, hbytes⟩ := hbuffer.push part
    obtain ⟨outcome, acts, between, hruns, hbatch, hended⟩ :=
      runs_writeAll machine sink (buffer.push part).1 world
    rcases hended with ⟨rfl, haccepted, hwrites⟩ | ⟨fault, rfl, hstopped⟩
    · obtain ⟨outcome, more, after, hmore, hothers, hrest⟩ := ih hsized between
      refine ⟨outcome, acts ++ more, after, hruns.bind hmore, hbatch.append hothers, ?_⟩
      rcases hrest with ⟨hok, hmoreAccepted, hleft, hwritten⟩ | ⟨fault, herror, hstopped⟩
      · refine .inl ⟨hok, allAccepted_append.mpr ⟨haccepted, hmoreAccepted⟩, hleft, ?_⟩
        have hpushed : pushed buffer (part :: parts) = pushed (buffer.push part).2 parts := rfl
        rw [hpushed, written_append, List.append_assoc, hwritten, written_eq_flatten, hwrites,
          ← List.append_assoc, hbytes, List.flatten_cons, List.append_assoc]
      · exact .inr ⟨fault, herror, hstopped.prepend haccepted⟩
    · exact ⟨.error fault, acts, between, hruns.bind_quiet (.pure _ _), hbatch,
        .inr ⟨fault, rfl, hstopped⟩⟩

/-! ### Delivering -/

/-- Writes parts to an open output through a buffer, and then what is left in the buffer. -/
def emit {m : Type → Type} [Monad m] (host : Host m) (sink : host.Sink) (parts : List Bytes) :
    m (Except DeliveryFault Unit) := do
  match ← writeParts host sink .empty parts with
  | .error fault => return .error (.writing fault)
  | .ok buffer =>
    match ← writeAll host sink buffer.rest with
    | .error fault => return .error (.flushing fault)
    | .ok () => return .ok ()

theorem deliver_eq {m : Type → Type} [Monad m] (host : Host m) (path : String)
    (parts : List String) :
    deliver host path parts = (do
      match ← openOutput host path with
      | .error fault => return .error (.creating fault)
      | .ok sink => emit host sink (parts.map Json.bytesOf)) := rfl

theorem runs_emit (parts : List Bytes) (world : World) :
    ∃ outcome acts after,
      Runs (emit machine.host.recorded sink parts) world outcome acts after ∧
      Batch sink world acts after ∧
      ((outcome = .ok () ∧ AllAccepted acts ∧ written acts = parts.flatten) ∨
        ((∃ fault, outcome = .error fault) ∧ ¬AllAccepted acts)) := by
  obtain ⟨handed, acts, between, hruns, hbatch, hended⟩ :=
    runs_writeParts machine sink parts Buffer.sized_empty world
  rcases hended with ⟨rfl, haccepted, hsized, hwritten⟩ | ⟨fault, rfl, hstopped⟩
  · obtain ⟨closed, more, after, hmore, hlast, hclosed⟩ :=
      runs_writeAll machine sink (pushed .empty parts).rest between
    rcases hclosed with ⟨rfl, hmoreAccepted, hwrites⟩ | ⟨fault, rfl, hstopped⟩
    · refine ⟨.ok (), acts ++ more, after, hruns.bind (hmore.bind_quiet (.pure _ _)),
        hbatch.append hlast, .inl ⟨rfl, ?_, ?_⟩⟩
      · exact allAccepted_append.mpr ⟨haccepted, hmoreAccepted⟩
      · rw [written_append, written_eq_flatten more, hwrites, hsized.flatten_rest, hwritten]
        rfl
    · refine ⟨.error (.flushing fault), acts ++ more, after,
        hruns.bind (hmore.bind_quiet (.pure _ _)), hbatch.append hlast, .inr ⟨⟨_, rfl⟩, ?_⟩⟩
      exact (hstopped.prepend haccepted).not_allAccepted
  · exact ⟨.error (.writing fault), acts, between, hruns.bind_quiet (.pure _ _), hbatch,
      .inr ⟨⟨_, rfl⟩, hstopped.not_allAccepted⟩⟩

/-- The file that a path opens holds a text, and no other file has changed. -/
def FileHolds (before after : World) (path text : String) : Prop :=
  ∃ made place, before.files.create path = .ok (made, .file place) ∧
    Wrote before.files after.files place (Json.bytesOf text)

/-- All of a text is where it should be: at the end of the output, or in the file of that path. -/
def Delivered (before after : World) (path text : String) : Prop :=
  (path = CommandLine.standardStream ∧ after.files = before.files ∧
      after.output = before.output ++ Json.bytesOf text) ∨
    (path ≠ CommandLine.standardStream ∧ after.output = before.output ∧
      FileHolds before after path text)

theorem bytesOf_join (parts : List String) :
    Json.bytesOf (String.join parts) = (parts.map Json.bytesOf).flatten := by
  have hbytes : Json.bytesOf = fun text : String => Json.utf8 text.toList := by
    funext text
    rw [← Json.bytesOf_ofList, String.ofList_toList]
  rw [hbytes, ← List.flatMap_def]
  simp only [String.toList_join, Json.utf8, List.flatMap_assoc]

/-- A file that was opened empty and has taken a text that is not empty holds it. The device without
    room takes no byte. -/
theorem fileHolds_of_contents {before after : World} {made : Tree} {path text : String}
    {opened : Tree.Sink} (hcreate : before.files.create path = .ok (made, opened))
    (hframe : World.Frame (.file opened) before after)
    (hcontents : after.contents (.file opened) = some (Json.bytesOf text))
    (htext : Json.bytesOf text ≠ []) : FileHolds before after path text := by
  cases opened with
  | fullDevice =>
    have hnil : [] = Json.bytesOf text := Option.some.inj hcontents
    exact absurd hnil.symm htext
  | file place =>
    refine ⟨made, place, hcreate, ?_, ?_⟩
    · simp only [World.contents] at hcontents
      split at hcontents
      · next hnode =>
        rw [hnode]
        exact congrArg _ (congrArg _ (Option.some.inj hcontents))
      · cases hcontents
    · intro other hother
      exact hframe.nodes other (by simpa using Ne.symm hother)

/-- A delivery succeeds exactly if all of it was accepted, and then the text is there. -/
theorem runs_deliver (path : String) {parts : List String}
    (hparts : Json.bytesOf (String.join parts) ≠ []) (world : World) :
    ∃ outcome acts after,
      Runs (deliver machine.host.recorded path parts) world outcome acts after ∧
      (outcome = .ok () ↔ AllAccepted acts) ∧
      (outcome = .ok () → Delivered world after path (String.join parts)) := by
  rw [deliver_eq]
  by_cases hpath : path = CommandLine.standardStream
  · have hopen : Runs (openOutput machine.host.recorded path) world
        (.ok World.Sink.output) [] world := by
      rw [openOutput, if_pos hpath]
      exact .pure world _
    obtain ⟨outcome, acts, after, hruns, hbatch, hended⟩ :=
      runs_emit machine .output (parts.map Json.bytesOf) world
    refine ⟨outcome, acts, after, hopen.bind hruns, ?_⟩
    rcases hended with ⟨rfl, haccepted, hwritten⟩ | ⟨⟨fault, rfl⟩, hrefused⟩
    · refine ⟨by simp [haccepted], fun _ => .inl ⟨hpath, ?_, ?_⟩⟩
      · exact hbatch.frame.tree fun place h => nomatch h
      · have hcontents := hbatch.contents haccepted world.output rfl
        rw [hwritten, ← bytesOf_join] at hcontents
        exact Option.some.inj hcontents
    · exact ⟨by simp [hrefused], fun h => nomatch h⟩
  · have hopen : openOutput machine.host.recorded path =
        machine.host.recorded.create path := by
      rw [openOutput, if_neg hpath]
    rw [hopen]
    have hcreate := runs_create machine path world
    rcases World.create_cases world path with
      ⟨fault, hrefused⟩ | ⟨sink, made, hmade, hfiles, hframe, hempty⟩
    · rw [hrefused] at hcreate
      refine ⟨_, _, world, hcreate.bind_quiet (.pure _ _), ?_, fun h => nomatch h⟩
      simp [allAccepted_singleton, Act.accepted, Except.isOk, Except.toBool]
    · rw [hmade] at hcreate
      obtain ⟨outcome, acts, after, hruns, hbatch, hended⟩ :=
        runs_emit machine (.file sink) (parts.map Json.bytesOf) made
      refine ⟨outcome, _, after, hcreate.bind hruns, ?_⟩
      have hopened : AllAccepted [Act.create path (.ok (World.Sink.file sink))] :=
        allAccepted_singleton.mpr rfl
      rcases hended with ⟨rfl, haccepted, hwritten⟩ | ⟨⟨fault, rfl⟩, hrefused⟩
      · refine ⟨⟨fun _ => allAccepted_append.mpr ⟨hopened, haccepted⟩, fun _ => rfl⟩, fun _ => ?_⟩
        have hcontents := hbatch.contents haccepted [] hempty
        rw [hwritten, ← bytesOf_join, List.nil_append] at hcontents
        have hboth := hframe.trans hbatch.frame
        have hholds := fileHolds_of_contents hfiles hboth hcontents hparts
        exact .inr ⟨hpath, hboth.output (by simp), hholds⟩
      · exact ⟨⟨fun h => (nomatch h), fun h => absurd (allAccepted_append.mp h).2 hrefused⟩,
          fun h => nomatch h⟩

end Program

end ListenerReview
