/-
  ListenerReview/Proofs/Program/Acts.lean
  =======================================
  **Acts of a program** — the files that a program opens for writing and the writes
  that it makes, each with its outcome, and what they make of a world.

  A host keeps a record of them when it is asked to (`Host.recorded`), and goes on as
  before.  The machine may refuse writes: which ones is any function of the bytes to be
  written and of what there is to see at that moment, and a write that fails may have
  put some of its bytes down.

  Acts on one sink leave everything but that sink as it is (`World.Frame`), and when
  all of them are accepted the sink holds what it held, and then their bytes
  (`Batch`).
-/
import ListenerReview.Proofs.Files.Tree
import ListenerReview.Proofs.Program.InStep

namespace ListenerReview

open Files (Bytes OsFault Tree)
open Files.Tree (Wrote exists_append create_file create_fullDevice)

namespace World

/-! ### What a sink holds -/

/-- The bytes in an open file or in the output. The device without room never holds any. -/
def contents (world : World) : Sink → Option Bytes
  | .output => some world.output
  | .file .fullDevice => some []
  | .file (.file place) =>
    match world.files.node? place with
    | some (.file bytes) => some bytes
    | _ => none

/-- Two worlds, the second after acts on one sink: they differ at most in what the sink holds. -/
structure Frame (sink : Sink) (before after : World) : Prop where
  input : after.input = before.input
  said : after.said = before.said
  output : sink ≠ .output → after.output = before.output
  tree : (∀ place, sink ≠ .file (.file place)) → after.files = before.files
  nodes : ∀ place, sink ≠ .file (.file place) →
    after.files.node? place = before.files.node? place

variable {sink : Sink} {before between after : World}

theorem Frame.refl (sink : Sink) (world : World) : Frame sink world world :=
  ⟨rfl, rfl, fun _ => rfl, fun _ => rfl, fun _ _ => rfl⟩

theorem Frame.trans (h : Frame sink before between) (h' : Frame sink between after) :
    Frame sink before after where
  input := h'.input.trans h.input
  said := h'.said.trans h.said
  output hsink := (h'.output hsink).trans (h.output hsink)
  tree hsink := (h'.tree hsink).trans (h.tree hsink)
  nodes place hsink := (h'.nodes place hsink).trans (h.nodes place hsink)

theorem frame_of_wrote {place : Files.Place} {files : Tree} {bytes : Bytes}
    (h : Wrote before.files files place bytes) :
    Frame (.file (.file place)) before { before with files := files } where
  input := rfl
  said := rfl
  output _ := rfl
  tree hsink := absurd rfl (hsink place)
  nodes other hsink := h.others other fun hplace => hsink (by rw [hplace])

/-- A write changes nothing but its sink, where an accepted one adds its bytes. -/
theorem write_cases (world : World) (sink : Sink) (bytes : Bytes) :
    Frame sink world (world.write sink bytes).2 ∧
      ((world.write sink bytes).1 = .ok () →
        ∃ old, world.contents sink = some old ∧
          (world.write sink bytes).2.contents sink = some (old ++ bytes)) := by
  rcases sink with - | place | -
  · refine ⟨⟨rfl, rfl, fun h => absurd rfl h, fun _ => rfl, fun _ _ => rfl⟩, fun _ => ?_⟩
    exact ⟨world.output, rfl, rfl⟩
  · cases hnode : world.files.node? place with
    | none => simp [write, Tree.append, hnode, Frame.refl]
    | some node =>
      cases node with
      | directory => simp [write, Tree.append, hnode, Frame.refl]
      | fullDevice => simp [write, Tree.append, hnode, Frame.refl]
      | file old =>
        obtain ⟨files, hfiles, hwrote⟩ := exists_append hnode bytes
        simp only [write, hfiles]
        refine ⟨frame_of_wrote hwrote, fun _ => ⟨old, ?_, ?_⟩⟩
        · simp only [contents, hnode]
        · simp only [contents, hwrote.file]
  · cases bytes with
    | nil => exact ⟨Frame.refl _ _, fun _ => ⟨[], rfl, rfl⟩⟩
    | cons b bytes =>
      refine ⟨Frame.refl _ _, ?_⟩
      intro hok
      cases hok

theorem writeOr_cases (faults : WriteFaults) (world : World) (sink : Sink) (bytes : Bytes) :
    Frame sink world (writeOr faults world sink bytes).2 ∧
      ((writeOr faults world sink bytes).1 = .ok () →
        ∃ old, world.contents sink = some old ∧
          (writeOr faults world sink bytes).2.contents sink = some (old ++ bytes)) := by
  unfold writeOr
  split
  · exact write_cases world sink bytes
  · refine ⟨(write_cases world sink _).1, ?_⟩
    intro hok
    cases hok

/-- Opening a file empties it and changes nothing else. It never gives the output. -/
theorem create_cases (world : World) (path : String) :
    (∃ fault, world.create path = (.error fault, world)) ∨
      ∃ sink made, world.create path = (.ok (.file sink), made) ∧
        world.files.create path = .ok (made.files, sink) ∧
        Frame (.file sink) world made ∧ made.contents (.file sink) = some [] := by
  unfold create
  cases hcreate : world.files.create path with
  | error fault => exact .inl ⟨fault, rfl⟩
  | ok opened =>
    obtain ⟨files, sink⟩ := opened
    refine .inr ⟨sink, { world with files := files }, rfl, rfl, ?_⟩
    cases sink with
    | file place =>
      have hwrote : Wrote world.files files place [] := (create_file hcreate).1
      refine ⟨frame_of_wrote hwrote, ?_⟩
      simp only [contents, hwrote.file]
    | fullDevice =>
      have hsame : files = world.files := create_fullDevice hcreate
      rw [hsame]
      exact ⟨Frame.refl _ _, rfl⟩

end World

/-! ### Records -/

/-- What a program does to files and to the output: it opens a file for writing, or it writes. -/
inductive Act (Sink : Type) where
  | create (path : String) (outcome : Except OsFault Sink)
  | write (sink : Sink) (bytes : Bytes) (outcome : Except OsFault Unit)

namespace Act

variable {Sink : Type}

def accepted : Act Sink → Bool
  | create _ outcome => outcome.isOk
  | write _ _ outcome => outcome.isOk

def bytes : Act Sink → Bytes
  | create _ _ => []
  | write _ bytes _ => bytes

/-- All bytes to be written, in order. -/
def written (acts : List (Act Sink)) : Bytes := acts.flatMap bytes

theorem written_append (acts more : List (Act Sink)) :
    written (acts ++ more) = written acts ++ written more :=
  List.flatMap_append

end Act

/-- The host with a record of what is done to it. -/
@[reducible] def Host.recorded {m : Type → Type} [Monad m] (host : Host m) :
    Host (StateT (List (Act host.Sink)) m) where
  Sink := host.Sink
  output := host.output
  readInput := StateT.lift host.readInput
  readFile path := StateT.lift (host.readFile path)
  create path := do
    let outcome ← StateT.lift (host.create path)
    modify (· ++ [.create path outcome])
    return outcome
  write sink bytes := do
    let outcome ← StateT.lift (host.write sink bytes)
    modify (· ++ [.write sink bytes outcome])
    return outcome
  say message := StateT.lift (host.say message)
  startPool workers := StateT.lift (host.startPool workers)
  processors := host.processors
  logFilter := host.logFilter
  cutting := host.cutting

/-- What an action does, whatever was recorded before: its result, the acts it adds to the record,
    and the world afterwards. -/
def Runs {α : Type} (action : StateT (List (Act World.Sink)) (StateM World) α) (world : World)
    (result : α) (acts : List (Act World.Sink)) (after : World) : Prop :=
  ∀ record, (action.run record).run world = ((result, record ++ acts), after)

namespace Runs

variable {α β : Type} {action : StateT (List (Act World.Sink)) (StateM World) α}
  {next : α → StateT (List (Act World.Sink)) (StateM World) β}
  {world between after : World} {a : α} {b : β} {acts more : List (Act World.Sink)}

theorem pure (world : World) (a : α) :
    Runs (Pure.pure a : StateT (List (Act World.Sink)) (StateM World) α) world a [] world := by
  intro record
  rw [List.append_nil]
  rfl

theorem bind (h : Runs action world a acts between) (h' : Runs (next a) between b more after) :
    Runs (action >>= next) world b (acts ++ more) after := by
  intro record
  rw [StateT.run_bind, StateT.run_bind, h record, ← List.append_assoc]
  exact h' (record ++ acts)

theorem bind_quiet (h : Runs action world a acts between) (h' : Runs (next a) between b [] after) :
    Runs (action >>= next) world b acts after := by
  have hboth := bind h h'
  rw [List.append_nil] at hboth
  exact hboth

theorem unique {a' : α} {acts' : List (Act World.Sink)} {after' : World}
    (h : Runs action world a acts after) (h' : Runs action world a' acts' after') :
    a = a' ∧ acts = acts' ∧ after = after' := by
  have hsame : ((a, acts), after) = ((a', acts'), after') := (h []).symm.trans (h' [])
  cases hsame
  exact ⟨rfl, rfl, rfl⟩

end Runs

section

variable (machine : Machine)

theorem runs_readInput (world : World) :
    Runs machine.host.recorded.readInput world (.ok world.input) [] world := by
  intro record
  rw [List.append_nil]
  rfl

theorem runs_readFile (path : String) (world : World) :
    Runs (machine.host.recorded.readFile path) world (world.files.read path) [] world := by
  intro record
  rw [List.append_nil]
  rfl

theorem runs_create (path : String) (world : World) :
    Runs (machine.host.recorded.create path) world (world.create path).1
      [.create path (world.create path).1] (world.create path).2 := by
  intro record
  rfl

theorem runs_write (sink : World.Sink) (bytes : Bytes) (world : World) :
    Runs (machine.host.recorded.write sink bytes) world
      (world.writeOr machine.writeFaults sink bytes).1
      [.write sink bytes (world.writeOr machine.writeFaults sink bytes).1]
      (world.writeOr machine.writeFaults sink bytes).2 := by
  intro record
  rfl

theorem runs_say (message : Message) (world : World) :
    Runs (machine.host.recorded.say message) world (world.sayOr machine.sayFaults message).1 []
      (world.sayOr machine.sayFaults message).2 := by
  intro record
  rw [List.append_nil]
  rfl

theorem runs_startPool (workers : Nat) (world : World) :
    Runs (machine.host.recorded.startPool workers) world (machine.pools workers) [] world := by
  intro record
  rw [List.append_nil]
  rfl

end

/-! ### Recording changes nothing -/

/-- The second action does what the first does beside recording. -/
def recordedComparison (Sink σ : Type) :
    Program.Comparison (StateT (List (Act Sink)) (StateM σ)) (StateM σ) where
  InStep rel x y := ∀ record (s : σ),
    rel ((x.run record).run s).1.1 (y.run s).1 ∧ ((x.run record).run s).2 = (y.run s).2
  pure h _ _ := ⟨h, rfl⟩
  bind {α β γ δ rel rel' x y f g} h hrest record s := by
    obtain ⟨hresult, hstate⟩ := h record s
    have hnext := hrest _ _ hresult ((x.run record).run s).1.2 (y.run s).2
    rw [← hstate] at hnext
    have hboth : ((x >>= f).run record).run s =
        ((f ((x.run record).run s).1.1).run ((x.run record).run s).1.2).run
          ((x.run record).run s).2 := rfl
    have hplain : (y >>= g).run s = (g (y.run s).1).run (y.run s).2 := rfl
    rw [hboth, hplain, ← hstate]
    exact hnext

theorem alike_recorded {σ : Type} (host : Host (StateM σ)) :
    Program.Alike (recordedComparison host.Sink σ) host.recorded host Eq where
  output := rfl
  readInput _ _ := ⟨rfl, rfl⟩
  readFile _ _ _ := ⟨rfl, rfl⟩
  create path record s := ⟨.refl (fun _ => rfl) _, rfl⟩
  write hsink bytes record s := by
    subst hsink
    exact ⟨rfl, rfl⟩
  say _ _ _ _ _ := ⟨rfl, rfl⟩
  cutting := rfl

theorem guided_recorded {σ : Type} (host : Host (StateM σ)) (options : Options) :
    Program.Guided (recordedComparison host.Sink σ) host.recorded host options options := by
  apply Program.guided_refl
  · exact fun _ _ _ => ⟨rfl, rfl⟩
  · exact fun workers record s => ⟨.refl (fun _ => trivial) _, rfl⟩
  · rfl
  · rfl

/-- A run with a record is the run without, when the two are in step. -/
theorem Runs.run_eq {α : Type} {action : StateT (List (Act World.Sink)) (StateM World) α}
    {plain : StateM World α} {world after : World} {a : α} {acts : List (Act World.Sink)}
    (h : Runs action world a acts after)
    (hplain : (recordedComparison World.Sink World).InStep Eq action plain) :
    plain.run world = (a, after) := by
  obtain ⟨hresult, hworld⟩ := hplain [] world
  rw [h []] at hresult hworld
  exact Prod.ext hresult.symm hworld.symm

end ListenerReview
