/-
  ListenerReview/Proofs/Program/Diagnostics.lean
  ==============================================
  **Diagnostics change nothing else** — runs that differ in what is reported, in the
  details that are said and in the number of threads.

  A run on a world in which some messages have been left out goes in step with the run
  in which they were said, if it leaves the same messages out (`heardComparison`).
  The options and the log decide which ones (`Machine.shows`), so every run is the run
  that says everything, less the messages that are not shown (`run_withOptions_noisy`).
  Two runs that ask for the same work are compared through that one.

  Three things of the machine bear on this and are asked of it.  A message that is
  refused ends the run that says it, so all must be heard (`Machine.Hears`).  Workers
  that cannot be started leave a run without a report, so those of the two runs start
  or fail alike.  And a log that is set from outside does not ask whether a run is
  verbose.
-/
import ListenerReview.Proofs.Program.Acts

namespace ListenerReview

open Files (Bytes Tree)

/-- Whether a message is said under the options. -/
def Machine.shows (machine : Machine) (options : Options) (message : Message) : Bool :=
  if message.isNote then machine.logFilter.getD (Program.showsNote options) message
  else !(message.isProgress && options.quiet)

/-- The machine with a log that shows every note. -/
def Machine.loud (machine : Machine) : Machine := { machine with logFilter := some fun _ => true }

/-- The options under which everything is reported. -/
def Options.noisy (options : Options) : Options := { options with quiet := false }

/-- The world in which only some of the messages were said. -/
def World.heard (keep : Message → Bool) (world : World) : World :=
  { world with said := world.said.filter keep }

def Message.isDetail : Message → Bool
  | .detail _ => true
  | _ => false

namespace Program

/-- The second action does to the world with fewer messages what the first does to the world. -/
def heardComparison (keep : Message → Bool) : Comparison (StateM World) (StateM World) where
  InStep rel x y := ∀ world : World,
    rel (x.run world).1 (y.run (world.heard keep)).1 ∧
      (y.run (world.heard keep)).2 = (x.run world).2.heard keep
  pure h _ := ⟨h, rfl⟩
  bind {α β γ δ rel rel' x y f g} h hrest world := by
    obtain ⟨hresult, hworld⟩ := h world
    have hnext := hrest _ _ hresult (x.run world).2
    rw [← hworld] at hnext
    exact hnext

variable {keep : Message → Bool} {machine : Machine}

/-! ### Messages -/

theorem heard_said {message : Message} (h : keep message = true) (world : World) :
    ({ world with said := world.said ++ [message] } : World).heard keep =
      { world.heard keep with said := (world.heard keep).said ++ [message] } := by
  simp [World.heard, List.filter_append, h]

theorem heard_leftOut {message : Message} (h : keep message = false) (world : World) :
    ({ world with said := world.said ++ [message] } : World).heard keep = world.heard keep := by
  simp [World.heard, List.filter_append, h]

theorem run_say (hhears : machine.Hears) (message : Message) (world : World) :
    (machine.host.say message).run world =
      (.ok (), { world with said := world.said ++ [message] }) := by
  change world.sayOr machine.sayFaults message = _
  rw [World.sayOr, hhears]

theorem inStep_say (hhears : machine.Hears) {message : Message} (h : keep message = true) :
    (heardComparison keep).InStep Eq (machine.loud.host.say message)
      (machine.host.say message) := by
  intro world
  have hloud : machine.loud.Hears := hhears
  rw [run_say hloud, run_say hhears, heard_said h]
  exact ⟨rfl, rfl⟩

theorem inStep_leftOut (hhears : machine.Hears) {message : Message} (h : keep message = false)
    {next next' : StateM World UInt32} (hnext : (heardComparison keep).InStep Eq next next') :
    (heardComparison keep).InStep Eq (sayThen machine.loud.host message next) next' := by
  intro world
  have hloud : machine.loud.Hears := hhears
  have hsaid : (sayThen machine.loud.host message next).run world =
      next.run { world with said := world.said ++ [message] } := by
    rw [sayThen, StateT.run_bind, run_say hloud]
    rfl
  rw [hsaid, ← heard_leftOut h world]
  exact hnext _

/-! ### Files and output -/

theorem heard_create (keep : Message → Bool) (world : World) (path : String) :
    (world.heard keep).create path = ((world.create path).1, (world.create path).2.heard keep) := by
  unfold World.create World.heard
  split
  all_goals simp [*]

theorem heard_write (keep : Message → Bool) (world : World) (sink : World.Sink) (bytes : Bytes) :
    (world.heard keep).write sink bytes =
      ((world.write sink bytes).1, (world.write sink bytes).2.heard keep) := by
  unfold World.write World.heard
  cases sink with
  | output => rfl
  | file sink =>
    dsimp only
    split
    all_goals simp [*]

theorem heard_writeOr (keep : Message → Bool) (faults : WriteFaults) (world : World)
    (sink : World.Sink) (bytes : Bytes) :
    (world.heard keep).writeOr faults sink bytes =
      ((world.writeOr faults sink bytes).1, (world.writeOr faults sink bytes).2.heard keep) := by
  have hfaults : faults (world.heard keep).files (world.heard keep).output sink bytes =
      faults world.files world.output sink bytes := rfl
  unfold World.writeOr
  rw [hfaults]
  split
  · exact heard_write keep world sink bytes
  · rw [heard_write]

/-! ### Runs -/

/-- A machine that hears everything goes along with itself when messages are left out that are
    neither faults nor complaints about arguments. -/
theorem alike_heard (hhears : machine.Hears)
    (h : ∀ message : Message, message.isProgress = false → message.isNote = false →
      keep message = true) :
    Alike (heardComparison keep) machine.loud.host machine.host Eq where
  output := rfl
  readInput _ := ⟨rfl, rfl⟩
  readFile _ _ := ⟨rfl, rfl⟩
  create path world := by
    have hcreate := heard_create keep world path
    change OutcomeAlike Eq (world.create path).1 ((world.heard keep).create path).1 ∧
      ((world.heard keep).create path).2 = (world.create path).2.heard keep
    rw [hcreate]
    exact ⟨.refl (fun _ => rfl) _, rfl⟩
  write {sink sink'} hsink bytes world := by
    have hwrite := heard_writeOr keep machine.writeFaults world sink bytes
    rw [← hsink]
    exact ⟨(congrArg Prod.fst hwrite).symm, congrArg Prod.snd hwrite⟩
  say message hprogress hnote := inStep_say hhears (h message hprogress hnote)
  cutting := rfl

/-- What is shown is decided by the options and the log, message by message. -/
theorem guided_noisy (hhears : machine.Hears) {options options' : Options}
    (hpools : StartAlike (machine.pools (threadsFor machine.host options))
      (machine.pools (threadsFor machine.host options'))) :
    Guided (heardComparison (machine.shows options')) machine.loud.host machine.host options.noisy
      options' where
  progress text {next next'} hnext := by
    unfold progress
    cases hquiet : options'.quiet with
    | false =>
      have hshows : machine.shows options' (.progress text) = true := by
        simp [Machine.shows, Message.isNote, hquiet]
      exact sayThen_inStep (inStep_say hhears hshows) hnext
    | true =>
      have hshows : machine.shows options' (.progress text) = false := by
        simp [Machine.shows, Message.isNote, Message.isProgress, hquiet]
      exact inStep_leftOut hhears hshows hnext
  note message {next next'} hnote hnext := by
    have hshows : machine.logFilter.getD (showsNote options') message =
        machine.shows options' message := by
      rw [Machine.shows, if_pos hnote]
    unfold note
    simp only [hshows]
    cases hshown : machine.shows options' message with
    | false => exact inStep_leftOut hhears hshown hnext
    | true => exact sayThen_inStep (inStep_say hhears hshown) hnext
  startPool _ := ⟨hpools, rfl⟩

/-- Every run is the run that says everything, less the messages that are not shown. -/
theorem run_withOptions_noisy (hhears : machine.Hears) {options options' : Options}
    (hsame : SameWork options options')
    (hpools : StartAlike (machine.pools (threadsFor machine.host options))
      (machine.pools (threadsFor machine.host options'))) (files : Tree) (input : Bytes) :
    let noisy := (withOptions machine.loud.host options.noisy).run (.start files input)
    (withOptions machine.host options').run (.start files input) =
      (noisy.1, noisy.2.heard (machine.shows options')) := by
  have halike : Alike (heardComparison (machine.shows options')) machine.loud.host machine.host
      Eq := by
    apply alike_heard hhears
    intro message hprogress hnote
    simp [Machine.shows, hprogress, hnote]
  have hstep := halike.withOptions (guided_noisy hhears hpools) hsame (.start files input)
  exact Prod.ext hstep.1.symm hstep.2

/-- **Diagnostics and threads change nothing but what is said.**  Two lists of arguments that ask
    for the same work, except for what is reported, the details and the threads, give runs with the
    same exit code, output and files, even where writes fail: on a machine that refuses no message,
    and where the workers that the two runs ask for both start or fail alike.  Of the messages of a
    run that says everything each of them says those that it shows, in order.  So a quiet run lacks
    exactly the reports of progress.  One that is not verbose lacks exactly the details, unless the
    log is set from outside: then they say the same. -/
theorem run_diagnostics (machine : Machine) (hhears : machine.Hears)
    {arguments arguments' : List String} {options options' : Options}
    (h : CommandLine.parse arguments = .ok options)
    (h' : CommandLine.parse arguments' = .ok options') (hsame : SameWork options options')
    (hpools : StartAlike (machine.pools (threadsFor machine.host options))
      (machine.pools (threadsFor machine.host options')))
    (files : Tree) (input : Bytes) :
    let first := (run machine.host arguments).run (.start files input)
    let second := (run machine.host arguments').run (.start files input)
    (second.1 = first.1 ∧ second.2.output = first.2.output ∧ second.2.files = first.2.files) ∧
      (∃ said : List Message, first.2.said = said.filter (machine.shows options) ∧
        second.2.said = said.filter (machine.shows options')) ∧
      (options.quiet = false → options'.quiet = true → options'.verbose = options.verbose →
        second.2.said = first.2.said.filter fun message => !message.isProgress) ∧
      (options.verbose = true → options'.verbose = false → options'.quiet = options.quiet →
        second.2.said =
          if machine.logFilter.isSome then first.2.said
          else first.2.said.filter fun message => !message.isDetail) := by
  have hrun : run machine.host arguments = withOptions machine.host options := by
    rw [run, h]
  have hrun' : run machine.host arguments' = withOptions machine.host options' := by
    rw [run, h']
  have hpool : StartAlike (machine.pools (threadsFor machine.host options))
      (machine.pools (threadsFor machine.host options)) := .refl (fun _ => trivial) _
  rw [hrun, hrun', run_withOptions_noisy hhears (rfl : SameWork options options) hpool,
    run_withOptions_noisy hhears hsame hpools]
  generalize (withOptions machine.loud.host options.noisy).run (.start files input) = noisy
  refine ⟨⟨rfl, rfl, rfl⟩, ⟨noisy.2.said, rfl, rfl⟩, ?_, ?_⟩
  · intro hquiet hquiet' hverbose
    have hnotes : showsNote options' = showsNote options := by
      funext message
      cases message <;> simp [showsNote, hverbose]
    simp only [World.heard, List.filter_filter]
    apply List.filter_congr
    intro message _
    cases message <;>
      simp [Machine.shows, Message.isNote, Message.isProgress, hquiet, hquiet', hnotes]
  · intro hverbose hverbose' hquiet
    cases hfilter : machine.logFilter with
    | some shown =>
      apply List.filter_congr
      intro message _
      simp [Machine.shows, hfilter, hquiet]
    | none =>
      simp only [World.heard, List.filter_filter, Option.isSome_none, Bool.false_eq_true,
        ↓reduceIte]
      apply List.filter_congr
      intro message _
      cases message <;>
        simp [Machine.shows, Message.isNote, Message.isDetail, Message.isProgress, showsNote,
          hfilter, hquiet, hverbose, hverbose']

/-- A run that is reported, and the same run in silence on two threads. -/
theorem run_diagnostics_silent :
    let machine : Machine := { Machine.standard with processors := 4 }
    let first := (run machine.host ["--prettify", "--html", "-"]).run
      (.start .empty (Json.bytesOf "[]"))
    let second := (run machine.host ["-q", "-j", "2", "--prettify", "--html", "-"]).run
      (.start .empty (Json.bytesOf "[]"))
    machine.Hears ∧
      first.2.said =
        [.progress "Loaded 0 listener records", .progress "Format cache: 0 hits, 0 misses"] ∧
      (second.1 = first.1 ∧ second.2.output = first.2.output ∧ second.2.files = first.2.files) ∧
      second.2.said = first.2.said.filter fun message => !message.isProgress := by
  intro machine
  have hhears : machine.Hears := fun _ _ => rfl
  have hrun := run_diagnostics machine hhears
    (show CommandLine.parse ["--prettify", "--html", "-"] = .ok ⟨{ Settings.standard with
      prettify := true }, none, .panel, "-", "-", none, none, false, false⟩ from rfl)
    (show CommandLine.parse ["-q", "-j", "2", "--prettify", "--html", "-"] = .ok
      ⟨{ Settings.standard with prettify := true }, some 2, .panel, "-", "-", none, none, true,
        false⟩ from rfl)
    rfl (.ok trivial) .empty (Json.bytesOf "[]")
  exact ⟨hhears, by decide +kernel, hrun.1, hrun.2.2.1 rfl rfl rfl⟩

end Program

end ListenerReview
