/-
  ListenerReview/Proofs/Program/InStep.lean
  =========================================
  **Programs in step** — the program on two hosts that are alike.

  The program knows its host only through the operations of `Host`, and it handles
  sinks without looking at them.  So if the operations of two hosts go along with each
  other, in any sense that goes along with `pure` and `bind` (`Comparison`), then so do
  the runs of the program on them (`Alike.withOptions`, `Alike.run`).  The options may
  differ in what is said and in the number of threads, as long as reports of progress
  and notes go along, and the workers asked for start on both hosts or fail alike
  (`Guided`).  Which workers they are is never seen (`Session.render_outcome`).

  Two comparisons matter later: a host and the same host with its acts recorded, and a
  world in which everything is said and the same world with some messages left out.
-/
import ListenerReview.Program

namespace ListenerReview

def Message.isProgress : Message → Bool
  | .progress _ => true
  | _ => false

/-- Two attempts that fail alike or succeed with results that are related. -/
inductive OutcomeAlike {α β : Type} (rel : α → β → Prop) :
    Except Files.OsFault α → Except Files.OsFault β → Prop
  | ok {a : α} {b : β} (h : rel a b) : OutcomeAlike rel (.ok a) (.ok b)
  | error (fault : Files.OsFault) : OutcomeAlike rel (.error fault) (.error fault)

theorem OutcomeAlike.refl {α : Type} {rel : α → α → Prop} (h : ∀ a, rel a a)
    (outcome : Except Files.OsFault α) : OutcomeAlike rel outcome outcome := by
  cases outcome with
  | error fault => exact .error fault
  | ok a => exact .ok (h a)

/-- Two attempts to start workers that fail alike or both succeed. -/
abbrev StartAlike : Except Files.OsFault Pool → Except Files.OsFault Pool → Prop :=
  OutcomeAlike fun _ _ => True

namespace Session

/-- Neither a review nor a fault shows more of the workers than whether they started. -/
theorem render_outcome (settings : Settings) (rules : RuleSet) (workers workers' : Nat)
    {pool pool' : Except Files.OsFault Pool} (h : StartAlike pool pool')
    (listeners : List Listener) :
    ((new settings rules workers).render pool listeners).1 =
      ((new settings rules workers').render pool' listeners).1 := by
  cases h with
  | error fault => rfl
  | @ok pool pool' =>
    rw [render_ok, render_ok, review_eq _ pool pool']
    rfl

end Session

namespace Program

open Files (Buffer Bytes OsFault)

/-- A way to compare the actions of two monads, given a way to compare their results. -/
structure Comparison (m n : Type → Type) [Monad m] [Monad n] where
  InStep : {α β : Type} → (α → β → Prop) → m α → n β → Prop
  pure : ∀ {α β : Type} {rel : α → β → Prop} {a : α} {b : β},
    rel a b → InStep rel (Pure.pure a) (Pure.pure b)
  bind : ∀ {α β γ δ : Type} {rel : α → β → Prop} {rel' : γ → δ → Prop} {x : m α} {y : n β}
    {f : α → m γ} {g : β → n δ}, InStep rel x y →
    (∀ a b, rel a b → InStep rel' (f a) (g b)) → InStep rel' (x >>= f) (y >>= g)

variable {m n : Type → Type} [Monad m] [Monad n] {C : Comparison m n}

namespace Comparison

theorem bind_eq {α γ δ : Type} {rel : γ → δ → Prop} {x : m α} {y : n α} {f : α → m γ}
    {g : α → n δ} (h : C.InStep Eq x y) (hrest : ∀ a, C.InStep rel (f a) (g a)) :
    C.InStep rel (x >>= f) (y >>= g) := by
  apply C.bind h
  intro a b hab
  subst hab
  exact hrest a

theorem foldr {α γ : Type} {f : α → m γ → m γ} {g : α → n γ → n γ}
    (h : ∀ a {next : m γ} {next' : n γ}, C.InStep Eq next next' →
      C.InStep Eq (f a next) (g a next'))
    (items : List α) {next : m γ} {next' : n γ} (hnext : C.InStep Eq next next') :
    C.InStep Eq (items.foldr f next) (items.foldr g next') := by
  induction items with
  | nil => exact hnext
  | cons item items ih => exact h item ih

end Comparison

/-- Hosts whose operations go along with each other. -/
structure Alike (C : Comparison m n) (host : Host m) (host' : Host n)
    (sinks : host.Sink → host'.Sink → Prop) : Prop where
  output : sinks host.output host'.output
  readInput : C.InStep Eq host.readInput host'.readInput
  readFile : ∀ path, C.InStep Eq (host.readFile path) (host'.readFile path)
  create : ∀ path, C.InStep (OutcomeAlike sinks) (host.create path) (host'.create path)
  write : ∀ {sink sink'}, sinks sink sink' →
    ∀ bytes, C.InStep Eq (host.write sink bytes) (host'.write sink' bytes)
  /-- Progress and notes are left to the options. -/
  say : ∀ message : Message, message.isProgress = false → message.isNote = false →
    C.InStep Eq (host.say message) (host'.say message)
  cutting : host'.cutting = host.cutting

/-- Options that ask for the same work: they differ at most in what is said and in the number of
    threads. -/
def SameWork (options options' : Options) : Prop :=
  options' = { options with
    threads := options'.threads, quiet := options'.quiet, verbose := options'.verbose }

variable {host : Host m} {host' : Host n} {sinks : host.Sink → host'.Sink → Prop}
  {options options' : Options}

namespace Alike

/-! ### Reading and writing -/

theorem loadRules (h : Alike C host host' sinks) (path : String) :
    C.InStep Eq (Program.loadRules host path) (Program.loadRules host' path) := by
  apply C.bind_eq (h.readFile path)
  intro outcome
  rcases outcome with (fault | fault) | bytes
  · exact C.pure rfl
  · exact C.pure rfl
  · exact C.pure rfl

theorem loadRecords (h : Alike C host host' sinks) (path : String) :
    C.InStep Eq (Program.loadRecords host path) (Program.loadRecords host' path) := by
  unfold Program.loadRecords
  split
  · apply C.bind_eq h.readInput
    intro outcome
    cases outcome with
    | error fault => exact C.pure rfl
    | ok bytes => exact C.pure rfl
  · apply C.bind_eq (h.readFile path)
    intro outcome
    rcases outcome with (fault | fault) | bytes
    · exact C.pure rfl
    · exact C.pure rfl
    · exact C.pure rfl

theorem writeAll (h : Alike C host host' sinks) {sink : host.Sink} {sink' : host'.Sink}
    (hsink : sinks sink sink') (writes : List Bytes) :
    C.InStep Eq (Program.writeAll host sink writes) (Program.writeAll host' sink' writes) := by
  induction writes with
  | nil => exact C.pure rfl
  | cons bytes others ih =>
    apply C.bind_eq (h.write hsink bytes)
    intro outcome
    cases outcome with
    | error fault => exact C.pure rfl
    | ok => exact ih

theorem writeParts (h : Alike C host host' sinks) {sink : host.Sink} {sink' : host'.Sink}
    (hsink : sinks sink sink') (buffer : Buffer) (parts : List Bytes) :
    C.InStep Eq (Program.writeParts host sink buffer parts)
      (Program.writeParts host' sink' buffer parts) := by
  induction parts generalizing buffer with
  | nil => exact C.pure rfl
  | cons part parts ih =>
    apply C.bind_eq (h.writeAll hsink _)
    intro outcome
    cases outcome with
    | error fault => exact C.pure rfl
    | ok => exact ih _

theorem saveRules (h : Alike C host host' sinks) (rules : RuleSet) (path : String) :
    C.InStep Eq (Program.saveRules host rules path) (Program.saveRules host' rules path) := by
  unfold Program.saveRules
  rw [h.cutting]
  apply C.bind (h.create path)
  intro opened opened' hopened
  cases hopened with
  | error fault => exact C.pure rfl
  | ok hsink =>
    apply C.bind_eq (h.writeParts hsink _ _)
    intro outcome
    cases outcome with
    | error fault => exact C.pure rfl
    | ok buffer => exact C.bind_eq (h.writeAll hsink _) fun _ => C.pure rfl

theorem openOutput (h : Alike C host host' sinks) (path : String) :
    C.InStep (OutcomeAlike sinks) (Program.openOutput host path)
      (Program.openOutput host' path) := by
  unfold Program.openOutput
  split
  · exact C.pure (.ok h.output)
  · exact h.create path

theorem deliver (h : Alike C host host' sinks) (path : String) (parts : List String) :
    C.InStep Eq (Program.deliver host path parts) (Program.deliver host' path parts) := by
  apply C.bind (h.openOutput path)
  intro opened opened' hopened
  cases hopened with
  | error fault => exact C.pure rfl
  | ok hsink =>
    apply C.bind_eq (h.writeParts hsink _ _)
    intro outcome
    cases outcome with
    | error fault => exact C.pure rfl
    | ok buffer =>
      apply C.bind_eq (h.writeAll hsink _)
      intro outcome
      cases outcome with
      | error fault => exact C.pure rfl
      | ok => exact C.pure rfl

/-! ### Runs -/

theorem fail (h : Alike C host host' sinks) (text : String) :
    C.InStep Eq (Program.fail host text) (Program.fail host' text) := by
  apply C.bind_eq (h.say (.failure text) rfl rfl)
  intro outcome
  cases outcome with
  | error fault => exact C.pure rfl
  | ok => exact C.pure rfl

theorem publish (h : Alike C host host' sinks) (hsame : SameWork options options')
    (rendered : Except ReviewFault Review) :
    C.InStep Eq (Program.publish host options rendered)
      (Program.publish host' options' rendered) := by
  have hwork : options'.settings = options.settings ∧ options'.form = options.form ∧
      options'.output = options.output := by
    rw [hsame]
    exact ⟨rfl, rfl, rfl⟩
  obtain ⟨hsettings, hform, houtput⟩ := hwork
  cases rendered with
  | error fault => exact h.fail _
  | ok review =>
    simp only [Program.publish, hsettings, hform, houtput]
    apply C.bind_eq (h.deliver _ _)
    intro outcome
    cases outcome with
    | error fault => exact h.fail _
    | ok => exact C.pure rfl

theorem showText (h : Alike C host host' sinks) (text : String) :
    C.InStep Eq (Program.showText host text) (Program.showText host' text) :=
  C.bind_eq (h.write h.output _) fun _ => C.pure rfl

end Alike

/-- What the options decide goes along as well: what is reported, which notes are shown, and what
    comes of starting the workers. -/
structure Guided (C : Comparison m n) (host : Host m) (host' : Host n)
    (options options' : Options) : Prop where
  progress : ∀ text {next next'}, C.InStep Eq next next' →
    C.InStep Eq (progress host options text next) (progress host' options' text next')
  note : ∀ message {next next'}, message.isNote = true → C.InStep Eq next next' →
    C.InStep Eq (note host options message next) (note host' options' message next')
  startPool : C.InStep StartAlike (host.startPool (threadsFor host options))
    (host'.startPool (threadsFor host' options'))

theorem sayThen_inStep {message : Message}
    (h : C.InStep Eq (host.say message) (host'.say message)) {next : m UInt32} {next' : n UInt32}
    (hnext : C.InStep Eq next next') :
    C.InStep Eq (sayThen host message next) (sayThen host' message next') := by
  apply C.bind_eq h
  intro outcome
  cases outcome with
  | error fault => exact C.pure rfl
  | ok => exact hnext

/-- Hosts that say everything alike and start the same workers are guided alike by the same
    options. -/
theorem guided_refl (hsay : ∀ message, C.InStep Eq (host.say message) (host'.say message))
    (hstart : ∀ workers, C.InStep StartAlike (host.startPool workers) (host'.startPool workers))
    (hprocessors : host'.processors = host.processors)
    (hfilter : host'.logFilter = host.logFilter) (options : Options) :
    Guided C host host' options options where
  progress text {next next'} hnext := by
    unfold progress
    split
    · exact hnext
    · exact sayThen_inStep (hsay _) hnext
  note message {next next'} _ hnext := by
    unfold note
    rw [hfilter]
    split
    · exact sayThen_inStep (hsay _) hnext
    · exact hnext
  startPool := by
    have hthreads : threadsFor host' options = threadsFor host options := by
      rw [threadsFor, threadsFor, hprocessors]
    rw [hthreads]
    exact hstart _

theorem Guided.warnIfEmpty (hguided : Guided C host host' options options') (path : String)
    (rules : RuleSet) {next : m UInt32} {next' : n UInt32} (hnext : C.InStep Eq next next') :
    C.InStep Eq (warnIfEmpty host options path rules next)
      (warnIfEmpty host' options' path rules next') := by
  unfold Program.warnIfEmpty
  split
  · exact hguided.note _ rfl hnext
  · exact hnext

namespace Alike

theorem renderReport (h : Alike C host host' sinks) (hguided : Guided C host host' options options')
    (hsame : SameWork options options') (rules : RuleSet) (listeners : List Listener) :
    C.InStep Eq (Program.renderReport host options rules listeners)
      (Program.renderReport host' options' rules listeners) := by
  have hsettings : options'.settings = options.settings := by rw [hsame]
  unfold Program.renderReport
  rw [hsettings]
  apply C.foldr fun notice _ _ => hguided.note (.detail (noticeText notice)) rfl
  apply C.foldr hguided.progress
  apply C.bind hguided.startPool
  intro pool pool' hpool
  rw [Session.render_outcome options.settings rules _ _ hpool listeners]
  exact h.publish hsame _

theorem reviewRecords (h : Alike C host host' sinks)
    (hguided : Guided C host host' options options') (hsame : SameWork options options')
    (rules : RuleSet) :
    C.InStep Eq (Program.reviewRecords host options rules)
      (Program.reviewRecords host' options' rules) := by
  have hinput : options'.input = options.input := by rw [hsame]
  unfold Program.reviewRecords
  rw [hinput]
  apply C.bind_eq (h.loadRecords _)
  intro outcome
  cases outcome with
  | error fault => exact h.fail _
  | ok listeners => exact hguided.progress _ (h.renderReport hguided hsame rules listeners)

theorem keepRules (h : Alike C host host' sinks) (hguided : Guided C host host' options options')
    (hsame : SameWork options options') (rules : RuleSet) :
    C.InStep Eq (Program.keepRules host options rules)
      (Program.keepRules host' options' rules) := by
  have hsave : options'.saveRules = options.saveRules := by rw [hsame]
  unfold Program.keepRules
  rw [hsave]
  cases options.saveRules with
  | none => exact h.reviewRecords hguided hsame rules
  | some path =>
    apply C.bind_eq (h.saveRules rules path)
    intro outcome
    cases outcome with
    | error fault => exact h.fail _
    | ok => exact hguided.progress _ (h.reviewRecords hguided hsame rules)

/-- On hosts that are alike, options that ask for the same work give runs in step. -/
theorem withOptions (h : Alike C host host' sinks) (hguided : Guided C host host' options options')
    (hsame : SameWork options options') :
    C.InStep Eq (Program.withOptions host options) (Program.withOptions host' options') := by
  have hrules : options'.rules = options.rules := by rw [hsame]
  unfold Program.withOptions
  rw [hrules]
  cases options.rules with
  | none => exact h.keepRules hguided hsame .empty
  | some path =>
    apply C.bind_eq (h.loadRules path)
    intro outcome
    cases outcome with
    | error fault => exact h.fail _
    | ok rules =>
      apply hguided.warnIfEmpty
      exact hguided.progress _ (h.keepRules hguided hsame rules)

/-- On hosts that are alike in everything, the same arguments give runs in step. -/
theorem run (h : Alike C host host' sinks)
    (hsay : ∀ message, C.InStep Eq (host.say message) (host'.say message))
    (hguided : ∀ options, Guided C host host' options options) (arguments : List String) :
    C.InStep Eq (Program.run host arguments) (Program.run host' arguments) := by
  unfold Program.run
  rcases CommandLine.parse arguments with (fault | - | - | fault) | options
  · exact C.bind_eq (hsay _) fun _ => C.pure rfl
  · exact h.showText _
  · exact h.showText _
  · exact h.fail _
  · exact h.withOptions (hguided options) rfl

end Alike

end Program

end ListenerReview
