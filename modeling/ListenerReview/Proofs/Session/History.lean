/-
  ListenerReview/Proofs/Session/History.lean
  ==========================================
  **What a session shows does not depend on its past.**

  A session is driven by events: batches are rendered, rules are replaced, settings
  are replaced.  What a batch looks like is a function of the settings in force, the
  rules in force, each listener and its position (`shownEntry`), and the cache that
  all events share is never seen (`entries_render_after`).  The workers decide only
  whether there is a review: a batch for which they could not be started is an event
  like any other, and leaves the session as if they had been.

  The invariant is `Session.Sound`: the formatter works under the settings in force
  and its cache is faithful, and the highlighter is made of the rules in force.  The
  fingerprints of settings decide when the cache is cleared, and nothing is asked of
  them here: they are given by any function, so they may agree on settings that lay
  out differently.
-/
import ListenerReview.Proofs.Layout.Transparent
import ListenerReview.Session

namespace ListenerReview

/-! ### What is shown -/

/-- Whether a source is left as it is although the settings ask for layouts. -/
def Settings.skips (settings : Settings) (source : String) : Bool :=
  settings.prettify && decide (settings.maxFormatUnits < Text.units16 source.toList)

/-- The text shown for a source: its layout if the settings ask for layouts and it is not over
    their ceiling, else the source. -/
def Settings.shownText (settings : Settings) (source : String) : String :=
  if settings.prettify then
    Formatter.textOf settings.indentUnit settings.maxFormatUnits source
  else source

/-- The entry of the listener at a position of a batch, counted from zero. -/
def shownEntry (settings : Settings) (rules : RuleSet) (position : Nat) (listener : Listener) :
    Entry where
  index := position + 1
  domain := listener.domain
  windowText := listener.windowText
  stack := listener.stack
  source := listener.source
  displayText := settings.shownText listener.source
  markup := String.ofList
    ((Highlighter.ofRules rules).markup (settings.shownText listener.source).toList)
  truncated := settings.truncates (settings.shownText listener.source)
  formatted := settings.prettify && !settings.skips listener.source
  skippedForSize := settings.skips listener.source

namespace Session

/-! ### Events -/

/-- What may happen to a session: a batch comes with the outcome of starting the workers, and new
    settings with a new number of them. -/
inductive Event where
  | render (pool : Except Files.OsFault Pool) (listeners : List Listener)
  | setRules (rules : RuleSet)
  | updateSettings (settings : Settings) (workers : Nat)

variable (fingerprint : Settings → UInt64)

/-- The session after an event, for the given fingerprints of settings. -/
def step (session : Session) : Event → Session
  | .render pool listeners => (session.render pool listeners).2
  | .setRules rules => session.setRules rules
  | .updateSettings settings workers =>
    { (session.adopt settings (fingerprint settings)).1 with workers := workers }

/-- With the fingerprints that settings have, this is what new settings make of a session. -/
theorem step_updateSettings (session : Session) (settings : Settings) (workers : Nat) :
    step Settings.fingerprint session (.updateSettings settings workers) =
      { (session.updateSettings settings).1 with workers := workers } := rfl

/-- A new session after events. -/
def after (settings : Settings) (rules : RuleSet) (workers : Nat) (events : List Event) : Session :=
  events.foldl (step fingerprint) (start settings (fingerprint settings) rules workers)

/-- The settings in force after events. -/
def settingsAfter (settings : Settings) : List Event → Settings
  | [] => settings
  | .updateSettings new _ :: events => settingsAfter new events
  | _ :: events => settingsAfter settings events

def rulesAfter (rules : RuleSet) : List Event → RuleSet
  | [] => rules
  | .setRules new :: events => rulesAfter new events
  | _ :: events => rulesAfter rules events

/-! ### The invariant -/

/-- The formatter serves the settings in force, and the highlighter the rules in force. -/
structure Sound (session : Session) : Prop where
  unit : session.formatter.indentUnit = session.settings.indentUnit
  ceiling : session.formatter.ceiling = session.settings.maxFormatUnits
  faithful : session.formatter.Faithful
  highlighter : session.highlighter = .ofRules session.rules

variable {session : Session}

theorem sound_start (settings : Settings) (mark : UInt64) (rules : RuleSet) (workers : Nat) :
    (start settings mark rules workers).Sound where
  unit := rfl
  ceiling := rfl
  faithful := Formatter.faithful_new _ _ _
  highlighter := rfl

/-- With layouts asked for, a batch is answered by the formatter, source by source. -/
theorem formatter_render (hprettify : session.settings.prettify = true)
    (pool : Except Files.OsFault Pool) (listeners : List Listener) :
    (session.render pool listeners).2.formatter =
      (session.formatter.formatAll (listeners.map Listener.source)).2 := by
  simp [render, layOut, displayTexts, hprettify]

theorem formatter_render_off (hprettify : session.settings.prettify = false)
    (pool : Except Files.OsFault Pool) (listeners : List Listener) :
    (session.render pool listeners).2.formatter = session.formatter := by
  simp [render, layOut, displayTexts, hprettify]

theorem displayTexts_keeps (h : session.Sound) (sources : List String) :
    (session.displayTexts sources).2.Faithful ∧
      (session.displayTexts sources).2.indentUnit = session.settings.indentUnit ∧
      (session.displayTexts sources).2.ceiling = session.settings.maxFormatUnits := by
  unfold displayTexts
  split
  · obtain ⟨hfaithful, hunit, hceiling⟩ := Formatter.formatAll_keeps h.faithful sources
    exact ⟨hfaithful, hunit.trans h.unit, hceiling.trans h.ceiling⟩
  · exact ⟨h.faithful, h.unit, h.ceiling⟩

theorem sound_render (h : session.Sound) (pool : Except Files.OsFault Pool)
    (listeners : List Listener) : (session.render pool listeners).2.Sound := by
  obtain ⟨hfaithful, hunit, hceiling⟩ :=
    displayTexts_keeps h (listeners.map Listener.source)
  exact ⟨hunit, hceiling, hfaithful, h.highlighter⟩

theorem sound_setRules (h : session.Sound) (rules : RuleSet) : (session.setRules rules).Sound :=
  ⟨h.unit, h.ceiling, h.faithful, rfl⟩

theorem needsFormatter_eq_false {old new : Settings} (h : needsFormatter old new = false) :
    new.indentUnit = old.indentUnit ∧ new.maxFormatUnits = old.maxFormatUnits := by
  simp only [needsFormatter, Bool.or_eq_false_iff, bne_eq_false_iff_eq] at h
  exact ⟨h.1.1, h.2⟩

/-- The formatter after new settings serves them, whether it is kept or replaced. -/
theorem formatter_serves (h : session.Sound) (settings : Settings) :
    let formatter := if needsFormatter session.settings settings then settings.formatter
      else session.formatter
    formatter.indentUnit = settings.indentUnit ∧ formatter.ceiling = settings.maxFormatUnits ∧
      formatter.Faithful := by
  cases hneeds : needsFormatter session.settings settings with
  | true => exact ⟨rfl, rfl, Formatter.faithful_new _ _ _⟩
  | false =>
    obtain ⟨hunit, hceiling⟩ := needsFormatter_eq_false hneeds
    exact ⟨h.unit.trans hunit.symm, h.ceiling.trans hceiling.symm, h.faithful⟩

theorem sound_adopt (h : session.Sound) (settings : Settings) (mark : UInt64) :
    (session.adopt settings mark).1.Sound := by
  obtain ⟨hunit, hceiling, hfaithful⟩ := formatter_serves h settings
  unfold adopt
  split
  · exact ⟨hunit, hceiling, Formatter.faithful_clearCache _, h.highlighter⟩
  · exact ⟨hunit, hceiling, hfaithful, h.highlighter⟩

theorem sound_step (h : session.Sound) (event : Event) :
    (step fingerprint session event).Sound := by
  cases event with
  | render pool listeners => exact sound_render h pool listeners
  | setRules rules => exact sound_setRules h rules
  | updateSettings settings workers =>
    obtain ⟨hunit, hceiling, hfaithful, hhighlighter⟩ :=
      sound_adopt h settings (fingerprint settings)
    exact ⟨hunit, hceiling, hfaithful, hhighlighter⟩

/-- Along a run the invariant is kept, and settings and rules are the last ones given. -/
theorem sound_foldl (h : session.Sound) (events : List Event) :
    (events.foldl (step fingerprint) session).Sound ∧
      (events.foldl (step fingerprint) session).settings = settingsAfter session.settings events ∧
      (events.foldl (step fingerprint) session).rules = rulesAfter session.rules events := by
  induction events generalizing session with
  | nil => exact ⟨h, rfl, rfl⟩
  | cons event events ih =>
    obtain ⟨hsound, hsettings, hrules⟩ := ih (sound_step fingerprint h event)
    refine ⟨hsound, hsettings.trans ?_, hrules.trans ?_⟩
    · cases event with
      | render pool listeners => rfl
      | setRules rules => rfl
      | updateSettings settings workers =>
        simp only [step, adopt, settingsAfter]
        split <;> rfl
    · cases event with
      | render pool listeners => rfl
      | setRules rules => rfl
      | updateSettings settings workers =>
        simp only [step, adopt, rulesAfter]
        split <;> rfl

theorem sound_after (settings : Settings) (rules : RuleSet) (workers : Nat) (events : List Event) :
    (after fingerprint settings rules workers events).Sound ∧
      (after fingerprint settings rules workers events).settings = settingsAfter settings events ∧
      (after fingerprint settings rules workers events).rules = rulesAfter rules events :=
  sound_foldl fingerprint (sound_start settings (fingerprint settings) rules workers) events

/-! ### Rendering -/

theorem displayTexts_text (h : session.Sound) (sources : List String) :
    (session.displayTexts sources).1.map (fun f => (f.text, f.skippedForSize)) =
      sources.map fun source =>
        (session.settings.shownText source, session.settings.skips source) := by
  unfold displayTexts
  split
  · next hprettify =>
    rw [Formatter.formatAll_text h.faithful, h.unit, h.ceiling]
    simp [Settings.shownText, Settings.skips, hprettify]
  · next hprettify =>
    simp [Settings.shownText, Settings.skips, hprettify]

theorem entriesFrom_eq {settings : Settings} (rules : RuleSet) (position : Nat)
    {listeners : List Listener} {formatted : List Formatted}
    (h : formatted.map (fun f => (f.text, f.skippedForSize)) =
      listeners.map fun l => (settings.shownText l.source, settings.skips l.source)) :
    entriesFrom settings (position + 1) listeners formatted
        (formatted.map fun f => String.ofList ((Highlighter.ofRules rules).markup f.text.toList)) =
      listeners.mapIdx fun i l => shownEntry settings rules (position + i) l := by
  induction listeners generalizing position formatted with
  | nil =>
    cases formatted with
    | nil => rfl
    | cons f formatted => simp at h
  | cons listener listeners ih =>
    cases formatted with
    | nil => simp at h
    | cons f formatted =>
      simp only [List.map_cons, List.cons.injEq, Prod.mk.injEq] at h
      obtain ⟨⟨htext, hskipped⟩, hrest⟩ := h
      have hfirst : entry settings (position + 1) listener f
          (String.ofList ((Highlighter.ofRules rules).markup f.text.toList)) =
            shownEntry settings rules position listener := by
        simp only [entry, shownEntry, htext, hskipped]
      simp only [entriesFrom, List.map_cons, List.mapIdx_cons, hfirst, ih (position + 1) hrest,
        Nat.add_zero, Nat.add_comm, Nat.add_left_comm]

theorem entries_review (h : session.Sound) (pool : Pool) (listeners : List Listener) :
    (session.review pool listeners (session.layOut listeners).1).entries =
      listeners.mapIdx (shownEntry session.settings session.rules) := by
  have htexts := displayTexts_text h (listeners.map Listener.source)
  rw [List.map_map] at htexts
  have hmarkup : session.markup ∘ Formatted.text =
      fun f => String.ofList ((Highlighter.ofRules session.rules).markup f.text.toList) := by
    funext f
    rw [Function.comp_apply, markup, h.highlighter]
  have hentries := entriesFrom_eq session.rules 0 htexts
  simpa only [review, layOut, pool.map_eq, List.map_map, hmarkup, Nat.zero_add] using hentries

/-- **A batch looks the same whatever happened before.**  After any events, in any order, the
    session has the settings and the rules that were given last.  A batch gives a review exactly if
    the workers for it could be started, whoever they are, and then shows one entry for every
    listener, in order, that the settings, the rules, the listener and its position determine. -/
theorem entries_render_after (settings : Settings) (rules : RuleSet) (workers : Nat)
    (events : List Event) (pool : Except Files.OsFault Pool) (listeners : List Listener) :
    let session := after fingerprint settings rules workers events
    session.settings = settingsAfter settings events ∧
      session.rules = rulesAfter rules events ∧
      match pool with
      | .ok _ => ∃ review, (session.render pool listeners).1 = .ok review ∧
          review.entries =
            listeners.mapIdx (shownEntry (settingsAfter settings events) (rulesAfter rules events))
      | .error reason => (session.render pool listeners).1 = .error (.noPool reason) := by
  intro session
  obtain ⟨hsound, hsettings, hrules⟩ := sound_after fingerprint settings rules workers events
  refine ⟨hsettings, hrules, ?_⟩
  cases pool with
  | error reason => rfl
  | ok pool =>
    have hentries := entries_review hsound pool listeners
    rw [hsettings, hrules] at hentries
    exact ⟨_, rfl, hentries⟩

end Session

end ListenerReview
