/-
  ListenerReview/Proofs/Session/Invalidation.lean
  ===============================================
  **New settings drop layouts exactly when they must** — when the indentation unit, the
  capacity, the ceiling or the switch is another one.

  A session compares settings twice: three of them one by one, to see whether it needs
  another formatter, and two by their fingerprints, to see whether the layouts are
  still right.  The indentation unit takes part in both comparisons, so what a session
  does with new settings falls into three cases (`updateSettings_cases`): another
  formatter, the same formatter without its layouts, or no change.

  Fingerprints have 64 bits and cannot tell all settings apart.  What is asked of them
  is that no two settings of the run at hand share one by accident (`Separates`).  The
  invariant is `Session.Tracked`: the fingerprint is that of the settings in force, the
  capacity is theirs, and without the switch nothing is remembered.
-/
import ListenerReview.Proofs.Layout.Requests
import ListenerReview.Proofs.Session.History
import Mathlib.Data.List.Induction

namespace ListenerReview

/-! ### Capacities -/

namespace Formatter

theorem capacity_formatAll (formatter : Formatter) (sources : List String) :
    (formatter.formatAll sources).2.cache.capacity = formatter.cache.capacity := by
  induction sources generalizing formatter with
  | nil => rfl
  | cons source sources ih =>
    rw [formatAll_cons]
    exact (ih _).trans (capacity_format formatter source)

end Formatter

namespace Session

/-! ### Settings of a run -/

/-- The settings that an event brings. -/
def Event.settings? : Event → Option Settings
  | .updateSettings settings _ => some settings
  | _ => none

/-- The settings that a session is given: those it starts with and those of its events. -/
def given (settings : Settings) (events : List Event) : List Settings :=
  settings :: events.filterMap Event.settings?

theorem given_concat (settings : Settings) (events : List Event) (event : Event) :
    given settings (events ++ [event]) = given settings events ++ event.settings?.toList := by
  rw [given, List.filterMap_append, given, List.cons_append]
  cases hsettings : event.settings? <;> simp [hsettings]

theorem settingsAfter_mem_given (settings : Settings) (events : List Event) :
    settingsAfter settings events ∈ given settings events := by
  induction events generalizing settings with
  | nil => exact List.mem_singleton_self settings
  | cons event events ih =>
    cases event with
    | render pool listeners => exact ih settings
    | setRules rules => exact ih settings
    | updateSettings new workers => exact List.mem_cons_of_mem settings (ih new)

/-- No two of the given settings share a fingerprint although layouts under them differ. -/
def Separates (given : List Settings) : Prop :=
  ∀ a ∈ given, ∀ b ∈ given,
    a.fingerprint = b.fingerprint → a.prettify = b.prettify ∧ a.indentUnit = b.indentUnit

instance (given : List Settings) : Decidable (Separates given) :=
  inferInstanceAs (Decidable (∀ a ∈ given, ∀ b ∈ given,
    a.fingerprint = b.fingerprint → a.prettify = b.prettify ∧ a.indentUnit = b.indentUnit))

theorem Separates.mono {given more : List Settings} (h : Separates more) (hsub : given ⊆ more) :
    Separates given :=
  fun a ha b hb => h a (hsub ha) b (hsub hb)

/-! ### New settings -/

theorem needsFormatter_iff (old new : Settings) :
    needsFormatter old new = true ↔
      new.indentUnit ≠ old.indentUnit ∨ new.cacheCapacity ≠ old.cacheCapacity ∨
        new.maxFormatUnits ≠ old.maxFormatUnits := by
  simp only [needsFormatter, Bool.or_eq_true, bne_iff_ne, or_assoc]

theorem cacheCapacity_eq {old new : Settings} (h : needsFormatter old new = false) :
    new.cacheCapacity = old.cacheCapacity := by
  by_contra hne
  rw [(needsFormatter_iff old new).mpr (Or.inr (Or.inl hne))] at h
  cases h

/-- What a session does with new settings: it takes another formatter, drops the layouts of the one
    it has, or keeps it as it is. -/
theorem updateSettings_cases (session : Session) (new : Settings) :
    ∃ formatter dropped,
      session.updateSettings new =
        ({ session with
            settings := new, formatter := formatter, fingerprint := new.fingerprint }, dropped) ∧
      ((needsFormatter session.settings new = true ∧
          formatter = new.formatter ∧ dropped = true) ∨
        (needsFormatter session.settings new = false ∧ new.fingerprint ≠ session.fingerprint ∧
          formatter = session.formatter.clear ∧ dropped = true) ∨
        (needsFormatter session.settings new = false ∧ new.fingerprint = session.fingerprint ∧
          formatter = session.formatter ∧ dropped = false)) := by
  rw [updateSettings, adopt]
  cases hneeds : needsFormatter session.settings new with
  | true =>
    refine ⟨new.formatter, true, ?_, Or.inl ⟨rfl, rfl, rfl⟩⟩
    -- a new formatter has nothing to drop, so the fingerprint makes no difference
    by_cases hmark : new.fingerprint = session.fingerprint
    · rw [if_neg (not_not_intro hmark), hmark]
      rfl
    · rw [if_pos hmark]
      rfl
  | false =>
    by_cases hmark : new.fingerprint = session.fingerprint
    · refine ⟨session.formatter, false, ?_, Or.inr (Or.inr ⟨rfl, hmark, rfl, rfl⟩)⟩
      rw [if_neg (not_not_intro hmark), hmark]
      rfl
    · refine ⟨session.formatter.clear, true, ?_, Or.inr (Or.inl ⟨rfl, hmark, rfl, rfl⟩)⟩
      rw [if_pos hmark]
      rfl

/-! ### The invariant -/

/-- A session knows the fingerprint of the settings in force, has their capacity, and remembers
    nothing unless they ask for layouts. -/
structure Tracked (session : Session) : Prop where
  fingerprint_eq : session.fingerprint = session.settings.fingerprint
  capacity_eq : session.formatter.cache.capacity = session.settings.cacheCapacity
  unused : session.settings.prettify = false →
    session.formatter.cache.entries = ∅ ∧ session.formatter.cache.order = []

theorem tracked_new (settings : Settings) (rules : RuleSet) (workers : Nat) :
    (new settings rules workers).Tracked where
  fingerprint_eq := rfl
  capacity_eq := rfl
  unused _ := ⟨rfl, rfl⟩

variable {session : Session}

theorem capacity_render (session : Session) (pool : Except Files.OsFault Pool)
    (listeners : List Listener) :
    (session.render pool listeners).2.formatter.cache.capacity =
      session.formatter.cache.capacity := by
  cases hprettify : session.settings.prettify with
  | true =>
    rw [formatter_render hprettify]
    exact Formatter.capacity_formatAll _ _
  | false => rw [formatter_render_off hprettify]

theorem tracked_render (h : session.Tracked) (pool : Except Files.OsFault Pool)
    (listeners : List Listener) : (session.render pool listeners).2.Tracked := by
  refine ⟨h.fingerprint_eq, (capacity_render session pool listeners).trans h.capacity_eq, ?_⟩
  intro hprettify
  have hoff : session.settings.prettify = false := hprettify
  rw [formatter_render_off hoff]
  exact h.unused hoff

/-- New settings whose fingerprint is not that of others keep the invariant. -/
theorem tracked_updateSettings (h : session.Tracked) {new : Settings}
    (hseparate : new.fingerprint = session.settings.fingerprint →
      new.prettify = session.settings.prettify) : (session.updateSettings new).1.Tracked := by
  obtain ⟨formatter, dropped, hupdate, hcases⟩ := updateSettings_cases session new
  rw [hupdate]
  rcases hcases with ⟨-, rfl, -⟩ | ⟨hneeds, -, rfl, -⟩ | ⟨hneeds, hmark, rfl, -⟩
  · exact ⟨rfl, rfl, fun _ => ⟨rfl, rfl⟩⟩
  · exact ⟨rfl, h.capacity_eq.trans (cacheCapacity_eq hneeds).symm, fun _ => ⟨rfl, rfl⟩⟩
  · refine ⟨rfl, h.capacity_eq.trans (cacheCapacity_eq hneeds).symm, fun hprettify => h.unused ?_⟩
    rw [← hseparate (hmark.trans h.fingerprint_eq)]
    exact hprettify

theorem after_concat (fingerprint : Settings → UInt64) (settings : Settings) (rules : RuleSet)
    (workers : Nat) (events : List Event) (event : Event) :
    after fingerprint settings rules workers (events ++ [event]) =
      step fingerprint (after fingerprint settings rules workers events) event :=
  List.foldl_concat _ _ _ _

theorem tracked_after (settings : Settings) (rules : RuleSet) (workers : Nat) {events : List Event}
    (h : Separates (given settings events)) :
    (after Settings.fingerprint settings rules workers events).Tracked := by
  induction events using List.reverseRecOn with
  | nil => exact tracked_new settings rules workers
  | append_singleton events event ih =>
    rw [given_concat] at h
    have htracked := ih (h.mono (List.subset_append_left _ _))
    rw [after_concat]
    cases event with
    | render pool listeners => exact tracked_render htracked pool listeners
    | setRules rules => exact ⟨htracked.fingerprint_eq, htracked.capacity_eq, htracked.unused⟩
    | updateSettings new workers' =>
      obtain ⟨-, hsettings, -⟩ := sound_after Settings.fingerprint settings rules workers events
      have hold := settingsAfter_mem_given settings events
      rw [← hsettings] at hold
      obtain ⟨hfingerprint, hcapacity, hunused⟩ := tracked_updateSettings htracked
        fun hmark => (h new (by simp [Event.settings?]) _ (List.mem_append_left _ hold) hmark).1
      exact ⟨hfingerprint, hcapacity, hunused⟩

/-! ### What is dropped and what is kept -/

/-- Whether layouts are dropped can be told from the settings. -/
theorem dropped_iff (h : session.Tracked) {new : Settings}
    (hseparate : new.fingerprint = session.settings.fingerprint →
      new.prettify = session.settings.prettify ∧ new.indentUnit = session.settings.indentUnit) :
    (session.updateSettings new).2 = true ↔
      needsFormatter session.settings new = true ∨ new.prettify ≠ session.settings.prettify := by
  obtain ⟨formatter, dropped, hupdate, hcases⟩ := updateSettings_cases session new
  rw [hupdate]
  rcases hcases with ⟨hneeds, -, rfl⟩ | ⟨hneeds, hmark, -, rfl⟩ | ⟨hneeds, hmark, -, rfl⟩
  · simp [hneeds]
  -- with the unit as before, only the switch can have changed the fingerprint
  · have hunit := (needsFormatter_eq_false hneeds).1
    have hswitch : new.prettify ≠ session.settings.prettify := by
      intro hsame
      rw [h.fingerprint_eq] at hmark
      exact hmark (Settings.fingerprint_eq hsame hunit)
    simp [hswitch]
  · have hsame := (hseparate (hmark.trans h.fingerprint_eq)).1
    simp [hneeds, hsame]

/-- The cache after new settings: a new one, or the old one with its entries or without. -/
theorem cache_updateSettings (session : Session) (new : Settings) :
    (session.updateSettings new).1.formatter.cache =
      if needsFormatter session.settings new then FormatCache.empty new.cacheCapacity
      else if (session.updateSettings new).2 then session.formatter.cache.clear
      else session.formatter.cache := by
  obtain ⟨formatter, dropped, hupdate, hcases⟩ := updateSettings_cases session new
  rw [hupdate]
  rcases hcases with ⟨hneeds, rfl, -⟩ | ⟨hneeds, -, rfl, rfl⟩ | ⟨hneeds, -, rfl, rfl⟩
  · rw [if_pos hneeds]
    rfl
  · rw [if_neg (Bool.not_eq_true _ ▸ hneeds), if_pos rfl]
    rfl
  · rw [if_neg (Bool.not_eq_true _ ▸ hneeds), if_neg Bool.false_ne_true]

/-- **New settings drop layouts exactly when they must.**  When no two of the settings that a
    session is given share a fingerprint by accident, new settings drop the remembered layouts if
    and only if the indentation unit, the capacity, the ceiling or the switch differs from before.
    Then the cache is empty and has the new capacity, and its counts start anew unless only the
    switch has changed; otherwise the cache is what it was.  At any time the session's fingerprint
    is that of the settings in force, the formatter has their unit, capacity and ceiling, and
    nothing is remembered while the switch is off. -/
theorem updateSettings_after (settings : Settings) (rules : RuleSet) (workers : Nat)
    (events : List Event) (new : Settings) (h : Separates (new :: given settings events)) :
    let session := after Settings.fingerprint settings rules workers events
    let old := session.settings
    let updated := session.updateSettings new
    (updated.2 = true ↔
        new.indentUnit ≠ old.indentUnit ∨ new.cacheCapacity ≠ old.cacheCapacity ∨
          new.maxFormatUnits ≠ old.maxFormatUnits ∨ new.prettify ≠ old.prettify) ∧
      (updated.2 = true → updated.1.formatter.cache =
        ⟨∅, [], new.cacheCapacity,
          if new.indentUnit ≠ old.indentUnit ∨ new.cacheCapacity ≠ old.cacheCapacity ∨
            new.maxFormatUnits ≠ old.maxFormatUnits then ⟨0, 0, 0⟩
          else session.formatter.cache.counts⟩) ∧
      (updated.2 = false → updated.1.formatter.cache = session.formatter.cache) ∧
      session.fingerprint = old.fingerprint ∧
      session.formatter.indentUnit = old.indentUnit ∧
      session.formatter.cache.capacity = old.cacheCapacity ∧
      session.formatter.ceiling = old.maxFormatUnits ∧
      (old.prettify = false →
        session.formatter.cache.entries = ∅ ∧ session.formatter.cache.order = []) := by
  intro session old updated
  obtain ⟨hsound, hsettings, -⟩ := sound_after Settings.fingerprint settings rules workers events
  have htracked : session.Tracked :=
    tracked_after settings rules workers (h.mono (List.subset_cons_self _ _))
  have hold : old ∈ given settings events := by
    rw [show old = settingsAfter settings events from hsettings]
    exact settingsAfter_mem_given settings events
  have hseparate := h new List.mem_cons_self old (List.mem_cons_of_mem _ hold)
  have hdropped : updated.2 = true ↔
      needsFormatter old new = true ∨ new.prettify ≠ old.prettify := dropped_iff htracked hseparate
  have hcache := cache_updateSettings session new
  refine ⟨?_, ?_, ?_, htracked.fingerprint_eq, hsound.unit, htracked.capacity_eq, hsound.ceiling,
    htracked.unused⟩
  · rw [hdropped, needsFormatter_iff, or_assoc, or_assoc]
  · intro hdrops
    refine hcache.trans ?_
    by_cases hneeds : needsFormatter old new = true
    · rw [if_pos hneeds, if_pos ((needsFormatter_iff old new).mp hneeds)]
      rfl
    · have hcapacity := htracked.capacity_eq.trans (cacheCapacity_eq (by simpa using hneeds)).symm
      rw [if_neg hneeds, if_pos hdrops, if_neg fun hdiffers =>
        hneeds ((needsFormatter_iff old new).mpr hdiffers), ← hcapacity]
      rfl
  · intro hkeeps
    have hneeds : ¬ needsFormatter old new = true := by
      intro hneeds
      rw [hdropped.mpr (Or.inl hneeds)] at hkeeps
      cases hkeeps
    rw [hcache, if_neg hneeds, if_neg (by rw [hkeeps]; decide)]

/-- After a batch and another indentation unit, and a batch for which no workers could be started,
    turning the switch off drops the layouts and keeps the counts; another limit on lines drops
    nothing. -/
theorem updateSettings_after_batch :
    let settings : Settings := ⟨"    ", 2, 100, true, 1000, 15⟩
    let batch : List Listener := [⟨some "a;b;", none, none, none, none, none⟩]
    let events := [.render (.ok (.ofWorkers 4)) batch,
      .updateSettings { settings with indentUnit := "\t" } 4,
      .render (.error (.other "Resource temporarily unavailable")) batch]
    let off : Settings := ⟨"\t", 2, 100, false, 1000, 15⟩
    let short : Settings := ⟨"\t", 2, 100, true, 1000, 3⟩
    let session := after Settings.fingerprint settings .empty 4 events
    (Separates (off :: given settings events) ∧ Separates (short :: given settings events)) ∧
      (session.updateSettings off).1.formatter.cache =
        ⟨∅, [], 2, session.formatter.cache.counts⟩ ∧
      (session.updateSettings short).1.formatter.cache = session.formatter.cache := by
  intro settings batch events off short session
  have hoff : Separates (off :: given settings events) := by decide +kernel
  have hshort : Separates (short :: given settings events) := by decide +kernel
  obtain ⟨hdropped, hcleared, -⟩ := updateSettings_after settings .empty 4 events off hoff
  obtain ⟨hkept, -, hsame, -⟩ := updateSettings_after settings .empty 4 events short hshort
  obtain ⟨-, hsettings, -⟩ := sound_after Settings.fingerprint settings .empty 4 events
  refine ⟨⟨hoff, hshort⟩, ?_, ?_⟩
  · rw [hsettings] at hdropped hcleared
    exact hcleared (hdropped.mpr (by decide +kernel))
  · rw [hsettings] at hkept
    apply hsame
    rw [← Bool.not_eq_true, hkept]
    decide +kernel

end Session

end ListenerReview
