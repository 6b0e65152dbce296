/-
  ListenerReview/Proofs/Session/Repeats.lean
  ==========================================
  **How often a session lays out the same source.**

  In the first batch of a session every different source within the ceiling is laid
  out at least once, and exactly once if the cache has room for all of them.  Then the
  cache holds them (`Session.Holds`), and it goes on holding them whatever rules are
  given, whatever settings that ask for the same layouts are given, and whatever
  batches of these sources are rendered (`holds_step`): no such batch lays anything out.

  A session without room for any layout never finds one.  Its invariant is
  `Session.Kept`: the cache is a queue of the capacity that the settings in force ask
  for.  It asks nothing of fingerprints.
-/
import ListenerReview.Proofs.Layout.Distinct
import ListenerReview.Proofs.Session.Invalidation
import ListenerReview.Proofs.Session.Totals

namespace ListenerReview

/-- The different sources of listeners that are within the ceiling of the settings. -/
def Settings.distinctSources (settings : Settings) (listeners : List Listener) : Finset String :=
  (listeners.map Listener.source).toFinset.filter fun source =>
    Text.units16 source.toList ≤ settings.maxFormatUnits

/-- Settings that ask for the same layouts, remembered in the same way. -/
def Settings.LaysOutLike (new old : Settings) : Prop :=
  new.indentUnit = old.indentUnit ∧ new.cacheCapacity = old.cacheCapacity ∧
    new.maxFormatUnits = old.maxFormatUnits ∧ new.prettify = old.prettify

/-- The sources that a formatter looks for are those within the ceiling, as none is empty. -/
theorem distinct_sources (settings : Settings) (listeners : List Listener) :
    Formatter.distinct settings.maxFormatUnits (listeners.map Listener.source) =
      settings.distinctSources listeners := by
  ext source
  simp only [Formatter.mem_distinct, Settings.distinctSources, Finset.mem_filter, List.mem_toFinset,
    Formatter.looksUp]
  constructor
  · rintro ⟨hmem, hlooks⟩
    exact ⟨hmem, by simpa using (Bool.and_eq_true_iff.mp hlooks).2⟩
  · rintro ⟨hmem, hfits⟩
    obtain ⟨listener, -, rfl⟩ := List.mem_map.mp hmem
    refine ⟨hmem, ?_⟩
    simp [listener.source_ne_empty, hfits]

/-! ### Without room -/

namespace Formatter

variable {formatter : Formatter}

theorem queued_formatAll (h : formatter.cache.Queued) (sources : List String) :
    (formatter.formatAll sources).2.cache.Queued := by
  induction sources generalizing formatter with
  | nil => exact h
  | cons source sources ih => exact ih (queued_format h source)

/-- Without any room nothing is found. -/
theorem hits_formatAll (h : formatter.cache.Queued) (hzero : formatter.cache.capacity = 0)
    (sources : List String) :
    (formatter.formatAll sources).2.cache.counts.hits = formatter.cache.counts.hits := by
  induction sources generalizing formatter with
  | nil => rfl
  | cons source sources ih =>
    have hfirst := (counts_format formatter source).1
    rw [not_cacheHit h hzero] at hfirst
    have hrest := ih (queued_format h source) ((capacity_format formatter source).trans hzero)
    exact hrest.trans hfirst

end Formatter

namespace Session

variable {session : Session}

/-- The cache is a queue of the capacity that the settings in force ask for. -/
structure Kept (session : Session) : Prop where
  queued : session.formatter.cache.Queued
  capacity_eq : session.formatter.cache.capacity = session.settings.cacheCapacity

theorem kept_start (settings : Settings) (mark : UInt64) (rules : RuleSet) (workers : Nat) :
    (start settings mark rules workers).Kept where
  queued := FormatCache.queued_empty settings.cacheCapacity
  capacity_eq := rfl

theorem kept_render (h : session.Kept) (pool : Except Files.OsFault Pool)
    (listeners : List Listener) : (session.render pool listeners).2.Kept := by
  refine ⟨?_, (capacity_render session pool listeners).trans h.capacity_eq⟩
  cases hprettify : session.settings.prettify with
  | true =>
    rw [formatter_render hprettify]
    exact Formatter.queued_formatAll h.queued _
  | false =>
    rw [formatter_render_off hprettify]
    exact h.queued

theorem kept_updateSettings (h : session.Kept) (new : Settings) :
    (session.updateSettings new).1.Kept := by
  obtain ⟨formatter, dropped, hupdate, hcases⟩ := updateSettings_cases session new
  rw [hupdate]
  rcases hcases with ⟨-, rfl, -⟩ | ⟨hneeds, -, rfl, -⟩ | ⟨hneeds, -, rfl, -⟩
  · exact ⟨FormatCache.queued_empty new.cacheCapacity, rfl⟩
  · exact ⟨FormatCache.queued_clear _, h.capacity_eq.trans (cacheCapacity_eq hneeds).symm⟩
  · exact ⟨h.queued, h.capacity_eq.trans (cacheCapacity_eq hneeds).symm⟩

theorem kept_step (h : session.Kept) (event : Event) :
    (step Settings.fingerprint session event).Kept := by
  cases event with
  | render pool listeners => exact kept_render h pool listeners
  | setRules rules => exact ⟨h.queued, h.capacity_eq⟩
  | updateSettings new workers =>
    obtain ⟨hqueued, hcapacity⟩ := kept_updateSettings h new
    rw [step_updateSettings]
    exact ⟨hqueued, hcapacity⟩

theorem kept_foldl (h : session.Kept) (events : List Event) :
    (events.foldl (step Settings.fingerprint) session).Kept := by
  induction events generalizing session with
  | nil => exact h
  | cons event events ih => exact ih (kept_step h event)

/-- A session whose settings leave no room for layouts finds none. -/
theorem hits_layOut (h : session.Kept) (hzero : session.settings.cacheCapacity = 0)
    (pool : Except Files.OsFault Pool) (listeners : List Listener) :
    (session.layOut listeners).1.hits = 0 := by
  rw [(counts_layOut session pool listeners).1]
  cases hprettify : session.settings.prettify with
  | true =>
    rw [formatter_render hprettify,
      Formatter.hits_formatAll h.queued (h.capacity_eq.trans hzero), Nat.sub_self]
  | false => rw [formatter_render_off hprettify, Nat.sub_self]

/-! ### The first batch -/

/-- The first batch of a session is answered by a new formatter. -/
theorem formatter_render_new (settings : Settings) (rules : RuleSet) (workers : Nat)
    (hprettify : settings.prettify = true) (pool : Except Files.OsFault Pool)
    (listeners : List Listener) :
    ((new settings rules workers).render pool listeners).2.formatter =
      (Formatter.Work.asked settings.indentUnit settings.cacheCapacity settings.maxFormatUnits
        (listeners.map Listener.source)).formatter := by
  rw [formatter_render hprettify, Formatter.Work.asked, Formatter.Work.after,
    Formatter.Work.formatter_foldl]
  rfl

/-! ### Held layouts -/

/-- A session whose settings ask for the same layouts as the given ones, and which remembers the
    layouts of the given sources. -/
structure Holds (settings : Settings) (held : Finset String) (session : Session) : Prop where
  sound : session.Sound
  alike : session.settings.LaysOutLike settings
  fingerprint_eq : session.fingerprint = settings.fingerprint
  entries : ∀ source ∈ held, source ∈ session.formatter.cache.entries

/-- What may happen to a session that holds the given sources without any layout being lost:
    batches of these sources, other rules, and settings that ask for the same layouts. -/
def Event.Spares (settings : Settings) (held : Finset String) : Event → Prop
  | .render _ listeners => settings.distinctSources listeners ⊆ held
  | .setRules _ => True
  | .updateSettings new _ => new.LaysOutLike settings

variable {settings : Settings} {held : Finset String}

/-- A batch of held sources lays nothing out and changes no entry. -/
theorem render_of_holds (h : session.Holds settings held) (hprettify : settings.prettify = true)
    (pool : Except Files.OsFault Pool) {listeners : List Listener}
    (hsub : settings.distinctSources listeners ⊆ held) :
    (session.layOut listeners).1.misses = 0 ∧
      (session.render pool listeners).2.Holds settings held := by
  obtain ⟨-, -, hceiling, hswitch⟩ := h.alike
  have hkept := formatter_render (hswitch.trans hprettify) pool listeners
  have hheld : ∀ source ∈ Formatter.distinct session.formatter.ceiling
      (listeners.map Listener.source), source ∈ session.formatter.cache.entries := by
    intro source hsource
    rw [h.sound.ceiling, hceiling, distinct_sources] at hsource
    exact h.entries source (hsub hsource)
  obtain ⟨hmisses, hentries⟩ := Formatter.formatAll_of_held hheld
  rw [← hkept] at hmisses hentries
  constructor
  · rw [(counts_layOut session pool listeners).2, hmisses, Nat.sub_self]
  · refine ⟨sound_render h.sound pool listeners, h.alike, h.fingerprint_eq, ?_⟩
    rw [hentries]
    exact h.entries

/-- New settings that ask for the same layouts leave the formatter as it is. -/
theorem holds_updateSettings (h : session.Holds settings held) {new : Settings}
    (hnew : new.LaysOutLike settings) : (session.updateSettings new).1.Holds settings held := by
  obtain ⟨hunit, hcapacity, hceiling, hswitch⟩ := h.alike
  obtain ⟨hunit', hcapacity', hceiling', hswitch'⟩ := hnew
  have hsound := sound_adopt h.sound new new.fingerprint
  obtain ⟨formatter, dropped, hupdate, hcases⟩ := updateSettings_cases session new
  rcases hcases with ⟨hneeds, -, -⟩ | ⟨-, hmark, -, -⟩ | ⟨-, -, rfl, -⟩
  · rw [needsFormatter_iff, hunit, hunit', hcapacity, hcapacity', hceiling, hceiling'] at hneeds
    simp at hneeds
  · rw [h.fingerprint_eq] at hmark
    exact absurd (Settings.fingerprint_eq hswitch' hunit') hmark
  · refine ⟨hsound, ?_, ?_, ?_⟩
    · rw [hupdate]
      exact ⟨hunit', hcapacity', hceiling', hswitch'⟩
    · rw [hupdate]
      exact Settings.fingerprint_eq hswitch' hunit'
    · rw [hupdate]
      exact h.entries

theorem holds_step (h : session.Holds settings held) (hprettify : settings.prettify = true)
    {event : Event} (hspares : event.Spares settings held) :
    (step Settings.fingerprint session event).Holds settings held := by
  cases event with
  | render pool listeners => exact (render_of_holds h hprettify pool hspares).2
  | setRules rules => exact ⟨sound_setRules h.sound rules, h.alike, h.fingerprint_eq, h.entries⟩
  | updateSettings new workers =>
    obtain ⟨⟨hunit, hceiling, hfaithful, hhighlighter⟩, halike, hfingerprint, hentries⟩ :=
      holds_updateSettings h hspares
    rw [step_updateSettings]
    exact ⟨⟨hunit, hceiling, hfaithful, hhighlighter⟩, halike, hfingerprint, hentries⟩

theorem holds_foldl (h : session.Holds settings held) (hprettify : settings.prettify = true)
    {events : List Event} (hspares : ∀ event ∈ events, event.Spares settings held) :
    (events.foldl (step Settings.fingerprint) session).Holds settings held := by
  induction events generalizing session with
  | nil => exact h
  | cons event events ih =>
    have hfirst := holds_step h hprettify (hspares event List.mem_cons_self)
    exact ih hfirst fun other hother => hspares other (List.mem_cons_of_mem event hother)

/-- After the first batch, a session with enough room holds the sources of the batch. -/
theorem holds_render_new (rules : RuleSet) (workers : Nat) {listeners : List Listener}
    (hprettify : settings.prettify = true) (pool : Except Files.OsFault Pool)
    (hroom : (settings.distinctSources listeners).card ≤ settings.cacheCapacity) :
    ((new settings rules workers).render pool listeners).2.Holds settings
      (settings.distinctSources listeners) where
  sound := sound_render (sound_start settings settings.fingerprint rules workers) pool listeners
  alike := ⟨rfl, rfl, rfl, rfl⟩
  fingerprint_eq := rfl
  entries := by
    intro source hsource
    rw [← distinct_sources] at hsource hroom
    rw [formatter_render_new settings rules workers hprettify,
      Formatter.Work.mem_entries_asked hroom]
    exact hsource

/-- **With enough room, a session lays out every source once.**  The first batch of a session whose
    settings ask for layouts misses at least as often as it has different sources within the
    ceiling.  If the cache has room for all of them, it misses exactly as often, evicts nothing and
    then holds exactly these sources; and no later batch of them is missed, whatever batches of
    them, rules, and settings that ask for the same layouts came in between.  Whenever the settings
    in force leave no room for layouts, a batch finds none.  Workers that could not be started for
    one of the batches in between change nothing. -/
theorem misses_render_new (settings : Settings) (rules : RuleSet) (workers : Nat) (pool : Pool)
    (listeners : List Listener) (hprettify : settings.prettify = true) :
    let session := new settings rules workers
    let held := settings.distinctSources listeners
    let first := session.render (.ok pool) listeners
    ∃ review, first.1 = .ok review ∧
      held.card ≤ review.summary.cacheMisses ∧
      (held.card ≤ settings.cacheCapacity →
        review.summary.cacheMisses = held.card ∧
          first.2.formatter.cache.counts.evictions = 0 ∧
          (∀ source, source ∈ first.2.formatter.cache.entries ↔ source ∈ held) ∧
          ∀ events : List Event, (∀ event ∈ events, event.Spares settings held) →
            ∀ (pool' : Pool) (again : List Listener), settings.distinctSources again ⊆ held →
              let later := events.foldl (step Settings.fingerprint) first.2
              ∃ review', (later.render (.ok pool') again).1 = .ok review' ∧
                review'.summary.cacheMisses = 0) ∧
      ∀ (events : List Event) (pool' : Pool) (again : List Listener),
        let later := events.foldl (step Settings.fingerprint) session
        later.settings.cacheCapacity = 0 →
          ∃ review', (later.render (.ok pool') again).1 = .ok review' ∧
            review'.summary.cacheHits = 0 := by
  intro session held first
  have hformatter := formatter_render_new settings rules workers hprettify (.ok pool) listeners
  have hdistinct := distinct_sources settings listeners
  refine ⟨session.review pool listeners (session.layOut listeners).1, rfl, ?_⟩
  have hmisses : (session.review pool listeners (session.layOut listeners).1).summary.cacheMisses =
      first.2.formatter.cache.counts.misses := (counts_layOut session (.ok pool) listeners).2
  refine ⟨?_, ?_, ?_⟩
  · rw [hmisses, hformatter, show held = _ from hdistinct.symm]
    exact Formatter.Work.card_le_misses _ _ _ _
  · intro hroom
    refine ⟨?_, ?_, ?_, ?_⟩
    · rw [hmisses, hformatter, show held = _ from hdistinct.symm]
      exact Formatter.Work.misses_eq_card (hdistinct ▸ hroom)
    · rw [hformatter]
      exact Formatter.Work.evictions_asked (hdistinct ▸ hroom)
    · intro source
      rw [hformatter, show held = _ from hdistinct.symm]
      exact Formatter.Work.mem_entries_asked (hdistinct ▸ hroom) source
    · intro events hspares pool' again hsub
      have hholds := holds_foldl (holds_render_new rules workers hprettify (.ok pool) hroom)
        hprettify hspares
      exact ⟨_, rfl, (render_of_holds hholds hprettify (.ok pool') hsub).1⟩
  · intro events pool' again later hzero
    have hkept := kept_foldl (kept_start settings settings.fingerprint rules workers) events
    exact ⟨_, rfl, hits_layOut hkept hzero (.ok pool') again⟩

/-- A batch of two sources within the ceiling, one of them twice, and of one over it fills a cache
    of two, and other rules, another limit on lines, a smaller batch and one without workers later
    nothing of it is missed. -/
theorem misses_render_new_twice :
    let settings : Settings := ⟨"    ", 2, 10, true, 1000, 15⟩
    let listener (source : String) : Listener := ⟨some source, none, none, none, none, none⟩
    let batch := ["a;b;", "c;", "a;b;", "over;the;ceiling;"].map listener
    let first := (new settings .empty 4).render (.ok (.ofWorkers 4)) batch
    let events := [.setRules ⟨[⟨"red", ["a"]⟩]⟩, .updateSettings { settings with maxLines := 3 } 2,
      .render (.ok (.ofWorkers 2)) [listener "c;"],
      .render (.error (.other "Resource temporarily unavailable")) batch]
    let later := events.foldl (step Settings.fingerprint) first.2
    settings.prettify = true ∧
      (∃ review, first.1 = .ok review ∧ review.summary.cacheMisses = 2) ∧
      ∃ review, (later.render (.ok (.ofWorkers 2)) batch).1 = .ok review ∧
        review.summary.cacheMisses = 0 := by
  -- with names for the later sessions too, their answers would be evaluated to compare them
  intro settings listener batch
  obtain ⟨review, hreview, -, hfull, -⟩ :=
    misses_render_new settings .empty 4 (.ofWorkers 4) batch rfl
  have hcard : (settings.distinctSources batch).card = 2 := by decide +kernel
  obtain ⟨hmisses, -, -, hlater⟩ := hfull hcard.le
  rw [hcard] at hmisses
  refine ⟨rfl, ⟨review, hreview, hmisses⟩, hlater _ ?_ (.ofWorkers 2) batch subset_rfl⟩
  intro event hevent
  simp only [List.mem_cons, List.not_mem_nil, or_false] at hevent
  rcases hevent with rfl | rfl | rfl | rfl
  · trivial
  · exact ⟨rfl, rfl, rfl, rfl⟩
  · change settings.distinctSources [listener "c;"] ⊆ settings.distinctSources batch
    decide +kernel
  · exact subset_rfl

end Session

end ListenerReview
