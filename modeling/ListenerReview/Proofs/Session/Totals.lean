/-
  ListenerReview/Proofs/Session/Totals.lean
  =========================================
  **The totals of a batch add up.**

  The totals of a review come from two places that count on their own: the flags of
  its entries, and the counts of the cache before and after the batch.  They meet in
  the sources: a source that a review shows is never empty (`Listener.source_ne_empty`),
  so with layouts asked for, every entry is either over the ceiling or looked for in
  the cache once, and without them the cache is not touched.
-/
import ListenerReview.Proofs.Layout.Counts
import ListenerReview.Proofs.Session.History

namespace ListenerReview

/-- A review shows some source for every listener. -/
theorem Listener.source_ne_empty (l : Listener) : l.source ≠ "" := by
  unfold Listener.source Listener.orElse
  split
  · split
    · decide
    · next h =>
      intro hempty
      exact h (by rw [hempty]; rfl)
  · decide

/-- What is counted along a list with positions is counted along the list if it does not depend on
    the position. -/
theorem countP_mapIdx {α β : Type} {f : Nat → α → β} {p : β → Bool} {q : α → Bool}
    (h : ∀ i a, p (f i a) = q a) (l : List α) : (l.mapIdx f).countP p = l.countP q := by
  calc (l.mapIdx f).countP p
      = l.zipIdx.countP (q ∘ Prod.fst) := by
        rw [List.mapIdx_eq_zipIdx_map, List.countP_map]
        exact List.countP_congr fun x _ => by rw [Function.comp_apply, h, Function.comp_apply]
    _ = l.countP q := by rw [← List.countP_map, List.zipIdx_map_fst]

namespace Session

variable {session : Session}

/-- With layouts asked for, the formatter looks for exactly the sources that are not skipped. -/
theorem looksUp_source (h : session.Sound) (hprettify : session.settings.prettify = true)
    (listener : Listener) :
    Formatter.looksUp session.formatter.ceiling listener.source =
      !session.settings.skips listener.source := by
  simp [Formatter.looksUp, Settings.skips, hprettify, h.ceiling, listener.source_ne_empty]

/-! ### Flags -/

section

variable (settings : Settings) (rules : RuleSet) (listeners : List Listener)

theorem countP_formatted :
    (listeners.mapIdx (shownEntry settings rules)).countP (·.formatted) =
      listeners.countP fun l => settings.prettify && !settings.skips l.source := by
  refine countP_mapIdx ?_ listeners
  intro position listener
  rfl

theorem countP_skippedForSize :
    (listeners.mapIdx (shownEntry settings rules)).countP (·.skippedForSize) =
      listeners.countP fun l => settings.skips l.source := by
  refine countP_mapIdx ?_ listeners
  intro position listener
  rfl

/-- With layouts asked for, every listener is laid out or skipped, and without them none is. -/
theorem countP_add_countP_skips :
    let formatted := listeners.countP fun l => settings.prettify && !settings.skips l.source
    let skipped := listeners.countP fun l => settings.skips l.source
    if settings.prettify then formatted + skipped = listeners.length
    else formatted = 0 ∧ skipped = 0 := by
  intro formatted skipped
  cases hprettify : settings.prettify with
  | true =>
    rw [if_pos rfl, List.length_eq_countP_add_countP (fun l : Listener => settings.skips l.source),
      Nat.add_comm]
    simp [formatted, skipped, hprettify]
  | false => simp [formatted, skipped, Settings.skips, hprettify]

end

/-- The flags of a review, counted along the listeners. -/
theorem flags_review (h : session.Sound) (pool : Pool) (listeners : List Listener) :
    let totals := (session.review pool listeners (session.layOut listeners).1).summary
    totals.rendered = listeners.length ∧
      totals.formatted = listeners.countP (fun l =>
        session.settings.prettify && !session.settings.skips l.source) ∧
      totals.skippedForSize = listeners.countP fun l => session.settings.skips l.source := by
  have hentries := entries_review h pool listeners
  refine ⟨?_, ?_, ?_⟩
  · exact (congrArg List.length hentries).trans List.length_mapIdx
  · rw [← countP_formatted _ session.rules, ← hentries]
    rfl
  · rw [← countP_skippedForSize _ session.rules, ← hentries]
    rfl

/-! ### Counts -/

/-- The hits and misses of a batch are those by which it raises the counts. -/
theorem counts_layOut (session : Session) (pool : Except Files.OsFault Pool)
    (listeners : List Listener) :
    let before := session.formatter.cache.counts
    let later := (session.render pool listeners).2.formatter.cache.counts
    (session.layOut listeners).1.hits = later.hits - before.hits ∧
      (session.layOut listeners).1.misses = later.misses - before.misses :=
  ⟨rfl, rfl⟩

/-- A batch raises hits and misses by one for every listener that is laid out. -/
theorem counts_render (h : session.Sound) (pool : Except Files.OsFault Pool)
    (listeners : List Listener) :
    let before := session.formatter.cache.counts
    let later := (session.render pool listeners).2.formatter.cache.counts
    ∃ found missed, later.hits = before.hits + found ∧ later.misses = before.misses + missed ∧
      found + missed = listeners.countP fun l =>
        session.settings.prettify && !session.settings.skips l.source := by
  intro before later
  cases hprettify : session.settings.prettify with
  | true =>
    obtain ⟨missed, hhits, hmisses, hsum⟩ :=
      Formatter.counts_formatAll session.formatter (listeners.map Listener.source)
    rw [← formatter_render hprettify pool] at hhits hmisses
    refine ⟨_, missed, hhits, hmisses, hsum.trans ?_⟩
    rw [List.countP_map]
    exact List.countP_congr fun l _ => by
      rw [Function.comp_apply, looksUp_source h hprettify, Bool.true_and]
  | false =>
    have hkept := formatter_render_off hprettify pool listeners
    refine ⟨0, 0, ?_, ?_, ?_⟩
    · simp [later, before, hkept]
    · simp [later, before, hkept]
    · simp

/-- A batch raises the counts by its hits and misses, one for every listener that is laid out. -/
theorem counts_add_layOut (h : session.Sound) (pool : Except Files.OsFault Pool)
    (listeners : List Listener) :
    let before := session.formatter.cache.counts
    let later := (session.render pool listeners).2.formatter.cache.counts
    let laidOut := (session.layOut listeners).1
    before.hits + laidOut.hits = later.hits ∧ before.misses + laidOut.misses = later.misses ∧
      laidOut.hits + laidOut.misses = listeners.countP fun l =>
        session.settings.prettify && !session.settings.skips l.source := by
  intro before later laidOut
  obtain ⟨found, missed, hhits, hmisses, hsum⟩ := counts_render h pool listeners
  obtain ⟨hraised, hraised'⟩ := counts_layOut session pool listeners
  rw [hhits, Nat.add_sub_cancel_left] at hraised
  rw [hmisses, Nat.add_sub_cancel_left] at hraised'
  refine ⟨?_, ?_, ?_⟩
  · rw [show laidOut.hits = found from hraised]
    exact hhits.symm
  · rw [show laidOut.misses = missed from hraised']
    exact hmisses.symm
  · rw [← hsum, show laidOut.hits = found from hraised, show laidOut.misses = missed from hraised']

variable (fingerprint : Settings → UInt64)

/-- **The totals of a batch add up.**  After any events, with whatever workers, a review counts
    every listener as rendered and every flag of its entries as often as it is set; each entry that
    was laid out is one hit or one miss of the cache; with layouts asked for, every entry was laid
    out or skipped for its size, and without them nothing was laid out, skipped or looked for.  The
    counts of the cache only grow, by exactly what the totals say, whatever became of earlier
    formatters. -/
theorem summary_render_after (settings : Settings) (rules : RuleSet) (workers : Nat)
    (events : List Event) (pool : Pool) (listeners : List Listener) :
    let session := after fingerprint settings rules workers events
    let before := session.formatter.cache.counts
    let later := (session.render (.ok pool) listeners).2.formatter.cache.counts
    ∃ review, (session.render (.ok pool) listeners).1 = .ok review ∧
      let totals := review.summary
      totals.rendered = listeners.length ∧
        totals.truncated = review.entries.countP (·.truncated) ∧
        totals.formatted = review.entries.countP (·.formatted) ∧
        totals.skippedForSize = review.entries.countP (·.skippedForSize) ∧
        totals.cacheHits + totals.cacheMisses = totals.formatted ∧
        (if session.settings.prettify then
          totals.formatted + totals.skippedForSize = listeners.length
        else
          totals.formatted = 0 ∧ totals.skippedForSize = 0 ∧ totals.cacheHits = 0 ∧
            totals.cacheMisses = 0) ∧
        before.hits + totals.cacheHits = later.hits ∧
        before.misses + totals.cacheMisses = later.misses := by
  intro session before later
  obtain ⟨hsound, -, -⟩ := sound_after fingerprint settings rules workers events
  refine ⟨session.review pool listeners (session.layOut listeners).1, rfl, ?_⟩
  intro totals
  obtain ⟨hlength, hformatted, hskipped⟩ := flags_review hsound pool listeners
  obtain ⟨hhits, hmisses, hlookups⟩ := counts_add_layOut hsound (.ok pool) listeners
  have hsum : totals.cacheHits + totals.cacheMisses = totals.formatted :=
    hlookups.trans hformatted.symm
  have hflags := countP_add_countP_skips session.settings listeners
  dsimp only at hflags
  rw [← hformatted, ← hskipped] at hflags
  refine ⟨hlength, rfl, rfl, rfl, hsum, ?_, hhits, hmisses⟩
  split
  · next hprettify =>
    rw [if_pos hprettify] at hflags
    exact hflags
  · next hprettify =>
    rw [if_neg hprettify] at hflags
    have hnone : totals.formatted = 0 := hflags.1
    exact ⟨hnone, hflags.2, by omega, by omega⟩

end Session

end ListenerReview
