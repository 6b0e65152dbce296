/-
  ListenerReview/Proofs/Layout/Transparent.lean
  =============================================
  **A formatter with a cache gives what a formatter without one gives.**

  The invariant is `FormatCache.Faithful`: every remembered layout is the layout of
  its source under one indentation unit.  Looking up, storing, dropping and clearing
  keep it, so a formatter whose cache is faithful gives for every source the text
  that the settings alone determine (`Formatter.format_text`), and its cache is
  faithful afterwards.
-/
import ListenerReview.Proofs.Layout.Ceiling

namespace ListenerReview

/-! ### Faithful caches -/

namespace FormatCache

/-- Every remembered layout is that of its source under the given indentation unit. -/
def Faithful (unit : String) (cache : FormatCache) : Prop :=
  ∀ source layout, cache.entries[source]? = some layout →
    layout = Layout.reformatString unit source

variable {unit : String} {cache : FormatCache}

theorem faithful_empty (unit : String) (capacity : Nat) : (empty capacity).Faithful unit := by
  intro source layout h
  simp [empty] at h

theorem faithful_clear (unit : String) (cache : FormatCache) : cache.clear.Faithful unit := by
  intro source layout h
  simp [clear] at h

theorem faithful_get (h : cache.Faithful unit) (source : String) :
    (cache.get source).2.Faithful unit := by
  intro other layout hother
  rw [(get_keeps cache source).1] at hother
  exact h other layout hother

theorem faithful_evictOldest (h : cache.Faithful unit) : cache.evictOldest.Faithful unit := by
  intro other layout hother
  unfold evictOldest at hother
  split at hother
  · exact h other layout hother
  · rw [Std.HashMap.getElem?_erase] at hother
    split at hother
    · cases hother
    · exact h other layout hother

/-- Storing a layout keeps a cache faithful if it is the layout of its source. -/
theorem faithful_setEntry (h : cache.Faithful unit) (source : String) (order : List String) :
    Faithful unit { cache with
      entries := cache.entries.insert source (Layout.reformatString unit source)
      order := order } := by
  intro other layout hother
  rw [Std.HashMap.getElem?_insert] at hother
  split at hother
  · next heq =>
    have hsource : source = other := by simpa using heq
    cases hother
    rw [hsource]
  · exact h other layout hother

theorem faithful_insert (h : cache.Faithful unit) (source : String) :
    (cache.insert source (Layout.reformatString unit source)).Faithful unit := by
  unfold insert
  split
  · exact h
  · split
    · exact faithful_setEntry h source cache.order
    · split
      · exact faithful_setEntry (faithful_evictOldest h) source _
      · exact faithful_setEntry h source _

end FormatCache

/-! ### Formatters -/

namespace Formatter

/-- The text of a source over the ceiling is the source; that of any other is its layout. -/
def textOf (unit : String) (ceiling : Nat) (source : String) : String :=
  if ceiling < Text.units16 source.toList then source else Layout.reformatString unit source

/-- A formatter that remembers only what it would work out again. -/
def Faithful (formatter : Formatter) : Prop := formatter.cache.Faithful formatter.indentUnit

variable {formatter : Formatter}

theorem faithful_new (unit : String) (capacity ceiling : Nat) :
    (new unit capacity ceiling).Faithful :=
  FormatCache.faithful_empty unit capacity

theorem faithful_clearCache (formatter : Formatter) : formatter.clear.Faithful :=
  FormatCache.faithful_clear formatter.indentUnit formatter.cache

theorem reformatString_empty (unit : String) : Layout.reformatString unit "" = "" := by
  simp [Layout.reformatString, Layout.reformat, Layout.lines, Layout.scan, Layout.lineIfAny,
    Text.allBlank, Layout.lineTexts]

theorem format_keeps (formatter : Formatter) (source : String) :
    (formatter.format source).2.indentUnit = formatter.indentUnit ∧
      (formatter.format source).2.ceiling = formatter.ceiling := by
  unfold format
  split
  · exact ⟨rfl, rfl⟩
  · split
    · exact ⟨rfl, rfl⟩
    · split <;> exact ⟨rfl, rfl⟩

theorem faithful_format (h : formatter.Faithful) (source : String) :
    (formatter.format source).2.Faithful := by
  unfold format
  split
  · exact h
  · split
    · exact h
    · have hget := FormatCache.faithful_get h source
      split
      · next heq =>
        rw [heq] at hget
        exact hget
      · next heq =>
        rw [heq] at hget
        exact FormatCache.faithful_insert hget source

/-- What the cache remembers is never seen in the text. -/
theorem format_text (h : formatter.Faithful) (source : String) :
    (formatter.format source).1.text =
      textOf formatter.indentUnit formatter.ceiling source := by
  unfold format textOf
  split
  · next hempty =>
    have hsource : source = "" := by simpa using hempty
    subst hsource
    simp [Text.units16, reformatString_empty]
  · split
    · next hexceeds =>
      rw [if_pos ((exceeds_iff _ _).mp hexceeds)]
    · next hexceeds =>
      rw [if_neg fun hover => hexceeds ((exceeds_iff _ _).mpr hover)]
      split
      · next layout cache heq =>
        have hentry : formatter.cache.entries[source]? = some layout := by
          rw [← FormatCache.get_fst, heq]
        exact h source layout hentry
      · rfl

theorem formatAll_text (h : formatter.Faithful) (sources : List String) :
    (formatter.formatAll sources).1.map (fun f => (f.text, f.skippedForSize)) =
      sources.map fun source =>
        (textOf formatter.indentUnit formatter.ceiling source,
          decide (formatter.ceiling < Text.units16 source.toList)) := by
  induction sources generalizing formatter with
  | nil => rfl
  | cons source sources ih =>
    obtain ⟨hunit, hceiling⟩ := format_keeps formatter source
    have hrest := ih (faithful_format h source)
    rw [hunit, hceiling] at hrest
    simp only [formatAll_cons, List.map_cons, format_text h, format_skipped, hrest]

/-- Formatting sources one after the other keeps the unit, the ceiling and the invariant. -/
theorem formatAll_keeps (h : formatter.Faithful) (sources : List String) :
    (formatter.formatAll sources).2.Faithful ∧
      (formatter.formatAll sources).2.indentUnit = formatter.indentUnit ∧
      (formatter.formatAll sources).2.ceiling = formatter.ceiling := by
  induction sources generalizing formatter with
  | nil => exact ⟨h, rfl, rfl⟩
  | cons source sources ih =>
    obtain ⟨hunit, hceiling⟩ := format_keeps formatter source
    obtain ⟨hfaithful, hunits, hceilings⟩ := ih (faithful_format h source)
    exact ⟨hfaithful, hunits.trans hunit, hceilings.trans hceiling⟩

end Formatter

end ListenerReview
