/-
  ListenerReview/Settings.lean
  ============================
  **Settings of a review** — how source is laid out, how much of it is remembered,
  and when a block of code starts collapsed.

  The fingerprint is a digest of the settings that change layouts.  Settings with
  different fingerprints differ in one of them; the other direction rests on the
  digest being a good one.
-/
import ListenerReview.Digest
import ListenerReview.Layout.Formatter

namespace ListenerReview

/-- The settings of a review. -/
structure Settings where
  indentUnit : String
  cacheCapacity : Nat
  maxFormatUnits : Nat
  prettify : Bool
  expandThreshold : Nat
  maxLines : Nat
deriving DecidableEq, Repr

namespace Settings

/-- Four spaces, a hundred remembered layouts, a ceiling of ten thousand units, no layout, and
    blocks collapsed from a thousand characters or fifteen lines on. -/
def standard : Settings := ⟨"    ", 100, 10000, false, 1000, 15⟩

/-- The bytes that stand for the settings that change layouts: the switch, the indent unit, and a
    byte that no text has, which ends the unit. -/
def layoutBytes (settings : Settings) : List UInt8 :=
  (if settings.prettify then 1 else 0) :: settings.indentUnit.toUTF8.data.toList ++ [0xFF]

/-- The fingerprint of the settings that change layouts. -/
def fingerprint (settings : Settings) : UInt64 := Digest.ofBytes settings.layoutBytes

/-- Whether a block of code with the given text starts collapsed. -/
def truncates (settings : Settings) (text : String) : Bool :=
  settings.expandThreshold < text.length
    || settings.maxLines < (Text.pieces text.toList).length

/-- The formatter that the settings ask for. -/
def formatter (settings : Settings) : Formatter :=
  .new settings.indentUnit settings.cacheCapacity settings.maxFormatUnits

/-- Settings that agree on layout and its switch have one fingerprint. -/
theorem fingerprint_eq {a b : Settings} (hp : a.prettify = b.prettify)
    (hi : a.indentUnit = b.indentUnit) : a.fingerprint = b.fingerprint := by
  simp [fingerprint, layoutBytes, hp, hi]

end Settings

end ListenerReview
