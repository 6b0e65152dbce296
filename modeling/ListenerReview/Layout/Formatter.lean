/-
  ListenerReview/Layout/Formatter.lean
  ====================================
  **Laying out with a cache** — a formatter that remembers layouts, leaves sources
  over its size ceiling as they are, and says what it did.

  The ceiling is given in UTF-16 units.  Empty sources and sources over the ceiling
  touch neither the cache nor its counts.
-/
import ListenerReview.Layout
import ListenerReview.Layout.Cache
import ListenerReview.Text.Measure

namespace ListenerReview

/-- What a formatter gives for a source. -/
structure Formatted where
  text : String
  skippedForSize : Bool
  cacheHit : Bool
deriving DecidableEq, Repr

/-- What a formatter has to say about its work: a source of the given units was left as it is, or
    the entry of a source of the given UTF-8 bytes was dropped. -/
inductive Notice where
  | skipped (units ceiling : Nat)
  | evicted (bytes : Nat)
deriving DecidableEq, Repr

/-- A formatter: its indentation unit, its cache and its ceiling. -/
structure Formatter where
  indentUnit : String
  cache : FormatCache
  ceiling : Nat

namespace Formatter

def new (indentUnit : String) (capacity ceiling : Nat) : Formatter :=
  ⟨indentUnit, FormatCache.empty capacity, ceiling⟩

/-- Whether a source has more UTF-16 units than the ceiling. Its bytes are counted first, as they
    are at least as many and known at once. -/
def exceeds (ceiling : Nat) (source : String) : Bool :=
  ceiling < source.utf8ByteSize && ceiling < Text.units16 source.toList

/-- The layout of a source, from the cache if it is there. -/
def format (formatter : Formatter) (source : String) : Formatted × Formatter :=
  if source.isEmpty then (⟨"", false, false⟩, formatter)
  else if exceeds formatter.ceiling source then (⟨source, true, false⟩, formatter)
  else
    match formatter.cache.get source with
    | (some layout, cache) => (⟨layout, false, true⟩, { formatter with cache := cache })
    | (none, cache) =>
      let layout := Layout.reformatString formatter.indentUnit source
      (⟨layout, false, false⟩, { formatter with cache := cache.insert source layout })

/-- The text of the layout of a source, from the cache if it is there. -/
def formatText (formatter : Formatter) (source : String) : String × Formatter :=
  let (formatted, formatter) := formatter.format source
  (formatted.text, formatter)

/-- What the formatter says about a source that it is about to lay out. -/
def notices (formatter : Formatter) (source : String) : List Notice :=
  if source.isEmpty then []
  else if exceeds formatter.ceiling source then
    [.skipped (Text.units16 source.toList) formatter.ceiling]
  else
    match formatter.cache.victim? source with
    | some victim => [.evicted victim.utf8ByteSize]
    | none => []

/-- The layouts of sources, one after the other. -/
def formatAll (formatter : Formatter) : List String → List Formatted × Formatter
  | [] => ([], formatter)
  | source :: sources =>
    let (first, formatter) := formatter.format source
    let (others, formatter) := formatter.formatAll sources
    (first :: others, formatter)

/-- What the formatter says about sources that it is about to lay out one after the other. -/
def noticesAll (formatter : Formatter) : List String → List Notice
  | [] => []
  | source :: sources =>
    formatter.notices source ++ (formatter.format source).2.noticesAll sources

/-- Drops the remembered layouts. -/
def clear (formatter : Formatter) : Formatter := { formatter with cache := formatter.cache.clear }

theorem format_empty (formatter : Formatter) : formatter.format "" = (⟨"", false, false⟩, formatter) :=
  rfl

theorem formatAll_cons (formatter : Formatter) (source : String) (sources : List String) :
    formatter.formatAll (source :: sources) =
      ((formatter.format source).1 :: ((formatter.format source).2.formatAll sources).1,
        ((formatter.format source).2.formatAll sources).2) := rfl

end Formatter

end ListenerReview
