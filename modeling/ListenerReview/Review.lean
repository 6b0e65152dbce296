/-
  ListenerReview/Review.lean
  ==========================
  **Reviews** — what a batch of listeners looks like when it is ready to be shown:
  one entry per listener, in order, and the totals of the batch.
-/

namespace ListenerReview

/-- A listener ready to be shown. -/
structure Entry where
  /-- Its position in the batch, counted from one. -/
  index : Nat
  domain : String
  windowText : String
  stack : String
  source : String
  /-- Its source as it is shown. -/
  displayText : String
  /-- What is shown, as markup with the terms marked. -/
  markup : String
  /-- Whether the block of code starts collapsed. -/
  truncated : Bool
  formatted : Bool
  /-- Whether the source was too large to be laid out. -/
  skippedForSize : Bool
deriving DecidableEq, Repr

/-- The totals of a batch. -/
structure Summary where
  rendered : Nat
  formatted : Nat
  skippedForSize : Nat
  truncated : Nat
  cacheHits : Nat
  cacheMisses : Nat
deriving DecidableEq, Repr

structure Review where
  entries : List Entry
  summary : Summary
deriving DecidableEq, Repr

/-- The totals of the given entries, with what the cache did meanwhile. -/
def Summary.ofEntries (entries : List Entry) (hits misses : Nat) : Summary where
  rendered := entries.length
  formatted := entries.countP (·.formatted)
  skippedForSize := entries.countP (·.skippedForSize)
  truncated := entries.countP (·.truncated)
  cacheHits := hits
  cacheMisses := misses

/-- What the cache did, in words. -/
def cacheText (hits misses : Nat) : String :=
  "Format cache: " ++ toString hits ++ " hits, " ++ toString misses ++ " misses"

end ListenerReview
