/-
  ListenerReview/Layout/Cache.lean
  ================================
  **A bounded cache of laid-out source** — a map from sources to their layout that
  holds at most `capacity` entries and drops the oldest when a new one needs room.

  Beside the map stands the order of arrival.  Looking an entry up, and storing a
  new layout for a source that is present, leave that order alone, so what is
  dropped depends on the order of first arrivals only.
-/
import Std.Data.HashMap

namespace ListenerReview

/-- Counts of what a cache has done. -/
structure CacheCounts where
  hits : Nat
  misses : Nat
  evictions : Nat
deriving DecidableEq, Repr

/-- A cache: its entries, their keys with the oldest first, its capacity and its counts. -/
structure FormatCache where
  entries : Std.HashMap String String
  order : List String
  capacity : Nat
  counts : CacheCounts

namespace FormatCache

/-- An empty cache; one of capacity zero stays empty. -/
def empty (capacity : Nat) : FormatCache := ⟨∅, [], capacity, ⟨0, 0, 0⟩⟩

def size (cache : FormatCache) : Nat := cache.entries.size

def isEmpty (cache : FormatCache) : Bool := cache.entries.isEmpty

def contains (cache : FormatCache) (source : String) : Bool := cache.entries.contains source

/-- The entry of a source, counted as a hit or a miss. -/
def get (cache : FormatCache) (source : String) : Option String × FormatCache :=
  match cache.entries[source]? with
  | some layout =>
    (some layout, { cache with counts := { cache.counts with hits := cache.counts.hits + 1 } })
  | none =>
    (none, { cache with counts := { cache.counts with misses := cache.counts.misses + 1 } })

/-- The source that storing a layout for `source` would drop. -/
def victim? (cache : FormatCache) (source : String) : Option String :=
  if cache.capacity = 0 || cache.contains source || cache.size < cache.capacity then none
  else cache.order.head?

/-- Drops the oldest entry, if there is one. -/
def evictOldest (cache : FormatCache) : FormatCache :=
  match cache.order with
  | [] => cache
  | oldest :: order =>
    { cache with
      entries := cache.entries.erase oldest
      order := order
      counts := { cache.counts with evictions := cache.counts.evictions + 1 } }

/-- Adds an entry at the end of the order. -/
def append (cache : FormatCache) (source layout : String) : FormatCache :=
  { cache with
    entries := cache.entries.insert source layout
    order := cache.order ++ [source] }

/-- Stores the layout of a source: an entry that is present gets a new value in its place, and a
    new one takes the room of the oldest when the cache is full. -/
def insert (cache : FormatCache) (source layout : String) : FormatCache :=
  if cache.capacity = 0 then cache
  else if cache.contains source then
    { cache with entries := cache.entries.insert source layout }
  else if cache.capacity ≤ cache.size then cache.evictOldest.append source layout
  else cache.append source layout

/-- Drops all entries and keeps the counts. -/
def clear (cache : FormatCache) : FormatCache := { cache with entries := ∅, order := [] }

theorem capacity_insert (cache : FormatCache) (source layout : String) :
    (cache.insert source layout).capacity = cache.capacity := by
  unfold insert evictOldest append
  repeat' split
  all_goals rfl

theorem get_fst (cache : FormatCache) (source : String) :
    (cache.get source).1 = cache.entries[source]? := by
  unfold get
  split <;> simp_all

/-- Looking an entry up changes nothing but the counts. -/
theorem get_keeps (cache : FormatCache) (source : String) :
    (cache.get source).2.entries = cache.entries ∧ (cache.get source).2.order = cache.order ∧
      (cache.get source).2.capacity = cache.capacity := by
  unfold get
  split <;> exact ⟨rfl, rfl, rfl⟩

end FormatCache

end ListenerReview
