/-
  ListenerReview/Parallel.lean
  ============================
  **Working on a list in parallel** — a map over a list that is shared among
  workers, each with a stretch of it.

  A `Pool` leaves open who the workers are and how they share the work.  All that is
  asked of them is the order of what they hand back, which `parallelMap_eq_map` proves
  of workers that take one stretch of the list each.
-/

namespace ListenerReview

variable {α β : Type}

/-- The list cut into stretches of the given size, `count` of them and the rest. -/
def share (size : Nat) : Nat → List α → List (List α)
  | 0, xs => [xs]
  | count + 1, xs => xs.take size :: share size count (xs.drop size)

/-- The results of a function on a list, worked out by at most `workers` tasks. -/
def parallelMap (workers : Nat) (f : α → β) (xs : List α) : List β :=
  if workers ≤ 1 || xs.length ≤ 1 then xs.map f
  else
    let count := min workers xs.length
    let size := (xs.length + count - 1) / count
    let tasks := (share size (count - 1) xs).map fun stretch => Task.spawn fun _ => stretch.map f
    tasks.flatMap Task.get

/-- Sharing loses nothing and keeps the order. -/
theorem flatten_share (size count : Nat) (xs : List α) : (share size count xs).flatten = xs := by
  induction count generalizing xs with
  | zero => simp [share]
  | succ count ih => simp [share, ih]

theorem flatMap_share (f : α → β) (size count : Nat) (xs : List α) :
    (share size count xs).flatMap (fun stretch => stretch.map f) = xs.map f := by
  rw [List.flatMap_def, ← List.map_flatten, flatten_share]

/-- The result does not depend on the number of workers. -/
theorem parallelMap_eq_map (workers : Nat) (f : α → β) (xs : List α) :
    parallelMap workers f xs = xs.map f := by
  unfold parallelMap
  split
  · rfl
  · simp only [List.flatMap_map, Task.spawn]
    exact flatMap_share f _ _ xs

/-- Workers that have been started: they work out a function of texts, and hand the results back
    in the order of the texts. -/
structure Pool where
  map : (String → String) → List String → List String
  map_eq : ∀ f texts, map f texts = texts.map f

/-- Workers of the given number, each with a stretch of the texts. -/
def Pool.ofWorkers (workers : Nat) : Pool := ⟨parallelMap workers, parallelMap_eq_map workers⟩

end ListenerReview
