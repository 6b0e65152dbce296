/-
  ListenerReview/Proofs/Files/Tree.lean
  =====================================
  **Files that are written and read** — a tree in which one file has been written
  differs from the tree before only there (`Wrote`), and the path that opened the file
  for writing finds it for reading.

  Creating a file follows its path to a place where nothing stands yet or a file does.
  The directories on the way are directories still when the file has been written, so
  following the path again ends at the same place.  A path that ends in a slash leads
  to a directory or nowhere and opens no file.
-/
import ListenerReview.Files.Tree

namespace ListenerReview.Files.Tree

variable {tree before after : Tree} {place : Place} {bytes : Bytes}

/-! ### Putting a file -/

/-- A place where nothing stands, or a file. -/
def Writable (tree : Tree) (place : Place) : Prop :=
  tree.node? place = none ∨ ∃ bytes, tree.node? place = some (.file bytes)

/-- No file stands around the tree, so what stands at such a place is up to the tree. -/
theorem Writable.own (h : tree.Writable place) :
    place.all (· == "..") = false ∧ surroundings.lookup place = none := by
  have hfile : ∀ p ∈ surroundings, ∀ bytes, p.2 ≠ .file bytes := by simp [surroundings]
  have hall : place.all (· == "..") = false := by
    cases hall : place.all (· == "..") with
    | false => rfl
    | true => simp [Writable, node?, hall] at h
  refine ⟨hall, ?_⟩
  cases hlookup : surroundings.lookup place with
  | none => rfl
  | some node =>
    have hnode : tree.node? place = some node := by
      rw [node?, if_neg (by simp [hall]), List.lookup_append, hlookup]
      rfl
    obtain ⟨first, last, hmem, -⟩ := List.lookup_eq_some_iff.mp hlookup
    rcases h with hnone | ⟨bytes, hbytes⟩
    · rw [hnode] at hnone
      cases hnone
    · rw [hnode] at hbytes
      have hne := hfile (place, node) (by rw [hmem]; simp) bytes
      exact absurd (Option.some.inj hbytes) hne

theorem lookup_filter_ne (nodes : List (Place × Node)) (place other : Place) :
    (nodes.filter (·.1 ≠ place)).lookup other =
      if other = place then none else nodes.lookup other := by
  induction nodes with
  | nil => simp
  | cons entry nodes ih =>
    obtain ⟨key, node⟩ := entry
    by_cases hkey : key = place
    · subst hkey
      rw [List.filter_cons_of_neg (by simp), ih]
      split
      · rfl
      · next hother => rw [List.lookup_cons, beq_false_of_ne hother]
    · rw [List.filter_cons_of_pos (by simpa using hkey), List.lookup_cons, List.lookup_cons, ih]
      by_cases hother : other = key
      · subst hother
        simp [hkey]
      · rw [beq_false_of_ne hother]

theorem node?_put (h : tree.Writable place) (node : Node) (other : Place) :
    (tree.put place node).node? other = if other = place then some node else tree.node? other := by
  rw [node?, node?, put, List.lookup_append, List.lookup_append, List.lookup_append,
    lookup_filter_ne]
  by_cases hother : other = place
  · subst hother
    rw [if_neg (by simp [h.own.1]), if_pos rfl, if_pos rfl, h.own.2, List.lookup_cons,
      beq_self_eq_true]
    rfl
  · rw [if_neg hother, if_neg hother, List.lookup_cons, beq_false_of_ne hother, List.lookup_nil,
      Option.or_none]

/-- A tree in which a file has been written, compared with the tree before. -/
structure Wrote (before after : Tree) (place : Place) (bytes : Bytes) : Prop where
  file : after.node? place = some (.file bytes)
  others : ∀ other, other ≠ place → after.node? other = before.node? other

theorem wrote_put (h : tree.Writable place) (bytes : Bytes) :
    Wrote tree (tree.put place (.file bytes)) place bytes where
  file := by rw [node?_put h, if_pos rfl]
  others other hother := by rw [node?_put h, if_neg hother]

theorem wrote_self (h : tree.node? place = some (.file bytes)) : Wrote tree tree place bytes :=
  ⟨h, fun _ _ => rfl⟩

theorem Wrote.trans {between : Tree} {first second : Bytes} (h : Wrote before between place first)
    (h' : Wrote between after place second) : Wrote before after place second where
  file := h'.file
  others other hother := (h'.others other hother).trans (h.others other hother)

/-- Appending to a file of the tree succeeds. -/
theorem exists_append (h : tree.node? place = some (.file bytes)) (more : Bytes) :
    ∃ after, tree.append (.file place) more = .ok after ∧
      Wrote tree after place (bytes ++ more) := by
  refine ⟨_, ?_, wrote_put (Or.inr ⟨bytes, h⟩) (bytes ++ more)⟩
  simp only [append, h]

/-! ### Following a path again -/

/-- What a path leads to when a file can be opened there for writing. -/
def Opens (target : Target) (place : Place) : Prop :=
  target = .vacant place ∨ ∃ bytes, target = .node place (.file bytes)

theorem writable_of_follow {names : List String} {start : Place} {target : Target}
    (hfollow : tree.follow start names = .ok target) (hopens : Opens target place) :
    tree.Writable place := by
  induction names generalizing start with
  | nil =>
    rw [follow] at hfollow
    cases hnode : tree.node? start with
    | none =>
      rw [hnode] at hfollow
      rcases hopens with rfl | ⟨bytes, rfl⟩
      · cases hfollow
        exact Or.inl hnode
      · cases hfollow
    | some node =>
      rw [hnode] at hfollow
      rcases hopens with rfl | ⟨bytes, rfl⟩
      · cases hfollow
      · cases hfollow
        exact Or.inr ⟨bytes, hnode⟩
  | cons name names ih =>
    rw [follow] at hfollow
    split at hfollow
    · cases hfollow
    · split at hfollow
      · cases hfollow
      · exact ih hfollow
    · cases hfollow

/-- Following a path to a file that has been written ends there again. -/
theorem Wrote.follow (h : Wrote before after place bytes) {names : List String} {start : Place}
    {target : Target} (hfollow : before.follow start names = .ok target)
    (hopens : Opens target place) :
    after.follow start names = .ok (.node place (.file bytes)) := by
  have hwritable : before.Writable place := writable_of_follow hfollow hopens
  induction names generalizing start with
  | nil =>
    have hstart : start = place := by
      rw [Tree.follow] at hfollow
      rcases hopens with rfl | ⟨old, rfl⟩ <;> split at hfollow <;> cases hfollow <;> rfl
    subst hstart
    rw [Tree.follow, h.file]
  | cons name names ih =>
    rw [Tree.follow] at hfollow
    split at hfollow
    · cases hfollow
    · next hdirectory =>
      -- a directory is no place to write at, so it stands there still
      have hne : start ≠ place := by
        rintro rfl
        rcases hwritable with hnone | ⟨old, hold⟩
        · rw [hdirectory] at hnone
          cases hnone
        · rw [hdirectory] at hold
          cases hold
      rw [Tree.follow, h.others start hne, hdirectory]
      split at hfollow
      · cases hfollow
      · next hsize =>
        simp only [hsize, ↓reduceIte]
        exact ih hfollow
    · cases hfollow

/-- A path with a dot at its end leads to no file. -/
theorem not_opens_of_follow_dot {names : List String} {start : Place} {target : Target}
    (hfollow : tree.follow start (names ++ ["."]) = .ok target) : ¬Opens target place := by
  induction names generalizing start with
  | nil =>
    rw [List.nil_append, follow] at hfollow
    split at hfollow
    · cases hfollow
    · next hdirectory =>
      have hdot : tree.follow (step start ".") [] = .ok (.node start .directory) := by
        rw [step, if_pos rfl, follow, hdirectory]
      rw [if_neg (by decide), hdot] at hfollow
      cases hfollow
      rintro (h | ⟨bytes, h⟩) <;> cases h
    · cases hfollow
  | cons name names ih =>
    rw [List.cons_append, follow] at hfollow
    split at hfollow
    · cases hfollow
    · split at hfollow
      · cases hfollow
      · exact ih hfollow
    · cases hfollow

/-! ### Creating and reading -/

/-- Creating a file by a path leaves it empty where the path leads. The path ends in no slash. -/
theorem create_file {path : String} {made : Tree} (h : tree.create path = .ok (made, .file place)) :
    Wrote tree made place [] ∧ ∃ parsed target, Path.ofString path = .ok parsed ∧
      parsed.endsInSlash = false ∧ tree.follow parsed.start parsed.names = .ok target ∧
      Opens target place := by
  rw [create] at h
  cases hparsed : Path.ofString path with
  | error fault =>
    rw [hparsed] at h
    cases h
  | ok parsed =>
    rw [hparsed] at h
    cases hfollow : tree.follow parsed.start parsed.namesToCreate with
    | error fault => simp [hfollow] at h
    | ok target =>
      have htarget : Opens target place ∧ made = tree.put place (.file []) := by
        simp only [hfollow] at h
        cases target with
        | vacant there =>
          cases h
          exact ⟨Or.inl rfl, rfl⟩
        | node there node =>
          cases node with
          | file old =>
            cases h
            exact ⟨Or.inr ⟨old, rfl⟩, rfl⟩
          | directory => cases h
          | fullDevice => cases h
      have hslash : parsed.endsInSlash = false := by
        cases hslash : parsed.endsInSlash with
        | false => rfl
        | true =>
          rw [Path.namesToCreate, if_pos hslash] at hfollow
          exact absurd htarget.1 (not_opens_of_follow_dot hfollow)
      have hnames : parsed.namesToCreate = parsed.names := by
        rw [Path.namesToCreate, if_neg (by simp [hslash])]
      rw [hnames] at hfollow
      refine ⟨?_, parsed, target, rfl, hslash, hfollow, htarget.1⟩
      rw [htarget.2]
      exact wrote_put (writable_of_follow hfollow htarget.1) []

/-- Opening the device without room changes nothing. -/
theorem create_fullDevice {path : String} {made : Tree}
    (h : tree.create path = .ok (made, .fullDevice)) : made = tree := by
  rw [create] at h
  split at h
  · cases h
  · split at h
    all_goals cases h
    rfl

/-- **What was written to a created file is read back by its path.** -/
theorem read_wrote {path : String} {made : Tree} (h : tree.create path = .ok (made, .file place))
    (hwrote : Wrote tree after place bytes) : after.read path = .ok bytes := by
  obtain ⟨-, parsed, target, hparsed, hslash, hfollow, hopens⟩ := create_file h
  have hnames : parsed.namesToRead = parsed.names := by
    rw [Path.namesToRead, if_neg (by simp [hslash])]
  rw [read, hparsed]
  simp only [hnames, hwrote.follow hfollow hopens]

end ListenerReview.Files.Tree
