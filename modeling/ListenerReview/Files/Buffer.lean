/-
  ListenerReview/Files/Buffer.lean
  ================================
  **Buffered writing** — gathering small parts of an output until there are enough
  bytes for a write.

  `Buffer.push` says which writes a part causes: none while there is room for it,
  else what was gathered so far, and the part itself if it is as large as the whole
  buffer.  What is still gathered at the end needs a write of its own
  (`Buffer.rest`).

  Who writes a text decides how it is cut into parts.  A `Cutting` is any way to do
  that which leaves nothing out and hands over no empty part.
-/
import ListenerReview.Files.Tree

namespace ListenerReview.Files

/-- Parts that wait for a write, the last one first, and the number of their bytes. -/
structure Buffer where
  parts : List Bytes
  size : Nat
deriving DecidableEq, Repr

namespace Buffer

def capacity : Nat := 8192

/-- A buffer in which nothing waits. -/
def empty : Buffer := ⟨[], 0⟩

def bytes (buffer : Buffer) : Bytes := buffer.parts.reverse.flatten

/-- The writes that empty the buffer: none if nothing waits. -/
def rest (buffer : Buffer) : List Bytes := if buffer.size = 0 then [] else [buffer.bytes]

/-- The buffer with one more part waiting. -/
def gather (buffer : Buffer) (part : Bytes) : Buffer :=
  ⟨part :: buffer.parts, buffer.size + part.length⟩

/-- The writes that a part causes, in order, and the buffer after them. -/
def push (buffer : Buffer) (part : Bytes) : List Bytes × Buffer :=
  if buffer.size + part.length ≤ capacity ∧ part.length < capacity then ([], buffer.gather part)
  else
    let (writes, buffer) :=
      if capacity < buffer.size + part.length then (buffer.rest, empty) else ([], buffer)
    if capacity ≤ part.length then (writes ++ [part], buffer) else (writes, buffer.gather part)

theorem bytes_gather (buffer : Buffer) (part : Bytes) :
    (buffer.gather part).bytes = buffer.bytes ++ part := by
  simp [gather, bytes]

/-- The size of a buffer is the number of the bytes that wait. -/
def Sized (buffer : Buffer) : Prop := buffer.size = buffer.bytes.length

theorem sized_empty : empty.Sized := rfl

theorem Sized.gather {buffer : Buffer} (h : buffer.Sized) (part : Bytes) :
    (buffer.gather part).Sized := by
  rw [Sized, bytes_gather, List.length_append, ← h]
  rfl

/-- Emptying a buffer writes what waits. -/
theorem Sized.flatten_rest {buffer : Buffer} (h : buffer.Sized) :
    buffer.rest.flatten = buffer.bytes := by
  rw [rest]
  split
  · next hzero => rw [List.eq_nil_of_length_eq_zero (h.symm.trans hzero)]; rfl
  · simp

/-- A part comes after what waited, in the writes and the buffer together. -/
theorem Sized.push {buffer : Buffer} (h : buffer.Sized) (part : Bytes) :
    (buffer.push part).2.Sized ∧
      (buffer.push part).1.flatten ++ (buffer.push part).2.bytes = buffer.bytes ++ part := by
  rw [Buffer.push]
  split
  · exact ⟨h.gather part, bytes_gather buffer part⟩
  · by_cases hfull : capacity < buffer.size + part.length
    · simp only [hfull, ↓reduceIte]
      split
      · refine ⟨sized_empty, ?_⟩
        rw [List.flatten_append, h.flatten_rest]
        simp [empty, bytes]
      · refine ⟨sized_empty.gather part, ?_⟩
        rw [h.flatten_rest, bytes_gather]
        rfl
    · simp only [hfull, ↓reduceIte]
      split
      · next hlarge =>
        -- the part fills the buffer alone, so nothing waited
        have hnil : buffer.bytes = [] := by
          apply List.eq_nil_of_length_eq_zero
          rw [← h]
          omega
        exact ⟨h, by simp [hnil]⟩
      · exact ⟨h.gather part, bytes_gather buffer part⟩

end Buffer

/-- A way to cut the bytes of a text into parts: together they are the bytes, and none is empty. -/
structure Cutting where
  parts : Bytes → List Bytes
  flatten_parts : ∀ bytes, (parts bytes).flatten = bytes
  ne_nil : ∀ bytes, ∀ part ∈ parts bytes, part ≠ []

/-- Every byte is a part of its own. -/
def Cutting.bytewise : Cutting where
  parts bytes := bytes.map fun byte => [byte]
  flatten_parts bytes := by rw [← List.flatMap_def, List.flatMap_singleton']
  ne_nil bytes part h := by
    obtain ⟨byte, -, rfl⟩ := List.mem_map.mp h
    exact List.cons_ne_nil byte []

end ListenerReview.Files
