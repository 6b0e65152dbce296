/-
  ListenerReview/Proofs/Program/Writing.lean
  ==========================================
  **Buffered writing to a file** — what the parts handed to a buffer make of a file of
  a world.

  Writes to a file of the tree succeed and add their bytes at its end
  (`writeAll_file`).  What has been written and what still waits in the buffer are
  together the parts that were handed over, however they were cut into writes
  (`writeParts_file`).
-/
import ListenerReview.Program
import ListenerReview.Proofs.Files.Tree

namespace ListenerReview.Program

open Files (Buffer Bytes)
open Files.Tree (Wrote exists_append wrote_self)

variable {machine : Machine} {world : World} {place : Files.Place} {old : Bytes}

/-- A file of the tree, open for writing. -/
def fileSink (place : Files.Place) : World.Sink := .file (.file place)

theorem write_file (haccepts : machine.AcceptsWrites)
    (h : world.files.node? place = some (.file old)) (bytes : Bytes) :
    ∃ after : World, (machine.host.write (fileSink place) bytes).run world = (.ok (), after) ∧
      Wrote world.files after.files place (old ++ bytes) := by
  obtain ⟨files, hfiles, hwrote⟩ := exists_append h bytes
  have hwrite : world.writeOr machine.writeFaults (.file (.file place)) bytes =
      (.ok (), { world with files := files }) := by
    simp only [World.writeOr, haccepts _ _ _ _, World.write, hfiles]
  exact ⟨{ world with files := files }, hwrite, hwrote⟩

theorem writeAll_file (haccepts : machine.AcceptsWrites)
    (h : world.files.node? place = some (.file old)) (writes : List Bytes) :
    ∃ after : World,
      (writeAll machine.host (fileSink place) writes).run world = (.ok (), after) ∧
      Wrote world.files after.files place (old ++ writes.flatten) := by
  induction writes generalizing world old with
  | nil =>
    refine ⟨world, rfl, ?_⟩
    rw [List.flatten_nil, List.append_nil]
    exact wrote_self h
  | cons bytes others ih =>
    obtain ⟨between, hwrite, hbetween⟩ := write_file haccepts h bytes
    obtain ⟨after, hothers, hafter⟩ := ih hbetween.file
    refine ⟨after, ?_, ?_⟩
    · rw [writeAll, StateT.run_bind, hwrite]
      exact hothers
    · rw [List.flatten_cons, ← List.append_assoc]
      exact hbetween.trans hafter

/-- Handing over parts succeeds, and nothing of them is lost between the file and the buffer. -/
theorem writeParts_file (haccepts : machine.AcceptsWrites)
    (h : world.files.node? place = some (.file old)) {buffer : Buffer} (hbuffer : buffer.Sized)
    (parts : List Bytes) :
    ∃ (left : Buffer) (after : World) (written : Bytes),
      (writeParts machine.host (fileSink place) buffer parts).run world = (.ok left, after) ∧
      left.Sized ∧ Wrote world.files after.files place written ∧
      written ++ left.bytes = old ++ buffer.bytes ++ parts.flatten := by
  induction parts generalizing world old buffer with
  | nil => exact ⟨buffer, world, old, rfl, hbuffer, wrote_self h, by simp⟩
  | cons part parts ih =>
    obtain ⟨hpushed, hbytes⟩ := hbuffer.push part
    obtain ⟨between, hwrites, hbetween⟩ := writeAll_file haccepts h (buffer.push part).1
    obtain ⟨left, after, written, hparts, hleft, hafter, hwritten⟩ := ih hbetween.file hpushed
    refine ⟨left, after, written, ?_, hleft, hbetween.trans hafter, ?_⟩
    · rw [writeParts, StateT.run_bind, hwrites]
      exact hparts
    · rw [hwritten, List.append_assoc old, hbytes, List.flatten_cons]
      simp only [List.append_assoc]

end ListenerReview.Program
