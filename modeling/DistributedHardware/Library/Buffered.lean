import Mathlib.Data.List.Basic
import Mathlib.Tactic.Common

/-!
Reading a stream through a buffer of fixed size.

Each call fills the buffer as far as the stream goes, and the reader stops at the first
call that leaves room in it. What it has read is the whole stream, whatever the size of
the buffer, and however the length of the stream divides by it.
-/

universe u

variable {α : Type u}

/-- The calls on a stream, each with what it put into the buffer, joined. -/
def readBuffered (size : Nat) (stream : List α) : List α :=
  if size = 0 ∨ (stream.take size).length < size then stream.take size
  else stream.take size ++ readBuffered size (stream.drop size)
termination_by stream.length
decreasing_by
  have chunk : (stream.take size).length = min size stream.length := List.length_take
  rw [List.length_drop]
  omega

theorem readBuffered_eq {size : Nat} (pos : 0 < size) (stream : List α) :
    readBuffered size stream = stream := by
  have chunk (stream : List α) : (stream.take size).length = min size stream.length :=
    List.length_take
  induction stream using readBuffered.induct size with
  | case1 stream short =>
      rw [chunk] at short
      unfold readBuffered
      rw [chunk, if_pos short]
      exact List.take_of_length_le (by omega)
  | case2 stream full ih =>
      rw [chunk] at full
      unfold readBuffered
      rw [chunk, if_neg full, ih]
      exact List.take_append_drop size stream
