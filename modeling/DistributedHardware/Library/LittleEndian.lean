import Mathlib.Data.Nat.Bitwise
import Mathlib.Algebra.Order.Ring.Nat
import Mathlib.Logic.Function.Basic
import Mathlib.Tactic.Ring

/-!
Naturals as little-endian bytes of a fixed width, and their place in a memory.

A memory is a function from addresses to bytes, written and read byte by byte.
-/

namespace LittleEndian

/-- The first `width` bytes of a number. -/
def split : Nat → Nat → List UInt8
  | 0, _ => []
  | width + 1, n => UInt8.ofNat n :: split width (n / 256)

def join : List UInt8 → Nat
  | [] => 0
  | b :: bytes => b.toNat + 256 * join bytes

theorem length_split (width n : Nat) : (split width n).length = width := by
  induction width generalizing n with
  | zero => rfl
  | succ width ih => rw [split, List.length_cons, ih]

theorem join_split (width n : Nat) : join (split width n) = n % 256 ^ width := by
  induction width generalizing n with
  | zero => rw [split, join, pow_zero, Nat.mod_one]
  | succ width ih =>
      have byte : (UInt8.ofNat n).toNat = n % 256 := UInt8.toNat_ofNat'
      rw [split, join, ih, byte, pow_succ', Nat.mod_mul]

theorem join_replicate_zero (width : Nat) : join (List.replicate width 0) = 0 := by
  induction width with
  | zero => rfl
  | succ width ih =>
      rw [List.replicate_succ, join, ih]
      rfl

theorem join_lt (bytes : List UInt8) : join bytes < 256 ^ bytes.length := by
  induction bytes with
  | nil => exact Nat.one_pos
  | cons b bytes ih =>
      have hb : b.toNat < 256 := b.toNat_lt
      rw [join, List.length_cons, pow_succ]
      omega

theorem join_concat (bytes : List UInt8) (b : UInt8) :
    join (bytes ++ [b]) = join bytes + 256 ^ bytes.length * b.toNat := by
  induction bytes with
  | nil => simp [join]
  | cons a bytes ih =>
      rw [List.cons_append, join, ih, join, List.length_cons, pow_succ]
      ring

/-- A byte that is shifted past the others is added by `|||`. -/
theorem join_or_shiftLeft (bytes : List UInt8) (b : UInt8) :
    join bytes ||| b.toNat <<< (8 * bytes.length) = join (bytes ++ [b]) := by
  have radix : 2 ^ (8 * bytes.length) = 256 ^ bytes.length := by
    rw [Nat.pow_mul]
  have low : join bytes < 2 ^ (8 * bytes.length) := radix ▸ join_lt bytes
  have added := Nat.shiftLeft_add_eq_or_of_lt low b.toNat
  rw [Nat.or_comm, ← added, Nat.shiftLeft_eq, radix, join_concat, Nat.add_comm, Nat.mul_comm]

theorem shiftLeft_lt (b : UInt8) {k width : Nat} (le : k + 8 ≤ width) :
    b.toNat <<< k < 2 ^ width := by
  rw [Nat.shiftLeft_eq]
  calc b.toNat * 2 ^ k < 2 ^ 8 * 2 ^ k := Nat.mul_lt_mul_of_pos_right b.toNat_lt (Nat.two_pow_pos _)
    _ = 2 ^ (k + 8) := by rw [Nat.pow_add, Nat.mul_comm]
    _ ≤ 2 ^ width := Nat.pow_le_pow_right (by omega) le

section Memory
variable (memory : Nat → UInt8)

def write : Nat → List UInt8 → (Nat → UInt8) → Nat → UInt8
  | _, [], memory => memory
  | ptr, b :: bytes, memory => write (ptr + 1) bytes (Function.update memory ptr b)

def read (ptr : Nat) : Nat → List UInt8
  | 0 => []
  | width + 1 => memory ptr :: read (ptr + 1) width

variable {memory}

theorem write_of_lt {ptr i : Nat} (bytes : List UInt8) (lt : i < ptr) :
    write ptr bytes memory i = memory i := by
  induction bytes generalizing ptr memory with
  | nil => rfl
  | cons b bytes ih =>
      rw [write, ih (Nat.lt_succ_of_lt lt), Function.update_of_ne (Nat.ne_of_lt lt)]

theorem write_of_le {ptr i : Nat} (bytes : List UInt8) (le : ptr + bytes.length ≤ i) :
    write ptr bytes memory i = memory i := by
  induction bytes generalizing ptr memory with
  | nil => rfl
  | cons b bytes ih =>
      rw [List.length_cons] at le
      rw [write, ih (by omega), Function.update_of_ne (by omega)]

theorem read_congr {memory' : Nat → UInt8} {ptr width : Nat}
    (same : ∀ i, ptr ≤ i → i < ptr + width → memory i = memory' i) :
    read memory ptr width = read memory' ptr width := by
  induction width generalizing ptr with
  | zero => rfl
  | succ width ih =>
      rw [read, read, same ptr (Nat.le_refl _) (by omega), ih]
      intro i le lt
      exact same i (by omega) (by omega)

theorem read_write (ptr : Nat) (bytes : List UInt8) :
    read (write ptr bytes memory) ptr bytes.length = bytes := by
  induction bytes generalizing ptr memory with
  | nil => rfl
  | cons b bytes ih =>
      rw [List.length_cons, read, write, ih, write_of_lt _ (Nat.lt_succ_self ptr),
        Function.update_self]

/-- Bytes outside what is written are left. -/
theorem read_write_of_disjoint {ptr ptr' width : Nat} {bytes : List UInt8}
    (apart : ptr' + width ≤ ptr ∨ ptr + bytes.length ≤ ptr') :
    read (write ptr bytes memory) ptr' width = read memory ptr' width := by
  apply read_congr
  intro i le lt
  cases apart with
  | inl below => exact write_of_lt _ (by omega)
  | inr above => exact write_of_le _ (by omega)

theorem read_zero (ptr width : Nat) : read (fun _ => 0) ptr width = List.replicate width 0 := by
  induction width generalizing ptr with
  | zero => rfl
  | succ width ih => rw [read, ih, List.replicate_succ]

/-- A number that was written is read back. -/
theorem join_read_write {ptr width n : Nat} (lt : n < 256 ^ width) :
    join (read (write ptr (split width n) memory) ptr width) = n := by
  have written : read (write ptr (split width n) memory) ptr (split width n).length =
      split width n := read_write ptr (split width n)
  rw [length_split] at written
  rw [written, join_split, Nat.mod_eq_of_lt lt]

end Memory
end LittleEndian
