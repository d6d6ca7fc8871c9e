import DistributedHardware.AvTransport.BufferConversion
import DistributedHardware.Library.Storage

/-!
`BufferData`: the bytes of a buffer, of which the first `size` are in use.

A buffer points to as many bytes as its capacity, or nowhere. An access outside them is
`none`. The list in which an `AVTransBuffer` keeps its buffers is left out.
-/

namespace DistributedHardware.AvTransBuffer

def invalidPosition : UInt64 := -1
def capacityMaxLength : UInt64 := 8192

/-- A null pointer is `none`. -/
structure BufferData where
  capacity : UInt64
  size : UInt64
  address : Option (Storage UInt8 capacity.toNat)
  deriving DecidableEq

/-- What `memcpy_s(dest, length, src, length)` does: nothing, or it sets the destination to
zero, or it copies. -/
inductive Memcpy
  | fails | resets | copies

/-- `memMaxLen` is the greatest length it accepts; the pointers are given by whether they are
not null. -/
def memcpyS (memMaxLen : UInt64) (dest src : Bool) (length : UInt64) : Memcpy :=
  if length = 0 ∨ memMaxLen < length then .fails
  else if !dest then .fails
  else if !src then .resets
  else .copies

namespace BufferData

/-- `new uint8_t[capacity]` gives `fresh` bytes. -/
def ofCapacity (capacity : UInt64) (fresh : Storage UInt8 capacity.toNat) : BufferData where
  capacity
  size := 0
  address := if capacity ≤ capacityMaxLength then some fresh else none

def ofBufData (capacity : UInt64) (bufData : Option (Storage UInt8 capacity.toNat)) :
    BufferData where
  capacity
  size := 0
  address := bufData

variable (b : BufferData)

def setSize (size : UInt64) : BufferData := { b with size }

def reset : BufferData := { b with size := 0 }

/-- Whether `GetAddress() + start` is not null. -/
def pointer (start : UInt64) : Bool := b.address.isSome || start ≠ 0

def load (start length : UInt64) : Option (List UInt8) :=
  b.address.bind (fun address => address.load start.toNat length.toNat)

def store (start : UInt64) (bytes : List UInt8) : Option BufferData :=
  (b.address.bind (fun address => address.store start.toNat bytes)).map
    (fun address => { b with address := some address })

def writeStart (position : UInt64) : UInt64 :=
  if position = invalidPosition then b.size else min position b.capacity

def readStart (position : UInt64) : UInt64 :=
  if position ≠ invalidPosition then min position b.size else 0

section Access
variable (memMaxLen n : UInt64)

/-- `inBytes` points to `n` bytes. -/
def write (inBytes : Option (Storage UInt8 n.toNat)) (position : UInt64) :
    Option (UInt64 × BufferData) :=
  let start := b.writeStart position
  let length := min n (b.capacity - start)
  match memcpyS memMaxLen (b.pointer start) inBytes.isSome length with
  | .fails => some (0, b)
  | .resets => (b.store start (List.replicate length.toNat 0)).map (fun b => (0, b))
  | .copies =>
      (inBytes.bind (fun bytes => bytes.load 0 length.toNat)).bind (fun bytes =>
        (b.store start bytes).map (fun b => (length, { b with size := start + length })))

/-- The bytes `out` points to are returned as they are then. -/
def read (out : Option (Storage UInt8 n.toNat)) (position : UInt64) :
    Option (UInt64 × Option (Storage UInt8 n.toNat)) :=
  let start := b.readStart position
  let maxLength := b.size - start
  let length := min n maxLength
  match memcpyS memMaxLen out.isSome (b.pointer start) length with
  | .fails => some (0, out)
  | .resets =>
      (out.bind (fun out => out.store 0 (List.replicate length.toNat 0))).map
        (fun out => (0, some out))
  | .copies =>
      (b.load start length).bind (fun bytes =>
        (out.bind (fun out => out.store 0 bytes)).map (fun out => (length, some out)))

end Access
end BufferData

def createBufferData (capacity : UInt64) (fresh : Storage UInt8 capacity.toNat) :
    Option BufferData :=
  if bufferMaxCapacity < capacity.toNat then none else some (.ofCapacity capacity fresh)

def wrapBufferData (capacity : UInt64) (data : Option (Storage UInt8 capacity.toNat))
    (size : UInt64) : Option BufferData :=
  if bufferMaxCapacity < capacity.toNat then none
  else some ((BufferData.ofBufData capacity data).setSize size)

/-- The ways to make a buffer. -/
inductive BufferMaker
  | ofCapacity (capacity : UInt64) (fresh : Storage UInt8 capacity.toNat)
  | ofBufData (capacity : UInt64) (bufData : Option (Storage UInt8 capacity.toNat))
  | create (capacity : UInt64) (fresh : Storage UInt8 capacity.toNat)
  | wrap (capacity : UInt64) (data : Option (Storage UInt8 capacity.toNat)) (size : UInt64)

namespace BufferMaker

def make : BufferMaker → Option BufferData
  | .ofCapacity capacity fresh => some (.ofCapacity capacity fresh)
  | .ofBufData capacity bufData => some (.ofBufData capacity bufData)
  | .create capacity fresh => createBufferData capacity fresh
  | .wrap capacity data size => wrapBufferData capacity data size

/-- The size that is given to `WrapBufferData` is within the capacity. -/
def SizeFits : BufferMaker → Prop
  | .wrap capacity _ size => size ≤ capacity
  | .ofCapacity _ _ | .ofBufData _ _ | .create _ _ => True

end BufferMaker

inductive BufferOp
  | write (n : UInt64) (inBytes : Option (Storage UInt8 n.toNat)) (position : UInt64)
  | read (n : UInt64) (out : Option (Storage UInt8 n.toNat)) (position : UInt64)
  | reset

namespace BufferData
variable (b : BufferData) (memMaxLen n : UInt64)

/-- The buffer after an operation. -/
def run : BufferOp → Option BufferData
  | .write n inBytes position => (b.write memMaxLen n inBytes position).map Prod.snd
  | .read n out position => (b.read memMaxLen n out position).map (fun _ => b)
  | .reset => some b.reset

def bytes : List UInt8 := b.address.elim [] Subtype.val

/-- Where a write is to begin, and how many bytes are to be written: no more than there is
room for. -/
def writePosition (position : UInt64) : Nat :=
  if position = invalidPosition then b.size.toNat else position.toNat

def writeLength (position : UInt64) : Nat :=
  min n.toNat (b.capacity.toNat - b.writePosition position)

/-- The same for a read, of the bytes in use. -/
def readPosition (position : UInt64) : Nat :=
  if position = invalidPosition then 0 else position.toNat

def readLength (position : UInt64) : Nat :=
  min n.toNat (b.size.toNat - readPosition position)

/-- The bytes are stored from a position on, and nothing else changes but the size. -/
structure Stored (b : BufferData) (position : Nat) (bytes : List UInt8) (b' : BufferData) :
    Prop where
  capacity : b'.capacity = b.capacity
  size : b'.size.toNat = position + bytes.length
  bytes : b'.bytes = b.bytes.take position ++ bytes ++ b.bytes.drop (position + bytes.length)

/-- What the operations of a bounded buffer do. -/
def Meets : BufferOp → Prop
  | .write n inBytes position =>
      ∃ count b', b.write memMaxLen n inBytes position = some (count, b') ∧
        b'.size ≤ b'.capacity ∧
        ((∃ bytes ∈ inBytes, count.toNat = b.writeLength n position ∧
            b.Stored (b.writePosition position) (bytes.1.take count.toNat) b') ∨
          count = 0 ∧ b' = b)
  | .read n out position =>
      ∃ count out', b.read memMaxLen n out position = some (count, out') ∧
        count.toNat = b.readLength n position ∧
        out'.map Subtype.val = out.map (fun out =>
          (b.bytes.drop (readPosition position)).take count.toNat ++ out.1.drop count.toNat)
  | .reset => b.reset.size ≤ b.reset.capacity ∧ b.reset.bytes = b.bytes

/-- When they do it: a buffer without bytes is written at its beginning only, and not read;
a null `in` or `out` is accessed nowhere, unless what it sets to zero was zero already; and
what is read at once is within what `memcpy_s` accepts. -/
def Fits : BufferOp → Prop
  | .write n inBytes position =>
      let length := b.writeLength n position
      length = 0 ∨ memMaxLen.toNat < length ∨
        match b.address, inBytes with
        | none, _ => b.writePosition position = 0
        | some address, none =>
            (address.1.drop (b.writePosition position)).take length = List.replicate length 0
        | some _, some _ => True
  | .read n out position =>
      let length := b.readLength n position
      length = 0 ∨ length ≤ memMaxLen.toNat ∧ b.address.isSome ∧ out.isSome
  | .reset => True

/-- Each of the operations, on the buffer it finds. -/
def Each (holds : BufferData → BufferOp → Prop) : BufferData → List BufferOp → Prop
  | _, [] => True
  | b, op :: ops => holds b op ∧ ∀ b' ∈ b.run memMaxLen op, Each holds b' ops

section Ranges
variable {b : BufferData} {memMaxLen n position : UInt64}

theorem toNat_min (x y : UInt64) : (min x y).toNat = min x.toNat y.toNat := by
  show (if x ≤ y then x else y).toNat = min x.toNat y.toNat
  split
  case isTrue le =>
    rw [UInt64.le_iff_toNat_le] at le
    omega
  case isFalse lt =>
    rw [UInt64.le_iff_toNat_le] at lt
    omega

theorem toNat_writeStart (position : UInt64) (bounded : b.size ≤ b.capacity) :
    (b.writeStart position).toNat = min (b.writePosition position) b.capacity.toNat := by
  rw [UInt64.le_iff_toNat_le] at bounded
  unfold writeStart writePosition
  split
  · omega
  · exact toNat_min _ _

/-- The difference does not wrap. -/
theorem toNat_writeLength (n position : UInt64) (bounded : b.size ≤ b.capacity) :
    (min n (b.capacity - b.writeStart position)).toNat = b.writeLength n position := by
  have start := toNat_writeStart position bounded
  have le : b.writeStart position ≤ b.capacity := by
    rw [UInt64.le_iff_toNat_le]
    omega
  rw [toNat_min, UInt64.toNat_sub_of_le _ _ le, start]
  unfold writeLength
  omega

theorem toNat_readStart (b : BufferData) (position : UInt64) :
    (b.readStart position).toNat = min (readPosition position) b.size.toNat := by
  unfold readStart readPosition
  by_cases none_ : position = invalidPosition
  · simp [none_]
  · rw [if_pos none_, if_neg none_, toNat_min]

theorem toNat_readLength (b : BufferData) (n position : UInt64) :
    (min n (b.size - b.readStart position)).toNat = b.readLength n position := by
  have start := toNat_readStart b position
  rw [toNat_min, UInt64.toNat_sub_of_le, start]
  · unfold readLength
    omega
  · rw [UInt64.le_iff_toNat_le, start]
    omega

/-- Nothing is copied, or too much. -/
theorem memcpyS_fails {dest src : Bool} {length : UInt64}
    (fails : length.toNat = 0 ∨ memMaxLen.toNat < length.toNat) :
    memcpyS memMaxLen dest src length = .fails := by
  refine if_pos (fails.imp ?_ UInt64.lt_iff_toNat_lt.mpr)
  intro zero
  exact UInt64.toNat_inj.mp zero

theorem memcpyS_of_length {dest src : Bool} {length : UInt64} (positive : length.toNat ≠ 0)
    (le : length.toNat ≤ memMaxLen.toNat) :
    memcpyS memMaxLen dest src length =
      match dest, src with
      | false, _ => .fails
      | true, false => .resets
      | true, true => .copies := by
  unfold memcpyS
  rw [if_neg]
  · cases dest <;> cases src <;> rfl
  · rintro (rfl | lt)
    · exact positive rfl
    · rw [UInt64.lt_iff_toNat_lt] at lt
      omega

theorem pointer_of_address {address : Storage UInt8 b.capacity.toNat}
    (there : b.address = some address) (start : UInt64) : b.pointer start = true := by
  simp [pointer, there]

end Ranges

theorem withAddress_eq_self_iff {b : BufferData} {address : Storage UInt8 b.capacity.toNat} :
    { b with address := some address } = b ↔ some address = b.address := by
  cases b
  simp

section Write
variable {b : BufferData} {memMaxLen n position : UInt64}
  {inBytes : Option (Storage UInt8 n.toNat)}

theorem write_of_fails
    (fails : memcpyS memMaxLen (b.pointer (b.writeStart position)) inBytes.isSome
      (min n (b.capacity - b.writeStart position)) = .fails) :
    b.write memMaxLen n inBytes position = some (0, b) := by
  simp only [write, fails]

/-- A write that copies nothing leaves the buffer. -/
theorem meets_write_of_fails (bounded : b.size ≤ b.capacity)
    (fails : memcpyS memMaxLen (b.pointer (b.writeStart position)) inBytes.isSome
      (min n (b.capacity - b.writeStart position)) = .fails) :
    b.Meets memMaxLen (.write n inBytes position) :=
  ⟨0, b, write_of_fails fails, bounded, .inr ⟨rfl, rfl⟩⟩

/-- Where something is to be copied, it begins at the position and ends within the
capacity. -/
theorem writeStart_of_length (bounded : b.size ≤ b.capacity)
    (positive : b.writeLength n position ≠ 0) :
    (b.writeStart position).toNat = b.writePosition position ∧
      b.writePosition position + b.writeLength n position ≤ b.capacity.toNat := by
  have start := toNat_writeStart position bounded
  unfold writeLength at positive ⊢
  omega

section Copies
variable (positive : b.writeLength n position ≠ 0)
  (le : b.writeLength n position ≤ memMaxLen.toNat) (bounded : b.size ≤ b.capacity)
include positive le bounded

/-- Something is to be copied, so only the pointers decide. -/
theorem write_memcpyS (dest src : Bool) :
    memcpyS memMaxLen dest src (min n (b.capacity - b.writeStart position)) =
      match dest, src with
      | false, _ => .fails
      | true, false => .resets
      | true, true => .copies := by
  have length := toNat_writeLength n position bounded
  exact memcpyS_of_length (length ▸ positive) (length ▸ le)

/-- Without bytes, the beginning is the null pointer, and any other position no pointer at
all. -/
theorem meets_write_null (null : b.address = none) :
    b.Meets memMaxLen (.write n inBytes position) ↔ b.writePosition position = 0 := by
  have start := (writeStart_of_length bounded positive).1
  constructor
  · rintro ⟨count, b', written, -, -⟩
    by_contra later
    have pointer : b.pointer (b.writeStart position) = true := by
      have nonzero : b.writeStart position ≠ 0 := by
        intro zero
        rw [zero] at start
        exact later start.symm
      simp [pointer, nonzero]
    simp only [write, pointer, write_memcpyS positive le bounded, store, null,
      Option.bind_none, Option.map_none] at written
    cases inBytes <;> simp at written
  · intro zero
    have pointer : b.pointer (b.writeStart position) = false := by
      have first : b.writeStart position = 0 := UInt64.toNat_inj.mp (start.trans zero)
      simp [pointer, null, first]
    refine meets_write_of_fails bounded ?_
    rw [write_memcpyS positive le bounded, pointer]

section Address
variable {address : Storage UInt8 b.capacity.toNat} (there : b.address = some address)
include there

omit le in
theorem store_of_address {bytes : List UInt8} (length : bytes.length = b.writeLength n position) :
    ∃ stored : Storage UInt8 b.capacity.toNat,
      b.store (b.writeStart position) bytes = some { b with address := some stored } ∧
        stored.1 = address.splice (b.writePosition position) bytes := by
  obtain ⟨start, within⟩ := writeStart_of_length bounded positive
  rw [← length] at within
  refine ⟨⟨_, address.length_splice within⟩, ?_, rfl⟩
  simp only [store, there, Option.bind_some, start, Storage.store_of_le within, Option.map_some]

/-- The bytes of `in` are stored. -/
theorem meets_write_bytes (bytes : Storage UInt8 n.toNat) :
    b.Meets memMaxLen (.write n (some bytes) position) := by
  obtain ⟨start, within⟩ := writeStart_of_length bounded positive
  have count := toNat_writeLength n position bounded
  have enough : b.writeLength n position ≤ n.toNat := Nat.min_le_left _ _
  have taken : (bytes.1.take (b.writeLength n position)).length = b.writeLength n position := by
    rw [List.length_take, bytes.2, Nat.min_eq_left enough]
  obtain ⟨stored, hstore, contents⟩ := store_of_address positive bounded there taken
  have end_ : (b.writeStart position + min n (b.capacity - b.writeStart position)).toNat =
      b.writePosition position + b.writeLength n position := by
    have capacity := b.capacity.toNat_lt
    rw [UInt64.toNat_add, start, count, Nat.mod_eq_of_lt (by omega)]
  have written : b.write memMaxLen n (some bytes) position =
      some (min n (b.capacity - b.writeStart position),
        { b with
          address := some stored
          size := b.writeStart position + min n (b.capacity - b.writeStart position) }) := by
    simp only [write, pointer_of_address there, Option.isSome_some,
      write_memcpyS positive le bounded, count, Storage.load_zero enough, Option.bind_some,
      hstore, Option.map_some]
  refine ⟨_, _, written, ?_, .inl ⟨bytes, rfl, count, ?_⟩⟩
  · rw [UInt64.le_iff_toNat_le]
    exact end_.trans_le within
  · rw [count]
    constructor
    case capacity => rfl
    case size => rw [end_, taken]
    case bytes =>
      simp only [BufferData.bytes, there, Option.elim_some, contents]
      rfl

/-- A null `in`: the range is set to zero, which only goes unnoticed where it was. -/
theorem meets_write_nullBytes :
    b.Meets memMaxLen (.write n none position) ↔
      (address.1.drop (b.writePosition position)).take (b.writeLength n position) =
        List.replicate (b.writeLength n position) 0 := by
  obtain ⟨start, within⟩ := writeStart_of_length bounded positive
  have count := toNat_writeLength n position bounded
  have zeros : (List.replicate (b.writeLength n position) (0 : UInt8)).length =
      b.writeLength n position :=
    List.length_replicate
  obtain ⟨stored, hstore, contents⟩ := store_of_address positive bounded there zeros
  have written : b.write memMaxLen n none position =
      some (0, { b with address := some stored }) := by
    simp only [write, pointer_of_address there, Option.isSome_none,
      write_memcpyS positive le bounded, count, hstore, Option.map_some]
  have unchanged : { b with address := some stored } = b ↔ stored = address := by
    rw [withAddress_eq_self_iff, there, Option.some.injEq]
  rw [← zeros] at within
  have same := address.splice_eq_self_iff within
  rw [zeros] at same
  rw [← same, ← contents, ← Subtype.ext_iff, ← unchanged]
  constructor
  · rintro ⟨count, b', hwrite, -, ⟨_, ⟨⟩, -⟩ | ⟨-, same⟩⟩
    rw [written, Option.some.injEq, Prod.mk.injEq] at hwrite
    exact hwrite.2.trans same
  · intro same
    exact ⟨0, b, by rw [written, same], bounded, .inr ⟨rfl, rfl⟩⟩

end Address
end Copies

theorem meets_write_iff (bounded : b.size ≤ b.capacity) :
    b.Meets memMaxLen (.write n inBytes position) ↔
      b.Fits memMaxLen (.write n inBytes position) := by
  by_cases short : b.writeLength n position = 0 ∨ memMaxLen.toNat < b.writeLength n position
  · refine iff_of_true (meets_write_of_fails bounded (memcpyS_fails ?_)) (or_assoc.mp (.inl short))
    rwa [toNat_writeLength n position bounded]
  · obtain ⟨positive, le⟩ := not_or.mp short
    have le := not_lt.mp le
    simp only [Fits, positive, not_lt.mpr le, false_or]
    cases there : b.address with
    | none => exact meets_write_null positive le bounded there
    | some address =>
        cases inBytes with
        | none => exact meets_write_nullBytes positive le bounded there
        | some bytes =>
            exact iff_of_true (meets_write_bytes positive le bounded there bytes) trivial

end Write

section Read
variable {b : BufferData} {memMaxLen n position : UInt64} {out : Option (Storage UInt8 n.toNat)}

theorem read_of_fails
    (fails : memcpyS memMaxLen out.isSome (b.pointer (b.readStart position))
      (min n (b.size - b.readStart position)) = .fails) :
    b.read memMaxLen n out position = some (0, out) := by
  simp only [read, fails]

/-- A read that fails does not return what is there. -/
theorem not_meets_read_of_fails (positive : b.readLength n position ≠ 0)
    (fails : memcpyS memMaxLen out.isSome (b.pointer (b.readStart position))
      (min n (b.size - b.readStart position)) = .fails) :
    ¬ b.Meets memMaxLen (.read n out position) := by
  rintro ⟨count, out', hread, hcount, -⟩
  rw [read_of_fails fails] at hread
  cases hread
  exact positive hcount.symm

/-- Where there is nothing to be read, nothing is. -/
theorem meets_read_of_zero (zero : b.readLength n position = 0) :
    b.Meets memMaxLen (.read n out position) := by
  refine ⟨0, out, read_of_fails (memcpyS_fails (.inl ?_)), zero.symm, ?_⟩
  · rw [toNat_readLength, zero]
  · cases out <;> simp

section Copies
variable (positive : b.readLength n position ≠ 0) (le : b.readLength n position ≤ memMaxLen.toNat)
include positive le

theorem read_memcpyS (dest src : Bool) :
    memcpyS memMaxLen dest src (min n (b.size - b.readStart position)) =
      match dest, src with
      | false, _ => .fails
      | true, false => .resets
      | true, true => .copies := by
  have length := toNat_readLength b n position
  exact memcpyS_of_length (length ▸ positive) (length ▸ le)

/-- A buffer without bytes is not read. -/
theorem not_meets_read_null (null : b.address = none) (out : Storage UInt8 n.toNat) :
    ¬ b.Meets memMaxLen (.read n (some out) position) := by
  rintro ⟨count, out', hread, hcount, -⟩
  simp only [read, read_memcpyS positive le, Option.isSome_some, load, null,
    Option.bind_none] at hread
  cases pointer : b.pointer (b.readStart position) with
  | false =>
      simp only [pointer, Option.map_eq_some_iff] at hread
      obtain ⟨out, -, result⟩ := hread
      cases result
      exact positive hcount.symm
  | true =>
      simp only [pointer] at hread
      cases hread

theorem meets_read_address (bounded : b.size ≤ b.capacity)
    {address : Storage UInt8 b.capacity.toNat} (there : b.address = some address)
    (out : Storage UInt8 n.toNat) : b.Meets memMaxLen (.read n (some out) position) := by
  have count := toNat_readLength b n position
  have start := toNat_readStart b position
  rw [UInt64.le_iff_toNat_le] at bounded
  have within : readPosition position + b.readLength n position ≤ b.capacity.toNat ∧
      min (readPosition position) b.size.toNat = readPosition position ∧
      b.readLength n position ≤ n.toNat := by
    unfold readLength at positive ⊢
    omega
  obtain ⟨within, first, room⟩ := within
  rw [first] at start
  have length : ((address.1.drop (readPosition position)).take (b.readLength n position)).length =
      b.readLength n position := by
    rw [List.length_take, List.length_drop, address.2]
    omega
  have loaded : b.load (b.readStart position) (min n (b.size - b.readStart position)) =
      some ((address.1.drop (readPosition position)).take (b.readLength n position)) := by
    simp only [load, there, Option.bind_some, start, count, Storage.load_of_le within]
  have fits : 0 + ((address.1.drop (readPosition position)).take
      (b.readLength n position)).length ≤ n.toNat := by
    rw [length]
    omega
  have result : b.read memMaxLen n (some out) position =
      some (min n (b.size - b.readStart position),
        some ⟨out.splice 0 _, out.length_splice fits⟩) := by
    simp only [read, pointer_of_address there, Option.isSome_some, read_memcpyS positive le,
      loaded, Option.bind_some, Storage.store_of_le fits, Option.map_some]
  refine ⟨_, _, result, count, ?_⟩
  · simp only [Option.map_some, Storage.splice_zero, length, count, BufferData.bytes, there,
      Option.elim_some]

end Copies

theorem meets_read_iff (bounded : b.size ≤ b.capacity) :
    b.Meets memMaxLen (.read n out position) ↔ b.Fits memMaxLen (.read n out position) := by
  by_cases zero : b.readLength n position = 0
  · exact iff_of_true (meets_read_of_zero zero) (.inl zero)
  · simp only [Fits, zero, false_or]
    by_cases le : b.readLength n position ≤ memMaxLen.toNat
    · cases out with
      | none =>
          refine iff_of_false (not_meets_read_of_fails zero ?_) (by simp)
          exact read_memcpyS zero le _ _
      | some out =>
          cases there : b.address with
          | none => exact iff_of_false (not_meets_read_null zero le there out) (by simp)
          | some address =>
              exact iff_of_true (meets_read_address zero le bounded there out) ⟨le, rfl, rfl⟩
    · refine iff_of_false (not_meets_read_of_fails zero (memcpyS_fails (.inr ?_))) (fun h => le h.1)
      rw [toNat_readLength]
      exact not_le.mp le

end Read

section Run
variable {b b' : BufferData} {memMaxLen : UInt64}

theorem meets_iff_fits (bounded : b.size ≤ b.capacity) (op : BufferOp) :
    b.Meets memMaxLen op ↔ b.Fits memMaxLen op := by
  cases op with
  | write n inBytes position => exact meets_write_iff bounded
  | read n out position => exact meets_read_iff bounded
  | reset => exact iff_of_true ⟨UInt64.zero_le, rfl⟩ trivial

/-- An operation that does what it should leaves a bounded buffer. -/
theorem Meets.bounded {op : BufferOp} (meets : b.Meets memMaxLen op)
    (bounded : b.size ≤ b.capacity) (after : b' ∈ b.run memMaxLen op) :
    b'.size ≤ b'.capacity := by
  cases op with
  | write n inBytes position =>
      obtain ⟨count, b₁, written, bounded₁, -⟩ := meets
      simp only [run, written, Option.map_some, Option.mem_some] at after
      exact after ▸ bounded₁
  | read n out position =>
      obtain ⟨_, -, rfl⟩ := Option.map_eq_some_iff.mp after
      exact bounded
  | reset =>
      cases after
      exact meets.1

theorem each_meets_iff (ops : List BufferOp) (bounded : b.size ≤ b.capacity) :
    b.Each memMaxLen (fun b => b.Meets memMaxLen) ops ↔
      b.Each memMaxLen (fun b => b.Fits memMaxLen) ops := by
  induction ops generalizing b with
  | nil => exact Iff.rfl
  | cons op ops ih =>
      rw [Each, Each, meets_iff_fits bounded]
      refine and_congr_right ?_
      intro fits
      have meets := (meets_iff_fits bounded op).mpr fits
      exact forall₂_congr (fun b' after => ih (meets.bounded bounded after))

/-- The size is within the capacity from the beginning exactly if `WrapBufferData` is given
no greater one. -/
theorem bounded_iff_sizeFits {maker : BufferMaker} (made : maker.make = some b) :
    b.size ≤ b.capacity ↔ maker.SizeFits := by
  cases maker with
  | ofCapacity capacity fresh | ofBufData capacity bufData =>
      cases made
      exact iff_of_true UInt64.zero_le trivial
  | create capacity fresh =>
      simp only [BufferMaker.make, createBufferData] at made
      split at made <;> cases made
      exact iff_of_true UInt64.zero_le trivial
  | wrap capacity data size =>
      simp only [BufferMaker.make, wrapBufferData] at made
      split at made <;> cases made
      exact Iff.rfl

/-- A buffer is bounded, and each of its operations does what it should on the buffer it
finds, exactly if the size it was made with is within the capacity and each operation
is one that a buffer with or without bytes can do. -/
theorem bufferData_bounded_iff {maker : BufferMaker} (made : maker.make = some b)
    (memMaxLen : UInt64) (ops : List BufferOp) :
    (b.size ≤ b.capacity ∧ b.Each memMaxLen (fun b => b.Meets memMaxLen) ops) ↔
      maker.SizeFits ∧ b.Each memMaxLen (fun b => b.Fits memMaxLen) ops := by
  rw [← bounded_iff_sizeFits made]
  exact and_congr_right (each_meets_iff ops)

private def bytes4 : Storage UInt8 (4 : UInt64).toNat := ⟨[1, 2, 3, 4], rfl⟩
private def bytes1 : Storage UInt8 (1 : UInt64).toNat := ⟨[9], rfl⟩
private def zeros8 : Storage UInt8 (8 : UInt64).toNat := ⟨[0, 0, 0, 0, 0, 0, 0, 0], rfl⟩

/-- Four bytes, two of them in use: one more is written, and all are read. -/
theorem bufferData_bounded_append : ∃ b, (BufferMaker.wrap 4 (some bytes4) 2).make = some b ∧
    b.size ≤ b.capacity ∧ b.Each 0x7fffffff (fun b => b.Meets 0x7fffffff)
      [.write 1 (some bytes1) invalidPosition, .read 8 (some zeros8) invalidPosition, .reset] := by
  have made : (BufferMaker.wrap 4 (some bytes4) 2).make =
      some { capacity := 4, size := 2, address := some bytes4 } := rfl
  have written : { capacity := 4, size := 2, address := some bytes4 : BufferData }.run 0x7fffffff
      (.write 1 (some bytes1) invalidPosition) =
        some { capacity := 4, size := 3, address := some ⟨[1, 2, 9, 4], rfl⟩ } := by
    decide +kernel
  have fits : (2 : UInt64) ≤ 4 := by decide
  refine ⟨_, made, (bufferData_bounded_iff made _ _).mpr ⟨fits, .inr (.inr trivial), ?_⟩⟩
  rw [written]
  rintro _ ⟨⟩
  refine ⟨.inr ⟨by decide, rfl, rfl⟩, ?_⟩
  intro b _
  exact ⟨trivial, fun _ _ => trivial⟩

/-- A buffer that is wrapped with a size over its capacity is accessed beyond its bytes, and
one that is made with too great a capacity is written without any. -/
theorem exists_access_beyond_capacity :
    (∃ b ∈ wrapBufferData 4 (some bytes4) 8, b.capacity < b.size ∧
      b.read 0x7fffffff 8 (some zeros8) invalidPosition = none ∧
      b.write 0x7fffffff 1 (some bytes1) invalidPosition = none) ∧
    ∃ b ∈ (BufferMaker.ofCapacity 8193 ⟨List.replicate 8193 0, List.length_replicate⟩).make,
      b.size ≤ b.capacity ∧ b.write 0x7fffffff 1 (some bytes1) 1 = none := by
  refine ⟨⟨_, rfl, by decide +kernel⟩, ⟨_, rfl, ?_⟩⟩
  constructor
  · exact UInt64.zero_le
  · rfl

end Run

end BufferData
end DistributedHardware.AvTransBuffer
