import DistributedHardware.Library.LittleEndian
import DistributedHardware.Library.Ring
import DistributedHardware.AvTransport.ControlCenter
import DistributedHardware.AvTransport.SyncManager

/-!
The ring of clock units in the shared memory.

A slot is a frame number in four bytes and a pts in eight. The writer goes round by an
index of its own; the reader looks at all slots and takes the greatest pts.
-/

namespace DistributedHardware

def errDhAvtSharedMemoryFailed : Int := -80023
def errDhAvtMasterNotReady : Int := -80024

structure AVSyncClockUnit where
  index : UInt32
  frameNum : UInt32
  pts : Int64
  deriving DecidableEq

/-- What `AshmemGetSize` and `AshmemSetProt` return, and whether `mmap` succeeds. -/
structure MapAnswers where
  size : Int
  setProt : Int := 0
  mapped : Bool := true

/-- The bytes at the address the memory is mapped to. -/
abbrev MappedBytes := Nat → UInt8

def u32ToU8 (ptr : Nat) (value : UInt32) (base : MappedBytes) : MappedBytes :=
  let base := Function.update base ptr (value &&& 0xff).toUInt8
  let base := Function.update base (ptr + 1) (value >>> 8 &&& 0xff).toUInt8
  let base := Function.update base (ptr + 2) (value >>> 16 &&& 0xff).toUInt8
  Function.update base (ptr + 3) (value >>> 24 &&& 0xff).toUInt8

def u64ToU8 (ptr : Nat) (value : UInt64) (base : MappedBytes) : MappedBytes :=
  let base := Function.update base ptr (value &&& 0xff).toUInt8
  let base := Function.update base (ptr + 1) (value >>> 8 &&& 0xff).toUInt8
  let base := Function.update base (ptr + 2) (value >>> 16 &&& 0xff).toUInt8
  let base := Function.update base (ptr + 3) (value >>> 24 &&& 0xff).toUInt8
  let base := Function.update base (ptr + 4) (value >>> 32 &&& 0xff).toUInt8
  let base := Function.update base (ptr + 5) (value >>> 40 &&& 0xff).toUInt8
  let base := Function.update base (ptr + 6) (value >>> 48 &&& 0xff).toUInt8
  Function.update base (ptr + 7) (value >>> 56 &&& 0xff).toUInt8

def u8ToU32 (base : MappedBytes) (ptr : Nat) : UInt32 :=
  (base ptr &&& 0xff).toUInt32 |||
    (base (ptr + 1) &&& 0xff).toUInt32 <<< 8 |||
    (base (ptr + 2) &&& 0xff).toUInt32 <<< 16 |||
    (base (ptr + 3) &&& 0xff).toUInt32 <<< 24

def u8ToU64 (base : MappedBytes) (ptr : Nat) : UInt64 :=
  (base ptr &&& 0xff).toUInt64 |||
    (base (ptr + 1) &&& 0xff).toUInt64 <<< 8 |||
    (base (ptr + 2) &&& 0xff).toUInt64 <<< 16 |||
    (base (ptr + 3) &&& 0xff).toUInt64 <<< 24 |||
    (base (ptr + 4) &&& 0xff).toUInt64 <<< 32 |||
    (base (ptr + 5) &&& 0xff).toUInt64 <<< 40 |||
    (base (ptr + 6) &&& 0xff).toUInt64 <<< 48 |||
    (base (ptr + 7) &&& 0xff).toUInt64 <<< 56

/-- The index is unsigned, so it is never below 0. -/
def isInValidClockUnit (clockUnit : AVSyncClockUnit) : Bool :=
  maxClockUnitCount ≤ clockUnit.index.toNat || clockUnit.frameNum ≤ 0 || clockUnit.pts ≤ 0

section Access
variable (answers : MapAnswers) (memory : AVTransSharedMemory)

def writeClockUnitToMemory (clockUnit : AVSyncClockUnit) (base : MappedBytes) :
    Int × AVSyncClockUnit × MappedBytes :=
  if isInValidSharedMemory memory then (errDhAvtInvalidParam, clockUnit, base)
  else if isInValidClockUnit clockUnit then (errDhAvtInvalidParam, clockUnit, base)
  else if answers.size ≠ memory.size then (errDhAvtSharedMemoryFailed, clockUnit, base)
  else if answers.setProt < 0 then (errDhAvtSharedMemoryFailed, clockUnit, base)
  else if !answers.mapped then (errDhAvtSharedMemoryFailed, clockUnit, base)
  else
    let fOffset := (4 + 8) * clockUnit.index.toNat
    let tOffset := fOffset + 4
    let base := u64ToU8 tOffset clockUnit.pts.toUInt64 base
    let base := u32ToU8 fOffset clockUnit.frameNum base
    let index := clockUnit.index + 1
    let index := if index.toNat = maxClockUnitCount then 0 else index
    (dhAvtSuccess, { clockUnit with index }, base)

/-- What the scan of the reader has: the greatest pts so far, and the unit it fills. -/
structure ClockScan where
  latestPts : Int64
  clockUnit : AVSyncClockUnit

def scanClockUnit (base : MappedBytes) (s : ClockScan) (index : Nat) : ClockScan :=
  let unitSize := 4 + 8
  let frameNum := u8ToU32 base (index * unitSize)
  let pts := (u8ToU64 base (index * unitSize + 4)).toInt64
  if s.latestPts < pts then
    { latestPts := pts, clockUnit := { s.clockUnit with pts, frameNum } }
  else s

def readClockUnitFromMemory (clockUnit : AVSyncClockUnit) (base : MappedBytes) :
    Int × AVSyncClockUnit :=
  if isInValidSharedMemory memory then (errDhAvtInvalidParam, clockUnit)
  else if clockUnit.frameNum ≤ 0 then (errDhAvtInvalidParam, clockUnit)
  else if answers.size ≠ memory.size then (errDhAvtSharedMemoryFailed, clockUnit)
  else if answers.setProt < 0 then (errDhAvtSharedMemoryFailed, clockUnit)
  else if !answers.mapped then (errDhAvtSharedMemoryFailed, clockUnit)
  else if u8ToU32 base 0 = 0 then (errDhAvtMasterNotReady, clockUnit)
  else
    let scanned := (List.range maxClockUnitCount.toNat).foldl (scanClockUnit base)
      { latestPts := 0, clockUnit }
    (dhAvtSuccess, scanned.clockUnit)

end Access

section Codec
variable {base : MappedBytes} {ptr : Nat}

theorem byte_of_u32 (value : UInt32) {k : UInt32} {m : Nat} (lt : k.toNat < 32)
    (hm : 2 ^ k.toNat = m) :
    (value >>> k &&& 0xff).toUInt8 = UInt8.ofNat (value.toNat / m) := by
  apply UInt8.toNat_inj.mp
  have mask : (0xff : UInt32).toNat = 2 ^ 8 - 1 := rfl
  rw [UInt32.toNat_toUInt8, UInt32.toNat_and, mask, Nat.and_two_pow_sub_one_eq_mod,
    UInt32.toNat_shiftRight, Nat.mod_eq_of_lt lt, Nat.shiftRight_eq_div_pow, hm,
    UInt8.toNat_ofNat', Nat.mod_mod]

theorem byte_of_u64 (value : UInt64) {k : UInt64} {m : Nat} (lt : k.toNat < 64)
    (hm : 2 ^ k.toNat = m) :
    (value >>> k &&& 0xff).toUInt8 = UInt8.ofNat (value.toNat / m) := by
  apply UInt8.toNat_inj.mp
  have mask : (0xff : UInt64).toNat = 2 ^ 8 - 1 := rfl
  rw [UInt64.toNat_toUInt8, UInt64.toNat_and, mask, Nat.and_two_pow_sub_one_eq_mod,
    UInt64.toNat_shiftRight, Nat.mod_eq_of_lt lt, Nat.shiftRight_eq_div_pow, hm,
    UInt8.toNat_ofNat', Nat.mod_mod]

theorem u32ToU8_eq (value : UInt32) :
    u32ToU8 ptr value base = LittleEndian.write ptr (LittleEndian.split 4 value.toNat) base := by
  have first : (value &&& 0xff).toUInt8 = UInt8.ofNat value.toNat := by
    simpa using byte_of_u32 value (k := 0) (by decide) rfl
  rw [u32ToU8, first, byte_of_u32 value (by decide) (m := 256) rfl,
    byte_of_u32 value (by decide) (m := 65536) rfl,
    byte_of_u32 value (by decide) (m := 16777216) rfl]
  simp only [LittleEndian.split, LittleEndian.write, Nat.div_div_eq_div_mul, Nat.reduceMul]

theorem u64ToU8_eq (value : UInt64) :
    u64ToU8 ptr value base = LittleEndian.write ptr (LittleEndian.split 8 value.toNat) base := by
  have first : (value &&& 0xff).toUInt8 = UInt8.ofNat value.toNat := by
    simpa using byte_of_u64 value (k := 0) (by decide) rfl
  rw [u64ToU8, first, byte_of_u64 value (by decide) (m := 256) rfl,
    byte_of_u64 value (by decide) (m := 65536) rfl,
    byte_of_u64 value (by decide) (m := 16777216) rfl,
    byte_of_u64 value (by decide) (m := 4294967296) rfl,
    byte_of_u64 value (by decide) (m := 1099511627776) rfl,
    byte_of_u64 value (by decide) (m := 281474976710656) rfl,
    byte_of_u64 value (by decide) (m := 72057594037927936) rfl]
  simp only [LittleEndian.split, LittleEndian.write, Nat.div_div_eq_div_mul, Nat.reduceMul]

theorem and_byteMask (b : UInt8) : b &&& 0xff = b := by
  apply UInt8.toNat_inj.mp
  have mask : (0xff : UInt8).toNat = 2 ^ 8 - 1 := rfl
  rw [UInt8.toNat_and, mask, Nat.and_two_pow_sub_one_eq_mod, Nat.mod_eq_of_lt b.toNat_lt]

theorem toNat_shifted_u32 (b : UInt8) {k : UInt32} {n : Nat} (hn : k.toNat = 8 * n)
    (le : n < 4) : ((b &&& 0xff).toUInt32 <<< k).toNat = b.toNat <<< (8 * n) := by
  have low : k.toNat % 32 = 8 * n := by omega
  rw [and_byteMask, UInt32.toNat_shiftLeft, low, UInt8.toNat_toUInt32,
    Nat.mod_eq_of_lt (LittleEndian.shiftLeft_lt b (by omega))]

theorem toNat_shifted_u64 (b : UInt8) {k : UInt64} {n : Nat} (hn : k.toNat = 8 * n)
    (le : n < 8) : ((b &&& 0xff).toUInt64 <<< k).toNat = b.toNat <<< (8 * n) := by
  have low : k.toNat % 64 = 8 * n := by omega
  rw [and_byteMask, UInt64.toNat_shiftLeft, low, UInt8.toNat_toUInt64,
    Nat.mod_eq_of_lt (LittleEndian.shiftLeft_lt b (by omega))]

theorem toNat_u8ToU32 :
    (u8ToU32 base ptr).toNat = LittleEndian.join (LittleEndian.read base ptr 4) := by
  have step := LittleEndian.join_or_shiftLeft
  have bytes : LittleEndian.read base ptr 4 =
      [base ptr] ++ [base (ptr + 1)] ++ [base (ptr + 2)] ++ [base (ptr + 3)] := rfl
  rw [bytes, ← step, ← step, ← step, u8ToU32, UInt32.toNat_or, UInt32.toNat_or, UInt32.toNat_or,
    toNat_shifted_u32 _ (n := 1) rfl (by decide), toNat_shifted_u32 _ (n := 2) rfl (by decide),
    toNat_shifted_u32 _ (n := 3) rfl (by decide), and_byteMask]
  rfl

theorem toNat_u8ToU64 :
    (u8ToU64 base ptr).toNat = LittleEndian.join (LittleEndian.read base ptr 8) := by
  have step := LittleEndian.join_or_shiftLeft
  have bytes : LittleEndian.read base ptr 8 =
      [base ptr] ++ [base (ptr + 1)] ++ [base (ptr + 2)] ++ [base (ptr + 3)] ++ [base (ptr + 4)] ++
        [base (ptr + 5)] ++ [base (ptr + 6)] ++ [base (ptr + 7)] := rfl
  rw [bytes, ← step, ← step, ← step, ← step, ← step, ← step, ← step, u8ToU64]
  simp only [UInt64.toNat_or]
  rw [toNat_shifted_u64 _ (n := 1) rfl (by decide), toNat_shifted_u64 _ (n := 2) rfl (by decide),
    toNat_shifted_u64 _ (n := 3) rfl (by decide), toNat_shifted_u64 _ (n := 4) rfl (by decide),
    toNat_shifted_u64 _ (n := 5) rfl (by decide), toNat_shifted_u64 _ (n := 6) rfl (by decide),
    toNat_shifted_u64 _ (n := 7) rfl (by decide), and_byteMask]
  rfl

end Codec

/-- A clock as the slots hold it: the frame number and the pts. -/
abbrev Clock := UInt32 × Int64

def ptsOf (c : Clock) : Int := c.2.toInt

def clockAt (base : MappedBytes) (index : Nat) : Clock :=
  (u8ToU32 base (index * (4 + 8)), (u8ToU64 base (index * (4 + 8) + 4)).toInt64)

section Slots
variable {base : MappedBytes}

theorem u8ToU32_congr {base' : MappedBytes} {ptr ptr' : Nat}
    (same : LittleEndian.read base ptr 4 = LittleEndian.read base' ptr' 4) :
    u8ToU32 base ptr = u8ToU32 base' ptr' := by
  apply UInt32.toNat_inj.mp
  rw [toNat_u8ToU32, toNat_u8ToU32, same]

theorem u8ToU64_congr {base' : MappedBytes} {ptr ptr' : Nat}
    (same : LittleEndian.read base ptr 8 = LittleEndian.read base' ptr' 8) :
    u8ToU64 base ptr = u8ToU64 base' ptr' := by
  apply UInt64.toNat_inj.mp
  rw [toNat_u8ToU64, toNat_u8ToU64, same]

theorem u8ToU32_u32ToU8 (ptr : Nat) (value : UInt32) :
    u8ToU32 (u32ToU8 ptr value base) ptr = value := by
  apply UInt32.toNat_inj.mp
  rw [toNat_u8ToU32, u32ToU8_eq, LittleEndian.join_read_write value.toNat_lt]

theorem u8ToU64_u64ToU8 (ptr : Nat) (value : UInt64) :
    u8ToU64 (u64ToU8 ptr value base) ptr = value := by
  apply UInt64.toNat_inj.mp
  rw [toNat_u8ToU64, u64ToU8_eq, LittleEndian.join_read_write value.toNat_lt]

/-- A write of the two numbers changes one slot. -/
theorem clockAt_write (i : Nat) (frameNum : UInt32) (pts : Int64) :
    clockAt (u32ToU8 ((4 + 8) * i) frameNum (u64ToU8 ((4 + 8) * i + 4) pts.toUInt64 base)) =
      Function.update (clockAt base) i (frameNum, pts) := by
  funext j
  by_cases h : j = i
  · have high : u8ToU64 (u32ToU8 ((4 + 8) * i) frameNum
        (u64ToU8 ((4 + 8) * i + 4) pts.toUInt64 base)) ((4 + 8) * i + 4) =
          u8ToU64 (u64ToU8 ((4 + 8) * i + 4) pts.toUInt64 base) ((4 + 8) * i + 4) := by
      apply u8ToU64_congr
      rw [u32ToU8_eq]
      apply LittleEndian.read_write_of_disjoint
      rw [LittleEndian.length_split]
      omega
    rw [h, Function.update_self, clockAt, Nat.mul_comm i, u8ToU32_u32ToU8, high, u8ToU64_u64ToU8,
      Int64.toInt64_toUInt64]
  · rw [Function.update_of_ne h, clockAt, clockAt]
    congr 1
    · apply u8ToU32_congr
      rw [u32ToU8_eq, u64ToU8_eq, LittleEndian.read_write_of_disjoint,
        LittleEndian.read_write_of_disjoint] <;> rw [LittleEndian.length_split] <;> omega
    · apply congrArg UInt64.toInt64
      apply u8ToU64_congr
      rw [u32ToU8_eq, u64ToU8_eq, LittleEndian.read_write_of_disjoint,
        LittleEndian.read_write_of_disjoint] <;> rw [LittleEndian.length_split] <;> omega

theorem clockAt_zero (i : Nat) : clockAt (fun _ => 0) i = (0, 0) := by
  have low : u8ToU32 (fun _ => 0) (i * (4 + 8)) = 0 := by
    apply UInt32.toNat_inj.mp
    rw [toNat_u8ToU32, LittleEndian.read_zero, LittleEndian.join_replicate_zero]
    rfl
  have high : u8ToU64 (fun _ => 0) (i * (4 + 8) + 4) = 0 := by
    apply UInt64.toNat_inj.mp
    rw [toNat_u8ToU64, LittleEndian.read_zero, LittleEndian.join_replicate_zero]
    rfl
  rw [clockAt, low, high]
  rfl

end Slots

section Accesses
variable {answers : MapAnswers} {memory : AVTransSharedMemory} {clockUnit unit' : AVSyncClockUnit}
  {base base' : MappedBytes}

/-- The next index of the writer. -/
def nextClockIndex (index : UInt32) : UInt32 :=
  if (index + 1).toNat = maxClockUnitCount then 0 else index + 1

theorem isInValidClockUnit_eq_false_iff :
    isInValidClockUnit clockUnit = false ↔ clockUnit.index.toNat < maxClockUnitCount.toNat ∧
      clockUnit.frameNum ≠ 0 ∧ 0 < clockUnit.pts.toInt := by
  have count : maxClockUnitCount = (maxClockUnitCount.toNat : Int) := rfl
  have zero : clockUnit.frameNum ≤ 0 ↔ clockUnit.frameNum = 0 := by
    rw [UInt32.le_iff_toNat_le, ← UInt32.toNat_inj]
    exact Nat.le_zero
  have positive : ¬ clockUnit.pts ≤ 0 ↔ 0 < clockUnit.pts.toInt := by
    rw [Int64.le_iff_toInt_le]
    exact Int.not_le
  rw [isInValidClockUnit, Bool.or_eq_false_iff, Bool.or_eq_false_iff, decide_eq_false_iff_not,
    decide_eq_false_iff_not, decide_eq_false_iff_not, positive, zero, count, Int.toNat_natCast,
    Int.ofNat_le, Nat.not_le, and_assoc]

/-- What a write that succeeds has found and done. -/
theorem writeClockUnitToMemory_success
    (h : writeClockUnitToMemory answers memory clockUnit base = (dhAvtSuccess, unit', base')) :
    isInValidSharedMemory memory = false ∧ isInValidClockUnit clockUnit = false ∧
      unit' = { clockUnit with index := nextClockIndex clockUnit.index } ∧
      clockAt base' = Function.update (clockAt base) clockUnit.index.toNat
        (clockUnit.frameNum, clockUnit.pts) := by
  have failed {code : Int} {r : AVSyncClockUnit × MappedBytes} (ne : code ≠ dhAvtSuccess) :
      (code, r) ≠ (dhAvtSuccess, unit', base') := fun same => ne (congrArg Prod.fst same)
  have refused {r : AVSyncClockUnit × MappedBytes} :
      (errDhAvtInvalidParam, r) ≠ (dhAvtSuccess, unit', base') := failed (by decide)
  have unmapped {r : AVSyncClockUnit × MappedBytes} :
      (errDhAvtSharedMemoryFailed, r) ≠ (dhAvtSuccess, unit', base') := failed (by decide)
  unfold writeClockUnitToMemory at h
  by_cases memoryValid : isInValidSharedMemory memory = true
  · exact absurd ((if_pos memoryValid).symm.trans h) refused
  rw [if_neg memoryValid] at h
  by_cases unitValid : isInValidClockUnit clockUnit = true
  · exact absurd ((if_pos unitValid).symm.trans h) refused
  rw [if_neg unitValid] at h
  by_cases size : answers.size ≠ memory.size
  · exact absurd ((if_pos size).symm.trans h) unmapped
  rw [if_neg size] at h
  by_cases prot : answers.setProt < 0
  · exact absurd ((if_pos prot).symm.trans h) unmapped
  rw [if_neg prot] at h
  by_cases map : (!answers.mapped) = true
  · exact absurd ((if_pos map).symm.trans h) unmapped
  rw [if_neg map] at h
  cases h
  refine ⟨Bool.eq_false_iff.mpr memoryValid, Bool.eq_false_iff.mpr unitValid, rfl, ?_⟩
  exact clockAt_write clockUnit.index.toNat clockUnit.frameNum clockUnit.pts

/-- A write that fails touches nothing. -/
theorem writeClockUnitToMemory_failed
    (h : (writeClockUnitToMemory answers memory clockUnit base).1 ≠ dhAvtSuccess) :
    (writeClockUnitToMemory answers memory clockUnit base).2.2 = base := by
  unfold writeClockUnitToMemory at h ⊢
  split_ifs at h ⊢ <;> first | rfl | exact absurd rfl h

def ClockScan.take (s : ClockScan) (c : Clock) : ClockScan where
  latestPts := c.2
  clockUnit := { s.clockUnit with pts := c.2, frameNum := c.1 }

/-- The reader's scan is that of the ring. -/
theorem foldl_scanClockUnit (s : ClockScan) (indices : List Nat) :
    indices.foldl (scanClockUnit base) s =
      Ring.scan ptsOf (clockAt base) (fun s => s.latestPts.toInt) ClockScan.take s indices := by
  have step : scanClockUnit base = fun s j =>
      if s.latestPts.toInt < ptsOf (clockAt base j) then s.take (clockAt base j) else s := by
    funext s j
    simp only [scanClockUnit, Int64.lt_iff_toInt_lt]
    rfl
  rw [step, Ring.scan]

/-- The operating system gives access to the memory. -/
structure MapAnswers.Grant (answers : MapAnswers) (memory : AVTransSharedMemory) : Prop where
  size : answers.size = memory.size
  setProt : 0 ≤ answers.setProt
  mapped : answers.mapped = true

theorem readClockUnitFromMemory_eq (grant : answers.Grant memory)
    (valid : isInValidSharedMemory memory = false) (asked : clockUnit.frameNum ≠ 0) :
    readClockUnitFromMemory answers memory clockUnit base =
      if (clockAt base 0).1 = 0 then (errDhAvtMasterNotReady, clockUnit)
      else (dhAvtSuccess, (Ring.scan ptsOf (clockAt base) (fun s => s.latestPts.toInt)
        ClockScan.take { latestPts := 0, clockUnit }
        (List.range maxClockUnitCount.toNat)).clockUnit) := by
  have positive : ¬ clockUnit.frameNum ≤ 0 := by
    rw [UInt32.le_iff_toNat_le]
    intro le
    exact asked (UInt32.toNat_inj.mp (Nat.le_zero.mp le))
  have first : (clockAt base 0).1 = u8ToU32 base 0 := by rw [clockAt, Nat.zero_mul]
  rw [readClockUnitFromMemory, if_neg (by simp [valid]), if_neg positive,
    if_neg (not_not.mpr grant.size), if_neg (Int.not_lt.mpr grant.setProt),
    if_neg (by simp [grant.mapped]), first]
  simp only [foldl_scanClockUnit]

/-- The reader returns the newest clock of a ring in use. -/
theorem readClockUnitFromMemory_newest {c : Clock} (grant : answers.Grant memory)
    (valid : isInValidSharedMemory memory = false) (asked : clockUnit.frameNum ≠ 0)
    (ready : (clockAt base 0).1 ≠ 0) (positive : 0 < ptsOf c)
    (newest : Ring.Newest ptsOf maxClockUnitCount.toNat (clockAt base) c) :
    readClockUnitFromMemory answers memory clockUnit base =
      (dhAvtSuccess, { clockUnit with frameNum := c.1, pts := c.2 }) := by
  have scanned : Ring.scan ptsOf (clockAt base) (fun s => s.latestPts.toInt) ClockScan.take
      { latestPts := 0, clockUnit } (List.range maxClockUnitCount.toNat) =
        ClockScan.take { latestPts := 0, clockUnit } c :=
    Ring.scan_eq_take (fun _ _ => rfl) (fun _ _ _ => rfl) newest positive
  rw [readClockUnitFromMemory_eq grant valid asked, if_neg ready, scanned]
  rfl

end Accesses

/-- The successful writes into a zeroed memory, the index going on from one to the next. -/
inductive ClockWrites (memory : AVTransSharedMemory) :
    List Clock → UInt32 → MappedBytes → Prop
  | zeroed : ClockWrites memory [] 0 (fun _ => 0)
  | write {clocks : List Clock} {index frameNum : UInt32} {pts : Int64} {base base' : MappedBytes}
      {answers : MapAnswers} {clockUnit : AVSyncClockUnit} :
      ClockWrites memory clocks index base →
      writeClockUnitToMemory answers memory { index, frameNum, pts } base =
        (dhAvtSuccess, clockUnit, base') →
      ClockWrites memory (clocks ++ [(frameNum, pts)]) clockUnit.index base'

/-- The ring after writes of growing pts. -/
structure ClockRing (last : Option Clock) (index : UInt32) (base : MappedBytes) : Prop where
  inside : index.toNat < maxClockUnitCount.toNat
  unused : last = none → index = 0 ∧ ∀ j, clockAt base j = (0, 0)
  newest : ∀ c, last = some c → 0 < ptsOf c ∧ (clockAt base 0).1 ≠ 0 ∧
    Ring.Newest ptsOf maxClockUnitCount.toNat (clockAt base) c

theorem toNat_nextClockIndex {index : UInt32} (lt : index.toNat < maxClockUnitCount.toNat) :
    (nextClockIndex index).toNat = (index.toNat + 1) % maxClockUnitCount.toNat := by
  have count : maxClockUnitCount = 50 := rfl
  simp only [count] at lt
  have bound : index.toNat + 1 < 2 ^ 32 := by omega
  have next : (index + 1).toNat = index.toNat + 1 := by
    rw [UInt32.toNat_add]
    exact Nat.mod_eq_of_lt bound
  unfold nextClockIndex
  rw [next]
  simp only [count]
  split
  case isTrue wrapped =>
    have wrapped : index.toNat + 1 = 50 := by omega
    rw [wrapped]
    rfl
  case isFalse inside =>
    rw [next, Nat.mod_eq_of_lt (by omega)]

theorem nextClockIndex_lt {index : UInt32} (lt : index.toNat < maxClockUnitCount.toNat) :
    (nextClockIndex index).toNat < maxClockUnitCount.toNat := by
  rw [toNat_nextClockIndex lt]
  exact Nat.mod_lt _ (by decide)

theorem ClockRing.write {last : Option Clock} {index frameNum : UInt32} {pts : Int64}
    {base base' : MappedBytes} (h : ClockRing last index base)
    (fits : isInValidClockUnit { index, frameNum, pts } = false)
    (newer : ∀ c, last = some c → ptsOf c < ptsOf (frameNum, pts))
    (written : clockAt base' = Function.update (clockAt base) index.toNat (frameNum, pts)) :
    ClockRing (some (frameNum, pts)) (nextClockIndex index) base' := by
  obtain ⟨-, frame, positive⟩ := isInValidClockUnit_eq_false_iff.mp fits
  refine ⟨nextClockIndex_lt h.inside, (fun none => by cases none), ?_⟩
  intro c same
  cases same
  refine ⟨positive, ?_, ?_⟩
  · rw [written]
    by_cases first : 0 = index.toNat
    · rw [← first, Function.update_self]
      exact frame
    · rw [Function.update_of_ne first]
      cases last with
      | none => exact absurd (congrArg UInt32.toNat (h.unused rfl).1).symm first
      | some c => exact (h.newest c rfl).2.1
  · rw [written]
    cases last with
    | none =>
        apply Ring.newest_update h.inside
        intro j _
        rw [(h.unused rfl).2 j]
        exact positive
    | some c => exact (h.newest c rfl).2.2.update h.inside (newer c rfl)

theorem ClockRing.zeroed : ClockRing none 0 (fun _ => 0) where
  inside := by decide
  unused := fun _ => ⟨rfl, clockAt_zero⟩
  newest := fun _ none => by cases none

theorem clockRing_of_writes {memory : AVTransSharedMemory} {clocks : List Clock} {index : UInt32}
    {base : MappedBytes} (writes : ClockWrites memory clocks index base)
    (growing : (clocks.map ptsOf).Pairwise (· < ·)) : ClockRing clocks.getLast? index base := by
  induction writes with
  | zeroed => exact .zeroed
  | @write clocks index frameNum pts base base' answers clockUnit writes success ih =>
      rw [List.map_append, List.pairwise_append] at growing
      obtain ⟨-, fits, unit, written⟩ := writeClockUnitToMemory_success success
      rw [List.getLast?_concat, unit]
      apply (ih growing.1).write fits _ written
      intro c last
      exact growing.2.2 _ (List.mem_map_of_mem (List.mem_of_getLast? last)) _ (by simp)

/-- After any number of writes of growing pts the reader returns the last of them. -/
theorem readClockUnitFromMemory_last {memory : AVTransSharedMemory} {clocks : List Clock}
    {frameNum : UInt32} {pts : Int64} {index : UInt32} {base : MappedBytes}
    {answers : MapAnswers} {clockUnit : AVSyncClockUnit}
    (writes : ClockWrites memory (clocks ++ [(frameNum, pts)]) index base)
    (growing : ((clocks ++ [(frameNum, pts)]).map ptsOf).Pairwise (· < ·))
    (grant : answers.Grant memory) (asked : clockUnit.frameNum ≠ 0) :
    readClockUnitFromMemory answers memory clockUnit base =
      (dhAvtSuccess, { clockUnit with frameNum, pts }) := by
  have ring := clockRing_of_writes writes growing
  rw [List.getLast?_concat] at ring
  obtain ⟨positive, ready, newest⟩ := ring.newest _ rfl
  have valid : isInValidSharedMemory memory = false := by
    generalize nonempty : clocks ++ [(frameNum, pts)] = all at writes
    cases writes with
    | zeroed => exact absurd nonempty (by simp)
    | write _ success => exact (writeClockUnitToMemory_success success).1
  exact readClockUnitFromMemory_newest grant valid asked ready positive newest

private def sinkClocks : AVTransSharedMemory := { fd := 5, size := 600, name := "sinkSharedMemory" }

theorem readClockUnitFromMemory_second : ∃ index base,
    ClockWrites sinkClocks ([(1, 10)] ++ [(2, 20)]) index base ∧
      readClockUnitFromMemory { size := 600 } sinkClocks { index := 0, frameNum := 1, pts := -1 }
        base = (dhAvtSuccess, { index := 0, frameNum := 2, pts := 20 }) := by
  have first : ClockWrites sinkClocks [(1, 10)] _ _ :=
    @ClockWrites.write _ [] 0 1 10 _ _ { size := 600 } _ .zeroed rfl
  have writes : ClockWrites sinkClocks ([(1, 10)] ++ [(2, 20)]) _ _ :=
    @ClockWrites.write _ [(1, 10)] 1 2 20 _ _ { size := 600 } _ first rfl
  exact ⟨_, _, writes, readClockUnitFromMemory_last writes (by decide) ⟨rfl, by decide, rfl⟩
    (by decide)⟩

end DistributedHardware
