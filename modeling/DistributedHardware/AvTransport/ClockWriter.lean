import DistributedHardware.AvTransport.ClockRing
import DistributedHardware.AvTransport.TransPlugins

/-!
The clock writes of `DaudioOutputPlugin`, and the memory they go to.

The index of the next slot is a member of its own: a new memory does not set it back,
and a reset sets it back though the memory stays.
-/

namespace DistributedHardware

/-- The clock part of the plugin, with the bytes of the memory it has and the number of
successful writes into it. -/
structure ClockWriter where
  sharedMemory : AVTransSharedMemory := noSharedMemory
  smIndex : UInt32 := 0
  base : MappedBytes := fun _ => 0
  written : Nat := 0

/-- The two entries of a buffer's meta that count here. -/
structure FrameMeta where
  userFrameNumber : Option UInt32
  userFramePts : Option Int64

/-- A new memory, a frame that is output, and a reset. -/
inductive ClockCall
  | setParameter (jsonStr : String)
  | output (answers : MapAnswers) (bufferMeta : Option FrameMeta)
  | reset

namespace ClockWriter
variable (parse : String → Option CJson)

/-- `SetParameter` with `USER_SHARED_MEMORY_FD`: the memory is fresh and zeroed. -/
def setParameter (jsonStr : String) (w : ClockWriter) : ClockWriter :=
  { w with sharedMemory := unmarshalSharedMemory parse jsonStr, base := fun _ => 0, written := 0 }

/-- A buffer that is null, or has no meta, is `none`. -/
def writeMasterClockToMemory (answers : MapAnswers) (bufferMeta : Option FrameMeta)
    (w : ClockWriter) : ClockWriter :=
  if isInValidSharedMemory w.sharedMemory then w
  else
    match bufferMeta with
    | some { userFrameNumber := some frameNum, userFramePts := some pts } =>
        let (ret, clockUnit, base) := writeClockUnitToMemory answers w.sharedMemory
          { index := w.smIndex, frameNum, pts } w.base
        if ret = dhAvtSuccess then
          { w with smIndex := clockUnit.index, base, written := w.written + 1 }
        else { w with base }
    | _ => w

def reset (w : ClockWriter) : ClockWriter := { w with smIndex := 0 }

def call (w : ClockWriter) : ClockCall → ClockWriter
  | .setParameter jsonStr => w.setParameter parse jsonStr
  | .output answers bufferMeta => w.writeMasterClockToMemory answers bufferMeta
  | .reset => w.reset

end ClockWriter

def clockWriterSystem (parse : String → Option CJson) : TransitionSystem ClockWriter ClockCall where
  init := fun w => w = {}
  step := fun w call => some (w.call parse call)

/-- The index counts the writes into the memory, and after the first of them no reader
finds the memory not ready. -/
structure ClockWriter.FollowsMemory (w : ClockWriter) : Prop where
  index : (w.smIndex.toNat : Int) = w.written % maxClockUnitCount
  ready : 0 < w.written → ∀ answers clockUnit,
    (readClockUnitFromMemory answers w.sharedMemory clockUnit w.base).1 ≠ errDhAvtMasterNotReady

/-- The memory is replaced, or the plugin reset, after a whole number of rounds. -/
def ClockCall.AtRound (w : ClockWriter) : ClockCall → Prop
  | .setParameter _ | .reset => maxClockUnitCount ∣ (w.written : Int)
  | .output _ _ => True

section Calls
variable {parse : String → Option CJson} {w : ClockWriter}

/-- A valid memory is never found not ready exactly if its first slot is in use. -/
theorem ne_masterNotReady_iff {memory : AVTransSharedMemory} {base : MappedBytes}
    (valid : isInValidSharedMemory memory = false) :
    (∀ answers clockUnit, (readClockUnitFromMemory answers memory clockUnit base).1 ≠
      errDhAvtMasterNotReady) ↔ (clockAt base 0).1 ≠ 0 := by
  constructor
  · intro ready empty
    apply ready { size := memory.size } { index := 0, frameNum := 1, pts := 0 }
    rw [readClockUnitFromMemory_eq ⟨rfl, Int.le_refl 0, rfl⟩ valid (by decide), if_pos empty]
  · intro used answers clockUnit
    have first : u8ToU32 base 0 ≠ 0 := by
      rwa [clockAt, Nat.zero_mul] at used
    unfold readClockUnitFromMemory
    rw [if_neg first]
    split_ifs <;>
      simp [errDhAvtInvalidParam, errDhAvtSharedMemoryFailed, errDhAvtMasterNotReady, dhAvtSuccess]

theorem dvd_iff_index (h : w.FollowsMemory) :
    maxClockUnitCount ∣ (w.written : Int) ↔ w.smIndex = 0 := by
  rw [Int.dvd_iff_emod_eq_zero, ← h.index, ← UInt32.toNat_inj]
  exact Int.natCast_eq_zero

theorem followsMemory_setParameter_iff (h : w.FollowsMemory) (jsonStr : String) :
    (w.setParameter parse jsonStr).FollowsMemory ↔ maxClockUnitCount ∣ (w.written : Int) := by
  rw [dvd_iff_index h]
  constructor
  · intro after
    have index : (w.smIndex.toNat : Int) = 0 := after.index
    exact UInt32.toNat_inj.mp (Int.natCast_eq_zero.mp index)
  · intro index
    refine ⟨?_, fun used => absurd used (Nat.lt_irrefl 0)⟩
    simp only [ClockWriter.setParameter, index]
    rfl

theorem followsMemory_reset_iff (h : w.FollowsMemory) :
    w.reset.FollowsMemory ↔ maxClockUnitCount ∣ (w.written : Int) := by
  rw [Int.dvd_iff_emod_eq_zero]
  constructor
  · intro after
    exact after.index.symm
  · intro round
    exact ⟨round.symm, h.ready⟩

/-- A frame that is output is written into the next slot, or leaves the plugin as it is. -/
theorem writeMasterClockToMemory_cases (answers : MapAnswers) (bufferMeta : Option FrameMeta) :
    w.writeMasterClockToMemory answers bufferMeta = w ∨
      ∃ frameNum pts clockUnit base,
        writeClockUnitToMemory answers w.sharedMemory { index := w.smIndex, frameNum, pts } w.base =
          (dhAvtSuccess, clockUnit, base) ∧
        w.writeMasterClockToMemory answers bufferMeta =
          { w with smIndex := clockUnit.index, base, written := w.written + 1 } := by
  by_cases valid : isInValidSharedMemory w.sharedMemory = true
  · exact .inl (if_pos valid)
  unfold ClockWriter.writeMasterClockToMemory
  rw [if_neg valid]
  split
  case h_1 frameNum pts =>
    have kept := @writeClockUnitToMemory_failed answers w.sharedMemory
      { index := w.smIndex, frameNum, pts } w.base
    generalize hwrite : writeClockUnitToMemory answers w.sharedMemory
      { index := w.smIndex, frameNum, pts } w.base = result at kept ⊢
    obtain ⟨ret, clockUnit, base⟩ := result
    by_cases success : ret = dhAvtSuccess
    · subst success
      exact .inr ⟨frameNum, pts, clockUnit, base, hwrite, rfl⟩
    · refine .inl ((if_neg success).trans ?_)
      rw [show base = w.base from kept success]
  case h_2 => exact .inl rfl

theorem followsMemory_output (h : w.FollowsMemory) (answers : MapAnswers)
    (bufferMeta : Option FrameMeta) :
    (w.writeMasterClockToMemory answers bufferMeta).FollowsMemory := by
  cases writeMasterClockToMemory_cases (w := w) answers bufferMeta with
  | inl same => rwa [same]
  | inr wrote =>
      obtain ⟨frameNum, pts, clockUnit, base, success, after⟩ := wrote
      obtain ⟨valid, fits, unit, slots⟩ := writeClockUnitToMemory_success success
      obtain ⟨inside, frame, -⟩ := isInValidClockUnit_eq_false_iff.mp fits
      rw [after, unit]
      constructor
      · have index : (w.smIndex.toNat : Int) = w.written % 50 := h.index
        have next : (nextClockIndex w.smIndex).toNat = (w.smIndex.toNat + 1) % 50 :=
          toNat_nextClockIndex inside
        change ((nextClockIndex w.smIndex).toNat : Int) = (w.written + 1 : Nat) % 50
        omega
      · intro _
        apply (ne_masterNotReady_iff valid).mpr
        rw [slots]
        by_cases first : 0 = w.smIndex.toNat
        · rw [← first, Function.update_self]
          exact frame
        · rw [Function.update_of_ne first]
          apply (ne_masterNotReady_iff valid).mp
          apply h.ready
          -- with no write so far the index would be 0
          have index : (w.smIndex.toNat : Int) = w.written % 50 := h.index
          omega

end Calls

/-- The writer follows its memory throughout exactly in the runs where the memory is
replaced, and the plugin reset, after whole rounds. -/
theorem followsMemory_iff_atRound {parse : String → Option CJson} {calls : List ClockCall}
    {w : ClockWriter} :
    (clockWriterSystem parse).RunIn ClockWriter.FollowsMemory calls w ↔
      (clockWriterSystem parse).Run (fun w call => call.AtRound w) calls w := by
  apply TransitionSystem.runIn_iff_run
  · intro w initial
    rw [initial]
    exact ⟨rfl, fun used => absurd used (Nat.lt_irrefl 0)⟩
  · intro w call after _ h step
    cases step
    cases call with
    | setParameter jsonStr => exact followsMemory_setParameter_iff h jsonStr
    | output answers bufferMeta =>
        exact iff_of_true (followsMemory_output h answers bufferMeta) trivial
    | reset => exact followsMemory_reset_iff h

section Restart

/-- The text for a memory of fifty slots. -/
private def sinkText : String :=
  "\x7b\"sharedMemoryFd\":7,\"sharedMemorySize\":600,\"sharedMemoryName\":\"sinkSharedMemory\"\x7d"

private def parseSink (_ : String) : Option CJson :=
  some (.object [("sharedMemoryFd", .number 7), ("sharedMemorySize", .number 600),
    ("sharedMemoryName", .string "sinkSharedMemory")])

private def sinkMemory : AVTransSharedMemory := { fd := 7, size := 600, name := "sinkSharedMemory" }

private theorem unmarshal_sinkText : unmarshalSharedMemory parseSink sinkText = sinkMemory := by
  have fd : CJson.saturatedInt 7 = 7 := by norm_num [CJson.saturatedInt]
  have size : CJson.saturatedInt 600 = 600 := by norm_num [CJson.saturatedInt]
  simp [unmarshalSharedMemory, parseSink, CJson.getObjectItemCaseSensitive, fd, size, sinkMemory]

private def sinkFrame (frameNum : UInt32) (pts : Int64) : ClockCall :=
  .output { size := 600 } (some { userFrameNumber := some frameNum, userFramePts := some pts })

/-- The second slot of a zeroed memory has a clock. -/
private def secondSlot : ClockWriter where
  sharedMemory := sinkMemory
  smIndex := 2
  base := u32ToU8 12 2 (u64ToU8 16 40 (fun _ => 0))
  written := 1

private theorem restarted_eq :
    ((((({} : ClockWriter).call parseSink (.setParameter sinkText)).call parseSink
      (sinkFrame 1 20)).call parseSink (.setParameter sinkText)).call parseSink
        (sinkFrame 2 40)) = secondSlot := by
  simp only [ClockWriter.call, ClockWriter.setParameter, unmarshal_sinkText]
  rfl

/-- Synchronisation is stopped and started again after one frame: the first clock of the
new memory goes to its second slot, and a reader finds the memory not ready. -/
theorem exists_clock_not_ready :
    ∃ calls w, (clockWriterSystem parseSink).Run (fun _ _ => True) calls w ∧ w.written = 1 ∧
      (readClockUnitFromMemory { size := 600 } w.sharedMemory
        { index := 0, frameNum := 1, pts := -1 } w.base).1 = errDhAvtMasterNotReady ∧
      ¬ w.FollowsMemory := by
  refine ⟨[sinkFrame 2 40, .setParameter sinkText, sinkFrame 1 20, .setParameter sinkText], _,
    .step (.step (.step (.step (.init rfl) trivial rfl) trivial rfl) trivial rfl) trivial
      (congrArg some restarted_eq), rfl, rfl, ?_⟩
  intro follows
  exact absurd follows.index (by decide)

end Restart
end DistributedHardware
