import DistributedHardware.AvTransport.AbilityTransfer
import DistributedHardware.AvTransport.BufferMeta
import DistributedHardware.Resource.RoundTrip

/-!
What `UnmarshalAudioMeta` and `UnmarshalVideoMeta` restore of the texts that `MarshalAudioMeta`
and `MarshalVideoMeta` make.

A number is written as a `double` and read through `valueint`, which is an `int`.
-/

namespace DistributedHardware

/-- `cJSON_CreateNumber` of an `int64_t`. -/
def createNumberInt64 (n : Int64) : CJson :=
  .number (if 0 ≤ n.toInt then Rounding.toEven 53 n.toInt.toNat
    else -Rounding.toEven 53 (-n.toInt).toNat)

section Marshal

def AVTransAudioBufferMeta.metaJson (bufferMeta : AVTransAudioBufferMeta) : CJson :=
  .object [
    ("meta_data_type", createNumber bufferMeta.dataType.toNat),
    ("meta_timestamp", createNumberInt64 bufferMeta.pts),
    ("meta_frame_number", createNumber bufferMeta.frameNum.toNat)]

/-- The extensions are written where they are set. -/
def AVTransVideoBufferMeta.metaJson (bufferMeta : AVTransVideoBufferMeta) : CJson :=
  .object ([
    ("meta_data_type", createNumber bufferMeta.dataType.toNat),
    ("meta_timestamp", createNumberInt64 bufferMeta.pts),
    ("meta_frame_number", createNumber bufferMeta.frameNum.toNat)] ++
    (if 0 < bufferMeta.extPts then [("meta_ext_timestamp", createNumberInt64 bufferMeta.extPts)]
      else []) ++
    (if 0 < bufferMeta.extFrameNum then
        [("meta_ext_frame_number", createNumber bufferMeta.extFrameNum.toNat)]
      else []))

variable (printUnformatted : CJson → Option String)

def AVTransAudioBufferMeta.marshalAudioMeta (bufferMeta : AVTransAudioBufferMeta) : String :=
  (printUnformatted bufferMeta.metaJson).getD ""

def AVTransVideoBufferMeta.marshalVideoMeta (bufferMeta : AVTransVideoBufferMeta) : String :=
  (printUnformatted bufferMeta.metaJson).getD ""

end Marshal

/-- The tree is printed, and its text is a C string. -/
def PrintedPlain (printUnformatted : CJson → Option String) (json : CJson) : Prop :=
  ∃ text, printUnformatted json = some text ∧ cStr text = text

/-- A timestamp that a `double` has exactly. -/
def ExactTimestamp (n : Int64) : Prop := 0 ≤ n.toInt ∧ n.toInt < 2 ^ 53

namespace CJson
variable {json : CJson} {key : String}

/-- What is read of a frame number or a data type. -/
theorem uint32Member_createNumber (n : UInt32)
    (item : json.getObjectItemCaseSensitive key = some (createNumber n.toNat)) :
    json.uint32Member key = some (UInt32.ofInt (min n.toNat 2147483647 : Nat)) := by
  have same : Rounding.toEven 53 n.toNat = n.toNat :=
    Rounding.toEven_eq (lt_trans n.toNat_lt (by decide))
  rw [uint32Member_of_number item, same, saturatedInt_natCast]

/-- What is read of a timestamp that is exact in a `double`. -/
theorem int64Member_createNumberInt64 (n : Int64) (exactly : ExactTimestamp n)
    (item : json.getObjectItemCaseSensitive key = some (createNumberInt64 n)) :
    json.int64Member key = some (Int64.ofInt (min n.toInt.toNat 2147483647 : Nat)) := by
  obtain ⟨low, high⟩ := exactly
  have same : Rounding.toEven 53 n.toInt.toNat = n.toInt.toNat :=
    Rounding.toEven_eq (by omega)
  rw [createNumberInt64, if_pos low, same] at item
  rw [int64Member_of_number item, saturatedInt_natCast]

end CJson

theorem uint32_restored_iff (n : UInt32) :
    UInt32.ofInt (min n.toNat 2147483647 : Nat) = n ↔ n.toNat ≤ 2147483647 := by
  constructor
  · intro same
    have bound : (UInt32.ofInt (min n.toNat 2147483647 : Nat)).toNat ≤ min n.toNat 2147483647 :=
      FieldWidth.toNat_ofInt_le (α := UInt32) _
    rw [same] at bound
    exact bound.trans (min_le_right _ _)
  · intro small
    rw [min_eq_left small]
    exact FieldWidth.ofInt_toNat n

theorem int64_restored_iff (n : Int64) (exactly : ExactTimestamp n) :
    Int64.ofInt (min n.toInt.toNat 2147483647 : Nat) = n ↔ n.toInt ≤ 2147483647 := by
  have low := exactly.1
  rw [← Int64.toInt_inj, Int64.toInt_ofInt_of_le (by omega) (by omega)]
  omega

namespace AVTransAudioBufferMeta
variable {parse : String → Option CJson} {printUnformatted : CJson → Option String}
  (m : AVTransAudioBufferMeta)

theorem items_metaJson :
    m.metaJson.getObjectItemCaseSensitive "meta_data_type" =
      some (createNumber m.dataType.toNat) ∧
    m.metaJson.getObjectItemCaseSensitive "meta_timestamp" = some (createNumberInt64 m.pts) ∧
    m.metaJson.getObjectItemCaseSensitive "meta_frame_number" =
      some (createNumber m.frameNum.toNat) := by
  simp [metaJson, CJson.getObjectItemCaseSensitive]

/-- What is read of the text of an audio frame. -/
theorem unmarshal_marshal (lib : PrintsParsed parse printUnformatted)
    (printed : PrintedPlain printUnformatted m.metaJson) (exactly : ExactTimestamp m.pts) :
    unmarshalAudioMeta parse (m.marshalAudioMeta printUnformatted) {} =
      (true,
        { dataType := UInt32.ofInt (min m.dataType.toNat 2147483647 : Nat)
          pts := Int64.ofInt (min m.pts.toInt.toNat 2147483647 : Nat)
          frameNum := UInt32.ofInt (min m.frameNum.toNat 2147483647 : Nat) }) := by
  obtain ⟨dataType, pts, frameNum⟩ := m.items_metaJson
  obtain ⟨text, printed, plain⟩ := printed
  rw [unmarshalAudioMeta, marshalAudioMeta, printed, Option.getD_some, plain,
    lib.parsePrinted _ _ printed]
  simp only [CJson.uint32Member_createNumber _ dataType,
    CJson.int64Member_createNumberInt64 _ exactly pts, CJson.uint32Member_createNumber _ frameNum]

/-- A fresh record gets the data type, the timestamp and the frame number back. -/
def Restored (parse : String → Option CJson) (printUnformatted : CJson → Option String) : Prop :=
  unmarshalAudioMeta parse (m.marshalAudioMeta printUnformatted) {} =
    (true, { dataType := m.dataType, pts := m.pts, frameNum := m.frameNum })

/-- Every number is one of an `int`. -/
def FitsInt : Prop :=
  m.dataType.toNat ≤ 2147483647 ∧ m.pts.toInt ≤ 2147483647 ∧ m.frameNum.toNat ≤ 2147483647

theorem restored_iff (lib : PrintsParsed parse printUnformatted)
    (printed : PrintedPlain printUnformatted m.metaJson) (exactly : ExactTimestamp m.pts) :
    m.Restored parse printUnformatted ↔ m.FitsInt := by
  rw [Restored, m.unmarshal_marshal lib printed exactly, Prod.mk.injEq,
    AVTransAudioBufferMeta.mk.injEq, uint32_restored_iff, uint32_restored_iff,
    int64_restored_iff _ exactly]
  simp only [FitsInt, true_and, and_true]
  tauto

end AVTransAudioBufferMeta

namespace AVTransVideoBufferMeta
variable {parse : String → Option CJson} {printUnformatted : CJson → Option String}
  (m : AVTransVideoBufferMeta)

theorem items_metaJson :
    m.metaJson.getObjectItemCaseSensitive "meta_data_type" =
      some (createNumber m.dataType.toNat) ∧
    m.metaJson.getObjectItemCaseSensitive "meta_timestamp" = some (createNumberInt64 m.pts) ∧
    m.metaJson.getObjectItemCaseSensitive "meta_frame_number" =
      some (createNumber m.frameNum.toNat) := by
  simp [metaJson, CJson.getObjectItemCaseSensitive]

theorem extItems_metaJson :
    m.metaJson.getObjectItemCaseSensitive "meta_ext_timestamp" =
      (if 0 < m.extPts then some (createNumberInt64 m.extPts) else none) ∧
    m.metaJson.getObjectItemCaseSensitive "meta_ext_frame_number" =
      (if 0 < m.extFrameNum then some (createNumber m.extFrameNum.toNat) else none) := by
  by_cases extPts : 0 < m.extPts <;> by_cases extFrameNum : 0 < m.extFrameNum <;>
    simp [metaJson, CJson.getObjectItemCaseSensitive, extPts, extFrameNum]

/-- An extension that is not written stays at zero. -/
theorem ext_read (exactly : ExactTimestamp m.extPts) :
    (m.metaJson.int64Member "meta_ext_timestamp").getD 0 =
      Int64.ofInt (min m.extPts.toInt.toNat 2147483647 : Nat) ∧
    (m.metaJson.uint32Member "meta_ext_frame_number").getD 0 =
      UInt32.ofInt (min m.extFrameNum.toNat 2147483647 : Nat) := by
  obtain ⟨extPts, extFrameNum⟩ := m.extItems_metaJson
  constructor
  · by_cases set : 0 < m.extPts
    · rw [if_pos set] at extPts
      rw [CJson.int64Member_createNumberInt64 _ exactly extPts, Option.getD_some]
    · have zero : m.extPts.toInt = 0 := by
        rw [Int64.lt_iff_toInt_lt, Int64.toInt_zero] at set
        exact le_antisymm (not_lt.mp set) exactly.1
      have unset : m.metaJson.int64Member "meta_ext_timestamp" = none := by
        rw [CJson.int64Member, extPts, if_neg set]
      rw [unset, zero]
      rfl
  · by_cases set : 0 < m.extFrameNum
    · rw [if_pos set] at extFrameNum
      rw [CJson.uint32Member_createNumber _ extFrameNum, Option.getD_some]
    · have zero : m.extFrameNum.toNat = 0 := by
        rw [UInt32.lt_iff_toNat_lt, UInt32.toNat_zero] at set
        omega
      have unset : m.metaJson.uint32Member "meta_ext_frame_number" = none := by
        rw [CJson.uint32Member, extFrameNum, if_neg set]
      rw [unset, zero]
      rfl

/-- What is read of the text of a video frame. -/
theorem unmarshal_marshal (lib : PrintsParsed parse printUnformatted)
    (printed : PrintedPlain printUnformatted m.metaJson) (exactly : ExactTimestamp m.pts)
    (exactlyExt : ExactTimestamp m.extPts) :
    unmarshalVideoMeta parse (m.marshalVideoMeta printUnformatted) {} =
      (true,
        { dataType := UInt32.ofInt (min m.dataType.toNat 2147483647 : Nat)
          pts := Int64.ofInt (min m.pts.toInt.toNat 2147483647 : Nat)
          frameNum := UInt32.ofInt (min m.frameNum.toNat 2147483647 : Nat)
          extPts := Int64.ofInt (min m.extPts.toInt.toNat 2147483647 : Nat)
          extFrameNum := UInt32.ofInt (min m.extFrameNum.toNat 2147483647 : Nat) }) := by
  obtain ⟨dataType, pts, frameNum⟩ := m.items_metaJson
  obtain ⟨extPts, extFrameNum⟩ := m.ext_read exactlyExt
  obtain ⟨text, printed, plain⟩ := printed
  rw [unmarshalVideoMeta, marshalVideoMeta, printed, Option.getD_some, plain,
    lib.parsePrinted _ _ printed]
  simp only [CJson.uint32Member_createNumber _ dataType, extPts, extFrameNum,
    CJson.int64Member_createNumberInt64 _ exactly pts, Option.getD_some,
    CJson.uint32Member_createNumber _ frameNum]

/-- A fresh record gets all that is written back, and the extensions. -/
def Restored (parse : String → Option CJson) (printUnformatted : CJson → Option String) : Prop :=
  unmarshalVideoMeta parse (m.marshalVideoMeta printUnformatted) {} =
    (true,
      { dataType := m.dataType, pts := m.pts, frameNum := m.frameNum, extPts := m.extPts,
        extFrameNum := m.extFrameNum })

def FitsInt : Prop :=
  m.dataType.toNat ≤ 2147483647 ∧ m.pts.toInt ≤ 2147483647 ∧ m.frameNum.toNat ≤ 2147483647 ∧
    m.extPts.toInt ≤ 2147483647 ∧ m.extFrameNum.toNat ≤ 2147483647

theorem restored_iff (lib : PrintsParsed parse printUnformatted)
    (printed : PrintedPlain printUnformatted m.metaJson) (exactly : ExactTimestamp m.pts)
    (exactlyExt : ExactTimestamp m.extPts) :
    m.Restored parse printUnformatted ↔ m.FitsInt := by
  rw [Restored, m.unmarshal_marshal lib printed exactly exactlyExt, Prod.mk.injEq,
    AVTransVideoBufferMeta.mk.injEq, uint32_restored_iff, uint32_restored_iff,
    uint32_restored_iff, int64_restored_iff _ exactly, int64_restored_iff _ exactlyExt]
  simp only [FitsInt, true_and]
  tauto

end AVTransVideoBufferMeta

/-- The metadata of a frame comes back exactly where each number in it is one of an `int`. -/
theorem meta_restored_iff {parse : String → Option CJson}
    {printUnformatted : CJson → Option String} (lib : PrintsParsed parse printUnformatted) :
    (∀ m : AVTransAudioBufferMeta, PrintedPlain printUnformatted m.metaJson →
      ExactTimestamp m.pts → (m.Restored parse printUnformatted ↔ m.FitsInt)) ∧
    ∀ m : AVTransVideoBufferMeta, PrintedPlain printUnformatted m.metaJson →
      ExactTimestamp m.pts → ExactTimestamp m.extPts →
      (m.Restored parse printUnformatted ↔ m.FitsInt) :=
  ⟨fun m => m.restored_iff lib, fun m => m.restored_iff lib⟩

section Examples

private def audioFrame (pts : Int64) : AVTransAudioBufferMeta := { pts, frameNum := 2 }

private def videoFrame (frameNum : UInt32) : AVTransVideoBufferMeta :=
  { pts := 40, frameNum, extPts := 7 }

private theorem exists_audio_printed (pts : Int64) (text : String) (plain : cStr text = text) :
    ∃ parse printUnformatted, PrintsParsed parse printUnformatted ∧
      PrintedPlain printUnformatted (audioFrame pts).metaJson := by
  have contained (s : String) (mem : (audioFrame pts).metaJson.Contains s) :
      s.utf8ByteSize ≤ text.utf8ByteSize := by
    simp [AVTransAudioBufferMeta.metaJson, createNumber, createNumberInt64] at mem
  obtain ⟨parse, printUnformatted, lib, printed⟩ := exists_printsParsed contained
  exact ⟨parse, printUnformatted, lib, text, printed, plain⟩

private theorem exists_video_printed (frameNum : UInt32) (text : String)
    (plain : cStr text = text) : ∃ parse printUnformatted, PrintsParsed parse printUnformatted ∧
      PrintedPlain printUnformatted (videoFrame frameNum).metaJson := by
  have contained (s : String) (mem : (videoFrame frameNum).metaJson.Contains s) :
      s.utf8ByteSize ≤ text.utf8ByteSize := by
    simp [AVTransVideoBufferMeta.metaJson, videoFrame, createNumber, createNumberInt64] at mem
  obtain ⟨parse, printUnformatted, lib, printed⟩ := exists_printsParsed contained
  exact ⟨parse, printUnformatted, lib, text, printed, plain⟩

private def audioText : String :=
  "\x7b\"meta_data_type\":0,\"meta_timestamp\":40,\"meta_frame_number\":2\x7d"

private def videoText : String :=
  "\x7b\"meta_data_type\":1,\"meta_timestamp\":40,\"meta_frame_number\":2," ++
    "\"meta_ext_timestamp\":7\x7d"

theorem frames_restored :
    (∃ parse printUnformatted, PrintsParsed parse printUnformatted ∧
      (audioFrame 40).Restored parse printUnformatted) ∧
    ∃ parse printUnformatted, PrintsParsed parse printUnformatted ∧
      (videoFrame 2).Restored parse printUnformatted := by
  constructor
  · obtain ⟨parse, printUnformatted, lib, printed⟩ :=
      exists_audio_printed 40 audioText (by decide +kernel)
    have exactly : ExactTimestamp (audioFrame 40).pts := ⟨by decide, by decide⟩
    exact ⟨parse, printUnformatted, lib,
      ((meta_restored_iff lib).1 _ printed exactly).mpr ⟨by decide, by decide, by decide⟩⟩
  · obtain ⟨parse, printUnformatted, lib, printed⟩ :=
      exists_video_printed 2 videoText (by decide +kernel)
    have exactly : ExactTimestamp (videoFrame 2).pts := ⟨by decide, by decide⟩
    have exactlyExt : ExactTimestamp (videoFrame 2).extPts := ⟨by decide, by decide⟩
    exact ⟨parse, printUnformatted, lib,
      ((meta_restored_iff lib).2 _ printed exactly exactlyExt).mpr
        ⟨by decide, by decide, by decide, by decide, by decide⟩⟩

private def lateAudioText : String :=
  "\x7b\"meta_data_type\":0,\"meta_timestamp\":2147483648,\"meta_frame_number\":2\x7d"

private def lateVideoText : String :=
  "\x7b\"meta_data_type\":1,\"meta_timestamp\":40,\"meta_frame_number\":4294967295," ++
    "\"meta_ext_timestamp\":7\x7d"

/-- A timestamp, and a frame number, beyond an `int` come back as its maximum. -/
theorem exists_meta_saturated :
    (∃ parse printUnformatted, PrintsParsed parse printUnformatted ∧
      PrintedPlain printUnformatted (audioFrame 2147483648).metaJson ∧
      AVTransAudioBufferMeta.unmarshalAudioMeta parse
          ((audioFrame 2147483648).marshalAudioMeta printUnformatted) {} =
        (true, audioFrame 2147483647) ∧ audioFrame 2147483647 ≠ audioFrame 2147483648) ∧
    ∃ parse printUnformatted, PrintsParsed parse printUnformatted ∧
      PrintedPlain printUnformatted (videoFrame 4294967295).metaJson ∧
      AVTransVideoBufferMeta.unmarshalVideoMeta parse
          ((videoFrame 4294967295).marshalVideoMeta printUnformatted) {} =
        (true, videoFrame 2147483647) ∧ videoFrame 2147483647 ≠ videoFrame 4294967295 := by
  constructor
  · obtain ⟨parse, printUnformatted, lib, printed⟩ :=
      exists_audio_printed 2147483648 lateAudioText (by decide +kernel)
    have exactly : ExactTimestamp (audioFrame 2147483648).pts := ⟨by decide, by decide⟩
    refine ⟨parse, printUnformatted, lib, printed, ?_, by decide⟩
    rw [(audioFrame 2147483648).unmarshal_marshal lib printed exactly]
    decide +kernel
  · obtain ⟨parse, printUnformatted, lib, printed⟩ :=
      exists_video_printed 4294967295 lateVideoText (by decide +kernel)
    have exactly : ExactTimestamp (videoFrame 4294967295).pts := ⟨by decide, by decide⟩
    have exactlyExt : ExactTimestamp (videoFrame 4294967295).extPts := ⟨by decide, by decide⟩
    refine ⟨parse, printUnformatted, lib, printed, ?_, by decide⟩
    rw [(videoFrame 4294967295).unmarshal_marshal lib printed exactly exactlyExt]
    decide +kernel

end Examples
end DistributedHardware
