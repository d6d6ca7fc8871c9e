import DistributedHardware.AvTransport.AbilityCodec
import DistributedHardware.Transport.Messages

/-!
The metadata a frame is sent with, and how the receiver reads it from its text.

The audio metadata is read as a whole or not at all; of the video metadata each field is
taken that is there. `parse` is `cJSON_Parse`.
-/

namespace DistributedHardware

/-- Any number can be cast to it. -/
abbrev BufferDataType := UInt32

def BufferDataType.audio : BufferDataType := 0
def BufferDataType.videoStream : BufferDataType := 1

def AudioSampleFormat.s8 : AudioSampleFormat := 1
def VideoPixelFormat.unknown : VideoPixelFormat := 0

structure AVTransAudioBufferMeta where
  pts : Int64 := 0
  frameNum : UInt32 := 0
  sampleRate : UInt32 := 0
  dataType : BufferDataType := .audio
  format : AudioSampleFormat := AudioSampleFormat.s8
  deriving DecidableEq

structure AVTransVideoBufferMeta where
  pts : Int64 := 0
  width : UInt32 := 0
  height : UInt32 := 0
  frameNum : UInt32 := 0
  extPts : Int64 := 0
  extFrameNum : UInt32 := 0
  format : VideoPixelFormat := VideoPixelFormat.unknown
  dataType : BufferDataType := .videoStream
  deriving DecidableEq

namespace CJson

/-- The number `IsUInt32` lets pass: it looks at the `valueint` after the cast, so it lets
every number pass. -/
def uint32Member (json : CJson) (key : String) : Option UInt32 :=
  match json.getObjectItemCaseSensitive key with
  | some (.number d) =>
      let value := UInt32.ofInt (saturatedInt d)
      if value.toNat ≤ 4294967295 then some value else none
  | _ => none

/-- The number `IsInt64` lets pass. -/
def int64Member (json : CJson) (key : String) : Option Int64 :=
  match json.getObjectItemCaseSensitive key with
  | some (.number d) =>
      let value := Int64.ofInt (saturatedInt d)
      if value ≤ Int64.maxValue && Int64.minValue ≤ value then some value else none
  | _ => none

section Members
variable {json : CJson} {key : String} {d : ℚ}

/-- The range is checked of the value cut to its type, and every number passes. -/
theorem uint32Member_of_number (item : json.getObjectItemCaseSensitive key = some (.number d)) :
    json.uint32Member key = some (UInt32.ofInt (saturatedInt d)) := by
  have small := (UInt32.ofInt (saturatedInt d)).toNat_lt
  simp only [uint32Member, item]
  exact if_pos (by omega)

theorem int64Member_of_number (item : json.getObjectItemCaseSensitive key = some (.number d)) :
    json.int64Member key = some (Int64.ofInt (saturatedInt d)) := by
  simp only [int64Member, item]
  have upper : Int64.ofInt (saturatedInt d) ≤ Int64.maxValue := Int64.le_maxValue _
  have lower : Int64.minValue ≤ Int64.ofInt (saturatedInt d) := Int64.minValue_le _
  simp only [upper, lower, decide_true, Bool.and_self, if_true]

end Members
end CJson

section Unmarshal
variable (parse : String → Option CJson)

def AVTransAudioBufferMeta.unmarshalAudioMeta (jsonStr : String)
    (bufferMeta : AVTransAudioBufferMeta) : Bool × AVTransAudioBufferMeta :=
  match parse (cStr jsonStr) with
  | none => (false, bufferMeta)
  | some metaJson =>
      match metaJson.uint32Member "meta_data_type", metaJson.int64Member "meta_timestamp",
        metaJson.uint32Member "meta_frame_number" with
      | some dataType, some pts, some frameNum =>
          (true, { bufferMeta with dataType, pts, frameNum })
      | _, _, _ => (false, bufferMeta)

/-- A field that is missing or not a number keeps its value. -/
def AVTransVideoBufferMeta.unmarshalVideoMeta (jsonStr : String)
    (bufferMeta : AVTransVideoBufferMeta) : Bool × AVTransVideoBufferMeta :=
  match parse (cStr jsonStr) with
  | none => (false, bufferMeta)
  | some metaJson =>
      (true, { bufferMeta with
        dataType := (metaJson.uint32Member "meta_data_type").getD bufferMeta.dataType
        pts := (metaJson.int64Member "meta_timestamp").getD bufferMeta.pts
        frameNum := (metaJson.uint32Member "meta_frame_number").getD bufferMeta.frameNum
        extPts := (metaJson.int64Member "meta_ext_timestamp").getD bufferMeta.extPts
        extFrameNum := (metaJson.uint32Member "meta_ext_frame_number").getD
          bufferMeta.extFrameNum })

end Unmarshal
end DistributedHardware
