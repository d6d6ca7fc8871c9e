import DistributedHardware.Common.Json

/-!
The records of the capability and meta registries and their decoding.

`FromJson` fills the record field by field and returns at the first member that
is missing or has the wrong kind, and `FromJsonString` reports success as soon as
the text parses; both are kept that way here.
-/

namespace DistributedHardware

/-- `DHType` is an `enum class` over `uint32_t`; records decoded from a peer may
carry any such value. -/
abbrev DhType := UInt32

namespace DhType
def unknown : DhType := 0x0
def camera : DhType := 0x01
def audio : DhType := 0x02
def screen : DhType := 0x08
def modem : DhType := 0x200
end DhType

structure CapabilityInfo where
  dhId : String := ""
  deviceId : String := ""
  deviceName : String := ""
  deviceType : UInt16 := 0
  dhType : DhType := DhType.unknown
  dhAttrs : String := ""
  dhSubtype : String := ""
  deriving DecidableEq

structure MetaCapabilityInfo extends CapabilityInfo where
  udidHash : String := ""
  sinkVersion : String := ""
  deriving DecidableEq

def CapabilityInfo.getKey (cap : CapabilityInfo) : String :=
  getCapabilityKey cap.deviceId cap.dhId

def MetaCapabilityInfo.getKey (cap : MetaCapabilityInfo) : String :=
  getCapabilityKey cap.udidHash cap.dhId

/-- A capability with its strings read through `c_str`. -/
def CapabilityInfo.cStr (cap : CapabilityInfo) : CapabilityInfo :=
  { cap with
    dhId := DistributedHardware.cStr cap.dhId
    deviceId := DistributedHardware.cStr cap.deviceId
    deviceName := DistributedHardware.cStr cap.deviceName
    dhAttrs := DistributedHardware.cStr cap.dhAttrs
    dhSubtype := DistributedHardware.cStr cap.dhSubtype }

/-- A meta record with its strings read through `c_str`. -/
def MetaCapabilityInfo.cStr (cap : MetaCapabilityInfo) : MetaCapabilityInfo :=
  { toCapabilityInfo := cap.toCapabilityInfo.cStr
    udidHash := DistributedHardware.cStr cap.udidHash
    sinkVersion := DistributedHardware.cStr cap.sinkVersion }

/-- The strings are compared by `strcmp`. -/
def CapabilityInfo.compare (cap capInfo : CapabilityInfo) : Bool :=
  cap.cStr.deviceId == capInfo.cStr.deviceId && cap.cStr.dhId == capInfo.cStr.dhId &&
    cap.cStr.deviceName == capInfo.cStr.deviceName && cap.deviceType == capInfo.deviceType &&
    cap.dhType == capInfo.dhType && cap.cStr.dhAttrs == capInfo.cStr.dhAttrs &&
    cap.cStr.dhSubtype == capInfo.cStr.dhSubtype

def CapabilityInfo.fromJson (json : CJson) (cap : CapabilityInfo) : CapabilityInfo := Id.run do
  let mut cap := cap
  if !json.isString "dh_id" then return cap
  cap := { cap with dhId := json.valuestring "dh_id" }
  if !json.isString "dev_id" then return cap
  cap := { cap with deviceId := json.valuestring "dev_id" }
  if !json.isString "dev_name" then return cap
  cap := { cap with deviceName := json.valuestring "dev_name" }
  if !json.isUInt16 "dev_type" then return cap
  cap := { cap with deviceType := UInt16.ofNat (json.valueunsigned "dev_type") }
  if !json.isUInt32 "dh_type" then return cap
  cap := { cap with dhType := UInt32.ofNat (json.valueunsigned "dh_type") }
  if !json.isString "dh_attrs" then return cap
  cap := { cap with dhAttrs := json.valuestring "dh_attrs" }
  if !json.isString "dh_subtype" then return cap
  return { cap with dhSubtype := json.valuestring "dh_subtype" }

def CapabilityInfo.toJson (cap : CapabilityInfo) : CJson :=
  .object [
    ("dh_id", .string cap.dhId), ("dev_id", .string cap.deviceId),
    ("dev_name", .string cap.deviceName), ("dev_type", .number cap.deviceType.toNat),
    ("dh_type", .number cap.dhType.toNat), ("dh_attrs", .string cap.dhAttrs),
    ("dh_subtype", .string cap.dhSubtype)]

def MetaCapabilityInfo.fromJson (json : CJson) (cap : MetaCapabilityInfo) :
    MetaCapabilityInfo := Id.run do
  let mut cap := cap
  if !json.isString "dh_id" then return cap
  cap := { cap with dhId := json.valuestring "dh_id" }
  if !json.isString "dev_id" then return cap
  cap := { cap with deviceId := json.valuestring "dev_id" }
  if !json.isString "dev_name" then return cap
  cap := { cap with deviceName := json.valuestring "dev_name" }
  if !json.isUInt16 "dev_type" then return cap
  cap := { cap with deviceType := UInt16.ofNat (json.valueunsigned "dev_type") }
  if !json.isUInt32 "dh_type" then return cap
  cap := { cap with dhType := UInt32.ofNat (json.valueunsigned "dh_type") }
  if !json.isString "dh_attrs" then return cap
  cap := { cap with dhAttrs := json.valuestring "dh_attrs" }
  if !json.isString "dh_subtype" then return cap
  cap := { cap with dhSubtype := json.valuestring "dh_subtype" }
  if !json.isString "udid_hash" then return cap
  cap := { cap with udidHash := json.valuestring "udid_hash" }
  if !json.isString "sink_ver" then return cap
  return { cap with sinkVersion := json.valuestring "sink_ver" }

section Decoding
variable (parse : String → Option CJson)

/-- `GetCapabilityByValue<T>` on a null pointer: a fresh record filled by
`FromJsonString`, or its error code. -/
def getByValue {T : Type} (fresh : T) (fromJson : CJson → T → T) (value : String) :
    Except Int T :=
  if !isJsonLengthValid value then .error errDhFwkParaInvalid
  else
    match parse value with
    | none => .error errDhFwkJsonParseFailed
    | some json => .ok (fromJson json fresh)

def getCapabilityByValue (value : String) : Except Int CapabilityInfo :=
  getByValue parse {} CapabilityInfo.fromJson value

def getMetaCapabilityByValue (value : String) : Except Int MetaCapabilityInfo :=
  getByValue parse {} MetaCapabilityInfo.fromJson value

/-- Both texts parse, and the records read from them compare as equal. -/
def isCapInfoJsonEqual (firstData lastData : String) : Bool :=
  match parse firstData, parse lastData with
  | some firstJson, some lastJson =>
      (CapabilityInfo.fromJson firstJson {}).compare (CapabilityInfo.fromJson lastJson {})
  | _, _ => false

/-- Printing is cJSON's; where it fails the text is empty. -/
def CapabilityInfo.toJsonString (printUnformatted : CJson → Option String)
    (cap : CapabilityInfo) : String :=
  (printUnformatted cap.cStr.toJson).getD ""

theorem getByValue_empty {T : Type} (fresh : T) (fromJson : CJson → T → T) :
    getByValue parse fresh fromJson "" = .error errDhFwkParaInvalid := rfl

end Decoding
end DistributedHardware
