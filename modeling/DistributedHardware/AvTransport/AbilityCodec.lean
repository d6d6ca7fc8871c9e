import DistributedHardware.Library.Rounding
import DistributedHardware.Transport.Messages

/-!
The codec abilities: `ToJson` of the ability querier, and the two `FromJson`s, the
querier's own and that of the framework's `histreamer_ability_parser`.

The enumerations have a fixed underlying type and any of its values, so a field is that
type. An `int` or an enumerator becomes a `double` in `cJSON_CreateNumber`.
-/

namespace DistributedHardware

abbrev AudioAacProfile := UInt8
abbrev AudioAacStreamFormat := UInt8
abbrev AudioSampleFormat := UInt8
abbrev AudioChannelLayout := UInt64
abbrev VideoPixelFormat := UInt32
abbrev VideoBitStreamFormat := UInt32

structure AudioEncoderIn where
  mime : String := ""
  sample_rate : List UInt32 := []
  deriving DecidableEq

@[ext]
structure AudioEncoderOut where
  mime : String := ""
  ad_mpeg_ver : UInt32
  aac_profile : AudioAacProfile
  aac_stm_fmt : AudioAacStreamFormat
  deriving DecidableEq

structure AudioDecoderIn where
  mime : String := ""
  channel_layout : List AudioChannelLayout := []
  deriving DecidableEq

structure AudioDecoderOut where
  mime : String := ""
  sample_fmt : List AudioSampleFormat := []
  deriving DecidableEq

structure VideoEncoderIn where
  mime : String := ""
  pixel_fmt : List VideoPixelFormat := []
  deriving DecidableEq

structure VideoEncoderOut where
  mime : String := ""
  deriving DecidableEq

structure VideoDecoderIn where
  mime : String := ""
  vd_bit_stream_fmt : List VideoBitStreamFormat := []
  deriving DecidableEq

structure VideoDecoderOut where
  mime : String := ""
  pixel_fmt : List VideoPixelFormat := []
  deriving DecidableEq

/-- The four abilities differ in the records of their two sides only. -/
@[ext]
structure Ability (In Out : Type) where
  name : String := ""
  ins : List In := []
  outs : List Out := []
  deriving DecidableEq

abbrev AudioEncoder := Ability AudioEncoderIn AudioEncoderOut
abbrev AudioDecoder := Ability AudioDecoderIn AudioDecoderOut
abbrev VideoEncoder := Ability VideoEncoderIn VideoEncoderOut
abbrev VideoDecoder := Ability VideoDecoderIn VideoDecoderOut

/-- An unsigned type of fields, by the casts from it and to it. -/
class FieldWidth (α : Type) where
  toNat : α → Nat
  ofInt : Int → α
  ofInt_toNat (a : α) : ofInt (toNat a) = a
  toNat_ofInt_le (i : Nat) : toNat (ofInt i) ≤ i

instance : FieldWidth UInt8 where
  toNat := UInt8.toNat
  ofInt := UInt8.ofInt
  ofInt_toNat a := by
    have := a.toNat_lt
    apply UInt8.toNat_inj.mp
    simp [UInt8.ofInt]
    omega
  toNat_ofInt_le i := by
    simp [UInt8.ofInt]
    omega

instance : FieldWidth UInt32 where
  toNat := UInt32.toNat
  ofInt := UInt32.ofInt
  ofInt_toNat a := by
    have := a.toNat_lt
    apply UInt32.toNat_inj.mp
    simp [UInt32.ofInt]
    omega
  toNat_ofInt_le i := by
    simp [UInt32.ofInt]
    omega

instance : FieldWidth UInt64 where
  toNat := UInt64.toNat
  ofInt := UInt64.ofInt
  ofInt_toNat a := by
    have := a.toNat_lt
    apply UInt64.toNat_inj.mp
    simp [UInt64.ofInt]
    omega
  toNat_ofInt_le i := by
    simp [UInt64.ofInt]
    omega

/-- `cJSON_CreateNumber` of an unsigned integer. -/
def createNumber (n : Nat) : CJson := .number (Rounding.toEven 53 n)

section ToJson

/-- A record of a mime type and one list of numbers under `key`. -/
def numbersToJson {α : Type} [FieldWidth α] (key mime : String) (values : List α) : CJson :=
  .object [("mime", .string (cStr mime)),
    (key, .array (values.map (fun v => createNumber (FieldWidth.toNat v))))]

def AudioEncoderIn.toJson (audioEncoderIn : AudioEncoderIn) : CJson :=
  numbersToJson "sample_rate" audioEncoderIn.mime audioEncoderIn.sample_rate

def AudioEncoderOut.toJson (audioEncoderOut : AudioEncoderOut) : CJson :=
  .object [("mime", .string (cStr audioEncoderOut.mime)),
    ("ad_mpeg_ver", createNumber audioEncoderOut.ad_mpeg_ver.toUInt8.toNat),
    ("aac_profile", createNumber audioEncoderOut.aac_profile.toNat),
    ("aac_stm_fmt", createNumber audioEncoderOut.aac_stm_fmt.toNat)]

def AudioDecoderIn.toJson (audioDecoderIn : AudioDecoderIn) : CJson :=
  numbersToJson "channel_layout" audioDecoderIn.mime audioDecoderIn.channel_layout

def AudioDecoderOut.toJson (audioDecoderOut : AudioDecoderOut) : CJson :=
  numbersToJson "sample_fmt" audioDecoderOut.mime audioDecoderOut.sample_fmt

def VideoEncoderIn.toJson (videoEncoderIn : VideoEncoderIn) : CJson :=
  numbersToJson "pixel_fmt" videoEncoderIn.mime videoEncoderIn.pixel_fmt

def VideoEncoderOut.toJson (videoEncoderOut : VideoEncoderOut) : CJson :=
  .object [("mime", .string (cStr videoEncoderOut.mime))]

def VideoDecoderIn.toJson (videoDecoderIn : VideoDecoderIn) : CJson :=
  numbersToJson "vd_bit_stream_fmt" videoDecoderIn.mime videoDecoderIn.vd_bit_stream_fmt

def VideoDecoderOut.toJson (videoDecoderOut : VideoDecoderOut) : CJson :=
  numbersToJson "pixel_fmt" videoDecoderOut.mime videoDecoderOut.pixel_fmt

/-- `ToJson` of the four abilities. -/
def Ability.toJson {In Out : Type} (inToJson : In → CJson) (outToJson : Out → CJson)
    (ability : Ability In Out) : CJson :=
  .object [("name", .string (cStr ability.name)), ("ins", .array (ability.ins.map inToJson)),
    ("outs", .array (ability.outs.map outToJson))]

def AudioEncoder.toJson : AudioEncoder → CJson :=
  Ability.toJson AudioEncoderIn.toJson AudioEncoderOut.toJson

def AudioDecoder.toJson : AudioDecoder → CJson :=
  Ability.toJson AudioDecoderIn.toJson AudioDecoderOut.toJson

def VideoEncoder.toJson : VideoEncoder → CJson :=
  Ability.toJson VideoEncoderIn.toJson VideoEncoderOut.toJson

def VideoDecoder.toJson : VideoDecoder → CJson :=
  Ability.toJson VideoDecoderIn.toJson VideoDecoderOut.toJson

/-- `ToJson<T>`, on a new object. -/
def abilitiesToJson {T : Type} (toJson : T → CJson) (key : String) (objs : List T) : CJson :=
  .object [(key, .array (objs.map toJson))]

end ToJson

/-- The two readers: `histreamer_ability_parser` of the framework, and the querier. -/
inductive AbilityReader
  | parser | querier
  deriving DecidableEq

def maxMessagesLen : Nat := 1 * 1024 * 1024

namespace AbilityReader

/-- The framework looks members up without regard to case, the querier with. -/
def item (reader : AbilityReader) (json : CJson) (key : String) : Option CJson :=
  match reader with
  | .parser => json.getObjectItem key
  | .querier => json.getObjectItemCaseSensitive key

/-- What the casts of a number start from: the framework takes its `valuedouble`, the querier
its `valueint`. A `double` beyond the field's type, whose cast is undefined, wraps here. -/
def integer (reader : AbilityReader) (d : ℚ) : Int :=
  match reader with
  | .parser => d.num.tdiv d.den
  | .querier => CJson.saturatedInt d

def isString (reader : AbilityReader) (json : CJson) (key : String) : Bool :=
  match reader with
  | .parser => json.isString key
  | .querier =>
      match json.getObjectItemCaseSensitive key with
      | some (.string s) => s.utf8ByteSize ≤ maxMessagesLen
      | _ => false

def isUInt8 (reader : AbilityReader) (json : CJson) (key : String) : Bool :=
  match reader with
  | .parser => json.isUInt8 key
  | .querier =>
      match json.getObjectItemCaseSensitive key with
      | some (.number d) => (UInt8.ofInt (CJson.saturatedInt d)).toNat ≤ 255
      | _ => false

def isUInt32 (reader : AbilityReader) (json : CJson) (key : String) : Bool :=
  match reader with
  | .parser => json.isUInt32 key
  | .querier =>
      match json.getObjectItemCaseSensitive key with
      | some (.number d) => (UInt32.ofInt (CJson.saturatedInt d)).toNat ≤ 4294967295
      | _ => false

/-- The querier does not bound the length of an array. -/
def isArray (reader : AbilityReader) (json : CJson) (key : String) : Bool :=
  match reader with
  | .parser => json.isArray key
  | .querier =>
      match json.getObjectItemCaseSensitive key with
      | some (.array _) => true
      | _ => false

def valuestring (reader : AbilityReader) (json : CJson) (key : String) : String :=
  match reader.item json key with
  | some (.string s) => s
  | _ => ""

def number (reader : AbilityReader) (json : CJson) (key : String) : Int :=
  match reader.item json key with
  | some (.number d) => reader.integer d
  | _ => 0

/-- What `cJSON_ArrayForEach` goes through. -/
def items (reader : AbilityReader) (json : CJson) (key : String) : List CJson :=
  (reader.item json key).elim [] CJson.children

/-- A loop that takes the numbers of an array. -/
def numbers {α : Type} [FieldWidth α] (reader : AbilityReader) (items : List CJson) : List α :=
  items.filterMap (fun item =>
    match item with
    | .number d => some (FieldWidth.ofInt (reader.integer d))
    | _ => none)

/-- A record of a mime type and of the numbers under `key`, where the member `checked` is an
array. -/
def fromJsonNumbers {α : Type} [FieldWidth α] (reader : AbilityReader) (checked key : String)
    (json : CJson) : String × List α :=
  if !reader.isString json "mime" then ("", [])
  else
    let mime := reader.valuestring json "mime"
    if !reader.isArray json checked then (mime, [])
    else (mime, reader.numbers (reader.items json key))

end AbilityReader

section FromJson
variable (reader : AbilityReader)

def AudioEncoderIn.fromJson (json : CJson) : AudioEncoderIn :=
  let read := reader.fromJsonNumbers "sample_rate" "sample_rate" json
  { mime := read.1, sample_rate := read.2 }

/-- The numbers of a new `AudioEncoderOut` are not initialized; `fresh` has them. -/
def AudioEncoderOut.fromJson (fresh : AudioEncoderOut) (json : CJson) : AudioEncoderOut :=
  let out := { fresh with mime := "" }
  if !reader.isString json "mime" then out
  else
    let out := { out with mime := reader.valuestring json "mime" }
    if !reader.isUInt32 json "ad_mpeg_ver" then out
    else
      let out := { out with ad_mpeg_ver := UInt32.ofInt (reader.number json "ad_mpeg_ver") }
      if !reader.isUInt8 json "aac_profile" then out
      else
        let out := { out with aac_profile := UInt8.ofInt (reader.number json "aac_profile") }
        if !reader.isUInt8 json "aac_stm_fmt" then out
        else { out with aac_stm_fmt := UInt8.ofInt (reader.number json "aac_stm_fmt") }

def AudioDecoderIn.fromJson (json : CJson) : AudioDecoderIn :=
  let read := reader.fromJsonNumbers "channel_layout" "channel_layout" json
  { mime := read.1, channel_layout := read.2 }

def AudioDecoderOut.fromJson (json : CJson) : AudioDecoderOut :=
  let read := reader.fromJsonNumbers "sample_fmt" "sample_fmt" json
  { mime := read.1, sample_fmt := read.2 }

def VideoEncoderIn.fromJson (json : CJson) : VideoEncoderIn :=
  let read := reader.fromJsonNumbers "pixel_fmt" "pixel_fmt" json
  { mime := read.1, pixel_fmt := read.2 }

def VideoEncoderOut.fromJson (json : CJson) : VideoEncoderOut :=
  if !reader.isString json "mime" then {} else { mime := reader.valuestring json "mime" }

def VideoDecoderIn.fromJson (json : CJson) : VideoDecoderIn :=
  let read := reader.fromJsonNumbers "vd_bit_stream_fmt" "vd_bit_stream_fmt" json
  { mime := read.1, vd_bit_stream_fmt := read.2 }

/-- The member that has to be an array before the pixel formats are read. -/
def VideoDecoderOut.checked : String :=
  match reader with
  | .parser => "vd_bit_stream_fmt"
  | .querier => "pixel_fmt"

def VideoDecoderOut.fromJson (json : CJson) : VideoDecoderOut :=
  let read := reader.fromJsonNumbers (VideoDecoderOut.checked reader) "pixel_fmt" json
  { mime := read.1, pixel_fmt := read.2 }

/-- `FromJson` of the four abilities. -/
def Ability.fromJson {In Out : Type} (inFromJson : CJson → In) (outFromJson : CJson → Out)
    (json : CJson) : Ability In Out :=
  if !reader.isString json "name" then {}
  else
    let ability : Ability In Out := { name := reader.valuestring json "name" }
    if !reader.isArray json "ins" then ability
    else
      let ability := { ability with ins := (reader.items json "ins").map inFromJson }
      if !reader.isArray json "outs" then ability
      else { ability with outs := (reader.items json "outs").map outFromJson }

def AudioEncoder.fromJson (fresh : AudioEncoderOut) : CJson → AudioEncoder :=
  Ability.fromJson reader (AudioEncoderIn.fromJson reader) (AudioEncoderOut.fromJson reader fresh)

def AudioDecoder.fromJson : CJson → AudioDecoder :=
  Ability.fromJson reader (AudioDecoderIn.fromJson reader) (AudioDecoderOut.fromJson reader)

def VideoEncoder.fromJson : CJson → VideoEncoder :=
  Ability.fromJson reader (VideoEncoderIn.fromJson reader) (VideoEncoderOut.fromJson reader)

def VideoDecoder.fromJson : CJson → VideoDecoder :=
  Ability.fromJson reader (VideoDecoderIn.fromJson reader) (VideoDecoderOut.fromJson reader)

/-- `FromJson<T>` appends to the list it is given. The framework takes a member that is no
array for a single ability. -/
def abilitiesFromJson {T : Type} (fromJson : CJson → T) (key : String) (json : CJson)
    (objs : List T) : List T :=
  match reader.item json key with
  | some (.array items) => objs ++ items.map fromJson
  | some single =>
      match reader with
      | .parser => objs ++ [fromJson single]
      | .querier => objs
  | none => objs

end FromJson
end DistributedHardware
