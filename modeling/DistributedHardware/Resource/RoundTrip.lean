import DistributedHardware.Resource.LocalHardware
import DistributedHardware.Transport.Messages

/-!
What `FromJsonString` reads of the text that `ToJsonString` writes.

All fields are written, and read back up to the first string that is empty: from there on
the record keeps its defaults. `parse` and `printUnformatted` are cJSON's.
-/

namespace DistributedHardware

/-- What is documented of cJSON: the parser reads back what the printer prints, and what it
prints is no shorter than any string of the tree. -/
structure PrintsParsed (parse : String → Option CJson) (printUnformatted : CJson → Option String) :
    Prop where
  parsePrinted : ∀ json text, printUnformatted json = some text → parse text = some json
  contained : ∀ json text s, printUnformatted json = some text → json.Contains s →
    s.utf8ByteSize ≤ text.utf8ByteSize

/-- The tree is printed, and its text is not too long to be read. -/
def Readable (printUnformatted : CJson → Option String) (json : CJson) : Prop :=
  ∃ text, printUnformatted json = some text ∧ isJsonLengthValid text = true

theorem CapabilityInfo.cStr_cStr (cap : CapabilityInfo) : cap.cStr.cStr = cap.cStr := by
  simp [CapabilityInfo.cStr, DhTransport.cStr_cStr]

theorem MetaCapabilityInfo.cStr_cStr (cap : MetaCapabilityInfo) : cap.cStr.cStr = cap.cStr := by
  simp [MetaCapabilityInfo.cStr, CapabilityInfo.cStr_cStr, DhTransport.cStr_cStr]

/-- After an empty string every field has its default. -/
def CapabilityInfo.NothingAfterEmpty (cap : CapabilityInfo) : Prop :=
  (cap.dhId = "" → cap.deviceId = "") ∧ (cap.deviceId = "" → cap.deviceName = "") ∧
  (cap.deviceName = "" →
    cap.deviceType = 0 ∧ cap.dhType = DhType.unknown ∧ cap.dhAttrs = "") ∧
  (cap.dhAttrs = "" → cap.dhSubtype = "")

def MetaCapabilityInfo.NothingAfterEmpty (cap : MetaCapabilityInfo) : Prop :=
  cap.toCapabilityInfo.NothingAfterEmpty ∧ (cap.dhSubtype = "" → cap.udidHash = "") ∧
  (cap.udidHash = "" → cap.sinkVersion = "")

/-- Every field of a capability is there and valid. -/
def CJson.isCapability (json : CJson) : Bool :=
  json.isString "dh_id" && json.isString "dev_id" && json.isString "dev_name" &&
    json.isUInt16 "dev_type" && json.isUInt32 "dh_type" && json.isString "dh_attrs" &&
    json.isString "dh_subtype"

theorem beforeEmpty_eq_iff (cap : CapabilityInfo) :
    DhTransport.beforeEmpty cap = cap ↔ cap.NothingAfterEmpty := by
  obtain ⟨dhId, deviceId, deviceName, deviceType, dhType, dhAttrs, dhSubtype⟩ := cap
  simp only [DhTransport.beforeEmpty, CapabilityInfo.NothingAfterEmpty]
  by_cases noId : dhId = ""
  · rw [if_pos noId, CapabilityInfo.mk.injEq]
    constructor
    · rintro ⟨-, rfl, rfl, rfl, rfl, rfl, rfl⟩
      simp
    · intro ⟨device, name, rest, subtype⟩
      obtain ⟨type, dhType, attrs⟩ := rest (name (device noId))
      exact ⟨noId.symm, (device noId).symm, (name (device noId)).symm, type.symm, dhType.symm,
        attrs.symm, (subtype attrs).symm⟩
  rw [if_neg noId]
  by_cases noDevice : deviceId = ""
  · rw [if_pos noDevice, CapabilityInfo.mk.injEq]
    constructor
    · rintro ⟨-, -, rfl, rfl, rfl, rfl, rfl⟩
      simp [noDevice]
    · intro ⟨_, name, rest, subtype⟩
      obtain ⟨type, dhType, attrs⟩ := rest (name noDevice)
      exact ⟨rfl, noDevice.symm, (name noDevice).symm, type.symm, dhType.symm, attrs.symm,
        (subtype attrs).symm⟩
  rw [if_neg noDevice]
  by_cases noName : deviceName = ""
  · rw [if_pos noName, CapabilityInfo.mk.injEq]
    constructor
    · rintro ⟨-, -, -, rfl, rfl, rfl, rfl⟩
      simp [noId, noName]
    · intro ⟨_, _, rest, subtype⟩
      obtain ⟨type, dhType, attrs⟩ := rest noName
      exact ⟨rfl, rfl, noName.symm, type.symm, dhType.symm, attrs.symm, (subtype attrs).symm⟩
  rw [if_neg noName]
  by_cases noAttrs : dhAttrs = ""
  · rw [if_pos noAttrs, CapabilityInfo.mk.injEq]
    constructor
    · rintro ⟨-, -, -, -, -, -, rfl⟩
      simp [noId, noDevice, noName]
    · intro ⟨_, _, _, subtype⟩
      exact ⟨rfl, rfl, rfl, rfl, rfl, noAttrs.symm, (subtype noAttrs).symm⟩
  · rw [if_neg noAttrs]
    exact iff_of_true rfl ⟨fun h => absurd h noId, fun h => absurd h noDevice,
      fun h => absurd h noName, fun h => absurd h noAttrs⟩

/-- `FromJson` of a meta record is that of a capability, and goes on where that has read all. -/
theorem MetaCapabilityInfo.fromJson_eq (json : CJson) (cap : MetaCapabilityInfo) :
    MetaCapabilityInfo.fromJson json cap =
      { toCapabilityInfo := CapabilityInfo.fromJson json cap.toCapabilityInfo
        udidHash :=
          if json.isCapability && json.isString "udid_hash" then json.valuestring "udid_hash"
          else cap.udidHash
        sinkVersion :=
          if json.isCapability && json.isString "udid_hash" && json.isString "sink_ver" then
            json.valuestring "sink_ver"
          else cap.sinkVersion } := by
  unfold MetaCapabilityInfo.fromJson CapabilityInfo.fromJson CJson.isCapability
  cases json.isString "dh_id" with
  | false => rfl
  | true =>
    cases json.isString "dev_id" with
    | false => rfl
    | true =>
      cases json.isString "dev_name" with
      | false => rfl
      | true =>
        cases json.isUInt16 "dev_type" with
        | false => rfl
        | true =>
          cases json.isUInt32 "dh_type" with
          | false => rfl
          | true =>
            cases json.isString "dh_attrs" with
            | false => rfl
            | true =>
              cases json.isString "dh_subtype" with
              | false => rfl
              | true =>
                cases json.isString "udid_hash" with
                | false => rfl
                | true => cases json.isString "sink_ver" <;> rfl

/-- No string of a capability is empty. -/
def CapabilityInfo.AllSet (cap : CapabilityInfo) : Prop :=
  cap.dhId ≠ "" ∧ cap.deviceId ≠ "" ∧ cap.deviceName ≠ "" ∧ cap.dhAttrs ≠ "" ∧ cap.dhSubtype ≠ ""

instance (cap : CapabilityInfo) : Decidable cap.AllSet := inferInstanceAs (Decidable (_ ∧ _))

theorem CapabilityInfo.NothingAfterEmpty.subtype_of_not_allSet {cap : CapabilityInfo}
    (ordered : cap.NothingAfterEmpty) (notAll : ¬ cap.AllSet) : cap.dhSubtype = "" := by
  obtain ⟨device, name, rest, subtype⟩ := ordered
  by_contra present
  have attrs : cap.dhAttrs ≠ "" := fun empty => present (subtype empty)
  have named : cap.deviceName ≠ "" := fun empty => attrs (rest empty).2.2
  have ofDevice : cap.deviceId ≠ "" := fun empty => named (name empty)
  exact notAll ⟨fun empty => ofDevice (device empty), ofDevice, named, attrs, present⟩

/-- The fields of a meta record before its first empty string. -/
def MetaCapabilityInfo.beforeEmpty (cap : MetaCapabilityInfo) : MetaCapabilityInfo :=
  { toCapabilityInfo := DhTransport.beforeEmpty cap.toCapabilityInfo
    udidHash := if cap.AllSet then cap.udidHash else ""
    sinkVersion := if cap.AllSet ∧ cap.udidHash ≠ "" then cap.sinkVersion else "" }

namespace MetaCapabilityInfo
variable (cap : MetaCapabilityInfo)

theorem beforeEmpty_eq_iff : cap.beforeEmpty = cap ↔ cap.NothingAfterEmpty := by
  obtain ⟨base, udidHash, sinkVersion⟩ := cap
  simp only [MetaCapabilityInfo.beforeEmpty, MetaCapabilityInfo.NothingAfterEmpty,
    MetaCapabilityInfo.mk.injEq]
  rw [DistributedHardware.beforeEmpty_eq_iff]
  refine and_congr_right (fun ordered => ?_)
  by_cases full : base.AllSet
  · have subtype : base.dhSubtype ≠ "" := full.2.2.2.2
    simp only [full, if_true, true_and, subtype, false_implies]
    by_cases noHash : udidHash = ""
    · simp [noHash, eq_comm]
    · simp [noHash]
  · have subtype : base.dhSubtype = "" := ordered.subtype_of_not_allSet full
    simp only [full, if_false, false_and, subtype, true_implies]
    constructor
    · rintro ⟨rfl, rfl⟩
      exact ⟨rfl, fun _ => rfl⟩
    · intro ⟨noHash, noVersion⟩
      exact ⟨noHash.symm, (noVersion noHash).symm⟩

theorem cStr_beforeEmpty : cap.cStr.beforeEmpty.cStr = cap.cStr.beforeEmpty := by
  have plain (kept : Prop) [Decidable kept] (s : String) :
      DistributedHardware.cStr (if kept then DistributedHardware.cStr s else "") =
        if kept then DistributedHardware.cStr s else "" := by
    split
    · exact DhTransport.cStr_cStr
    · exact DhTransport.cStr_empty
  rw [MetaCapabilityInfo.beforeEmpty, MetaCapabilityInfo.cStr, MetaCapabilityInfo.mk.injEq]
  exact ⟨DhTransport.cStr_beforeEmpty cap.toCapabilityInfo, plain _ cap.udidHash,
    plain _ cap.sinkVersion⟩

theorem beforeEmpty_cStr_eq_iff :
    cap.cStr.beforeEmpty = cap ↔ cap.cStr = cap ∧ cap.beforeEmpty = cap := by
  constructor
  · intro h
    have plain : cap.cStr = cap := by
      rw [← h]
      exact cap.cStr_beforeEmpty
    refine ⟨plain, ?_⟩
    rwa [plain] at h
  · intro ⟨plain, kept⟩
    rw [plain, kept]

/-- The strings of a meta record. -/
def strings : List String :=
  DhTransport.capStrings cap.toCapabilityInfo ++ [cap.udidHash, cap.sinkVersion]

theorem items_toJson : DhTransport.CapabilityItems cap.toJson cap.toCapabilityInfo := by
  constructor <;> simp [MetaCapabilityInfo.toJson, CJson.getObjectItem]

theorem isCapability_toJson (fits : ∀ s ∈ cap.strings, s.utf8ByteSize ≤ maxMessageLen) :
    cap.toJson.isCapability = decide cap.AllSet := by
  have items := cap.items_toJson
  obtain ⟨isDevType, isDhType, -⟩ := DhTransport.number_of_items items
  simp only [strings, DhTransport.capStrings, List.forall_mem_append, List.forall_mem_cons] at fits
  obtain ⟨⟨dhId, deviceId, name, attrs, subtype, -⟩, -⟩ := fits
  rw [CJson.isCapability, isDevType, isDhType, (DhTransport.isString_of_item items.dhId dhId).1,
    (DhTransport.isString_of_item items.deviceId deviceId).1,
    (DhTransport.isString_of_item items.deviceName name).1,
    (DhTransport.isString_of_item items.dhAttrs attrs).1,
    (DhTransport.isString_of_item items.dhSubtype subtype).1]
  rw [Bool.eq_iff_iff, decide_eq_true_eq]
  simp only [Bool.and_eq_true, decide_eq_true_eq, and_true, and_assoc]
  exact Iff.rfl

theorem fromJson_toJson (fits : ∀ s ∈ cap.strings, s.utf8ByteSize ≤ maxMessageLen) :
    MetaCapabilityInfo.fromJson cap.toJson {} = cap.beforeEmpty := by
  have udidHash : cap.toJson.getObjectItem "udid_hash" = some (.string cap.udidHash) := by
    simp [MetaCapabilityInfo.toJson, CJson.getObjectItem]
  have sinkVersion : cap.toJson.getObjectItem "sink_ver" = some (.string cap.sinkVersion) := by
    simp [MetaCapabilityInfo.toJson, CJson.getObjectItem]
  have full := cap.isCapability_toJson fits
  obtain ⟨base, rest⟩ := List.forall_mem_append.mp fits
  obtain ⟨isHash, hash⟩ := DhTransport.isString_of_item udidHash (rest _ (by simp))
  obtain ⟨isVersion, version⟩ := DhTransport.isString_of_item sinkVersion (rest _ (by simp))
  rw [MetaCapabilityInfo.fromJson_eq, full, isHash, isVersion, hash, version,
    DhTransport.fromJson_of_items cap.items_toJson base]
  unfold MetaCapabilityInfo.beforeEmpty
  rw [MetaCapabilityInfo.mk.injEq]
  refine ⟨rfl, ?_, ?_⟩
  · by_cases noHash : cap.udidHash = ""
    · simp [noHash]
    · simp [noHash]
  · by_cases noVersion : cap.sinkVersion = ""
    · simp [noVersion]
    · simp [noVersion]

end MetaCapabilityInfo

section RoundTrip
variable {parse : String → Option CJson} {printUnformatted : CJson → Option String}

/-- Reading a printed tree. -/
theorem getByValue_printed {T : Type} {fresh : T} {fromJson : CJson → T → T} {json : CJson} {x : T}
    (lib : PrintsParsed parse printUnformatted) :
    getByValue parse fresh fromJson ((printUnformatted json).getD "") = .ok x ↔
      Readable printUnformatted json ∧ fromJson json fresh = x := by
  unfold getByValue Readable
  cases printed : printUnformatted json with
  | none => simp [isJsonLengthValid]
  | some text =>
      rw [Option.getD_some]
      cases valid : isJsonLengthValid text with
      | false => simp [valid]
      | true => simp [valid, lib.parsePrinted json text printed]

/-- The strings of a readable text are short enough to be read. -/
theorem Readable.fits {json : CJson} {s : String} (lib : PrintsParsed parse printUnformatted)
    (readable : Readable printUnformatted json) (contained : json.Contains s) :
    s.utf8ByteSize ≤ maxMessageLen := by
  obtain ⟨text, printed, valid⟩ := readable
  have short : text.utf8ByteSize ≤ maxJsonSize := by
    rw [isJsonLengthValid, Bool.and_eq_true, decide_eq_true_eq] at valid
    exact valid.2
  exact (lib.contained json text s printed contained).trans short

theorem capability_readBack (cap : CapabilityInfo) (lib : PrintsParsed parse printUnformatted) :
    getCapabilityByValue parse (cap.cStr.toJsonString printUnformatted) = .ok cap ↔
      Readable printUnformatted cap.cStr.toJson ∧ cap.cStr = cap ∧ cap.NothingAfterEmpty := by
  unfold getCapabilityByValue CapabilityInfo.toJsonString
  rw [cap.cStr_cStr, getByValue_printed lib, ← beforeEmpty_eq_iff,
    ← DhTransport.beforeEmpty_cStr_eq_iff]
  refine and_congr_right (fun readable => ?_)
  rw [DhTransport.fromJson_toJson_cap]
  intro s mem
  refine readable.fits lib ?_
  simpa [CapabilityInfo.toJson, DhTransport.capStrings] using mem

theorem metaCapability_readBack (cap : MetaCapabilityInfo)
    (lib : PrintsParsed parse printUnformatted) :
    getMetaCapabilityByValue parse (cap.cStr.toJsonString printUnformatted) = .ok cap ↔
      Readable printUnformatted cap.cStr.toJson ∧ cap.cStr = cap ∧ cap.NothingAfterEmpty := by
  unfold getMetaCapabilityByValue MetaCapabilityInfo.toJsonString
  rw [cap.cStr_cStr, getByValue_printed lib, ← cap.beforeEmpty_eq_iff,
    ← cap.beforeEmpty_cStr_eq_iff]
  refine and_congr_right (fun readable => ?_)
  rw [cap.cStr.fromJson_toJson]
  intro s mem
  refine readable.fits lib ?_
  simpa [MetaCapabilityInfo.toJson, MetaCapabilityInfo.strings, DhTransport.capStrings] using mem

/-- Capabilities and meta records come back as they were where their texts are not too long, no
string has a NUL in it, and nothing is set after an empty string. -/
theorem records_readBack_iff (lib : PrintsParsed parse printUnformatted) :
    (∀ cap : CapabilityInfo,
      getCapabilityByValue parse (cap.cStr.toJsonString printUnformatted) = .ok cap ↔
        Readable printUnformatted cap.cStr.toJson ∧ cap.cStr = cap ∧ cap.NothingAfterEmpty) ∧
    ∀ cap : MetaCapabilityInfo,
      getMetaCapabilityByValue parse (cap.cStr.toJsonString printUnformatted) = .ok cap ↔
        Readable printUnformatted cap.cStr.toJson ∧ cap.cStr = cap ∧ cap.NothingAfterEmpty :=
  ⟨fun cap => capability_readBack cap lib, fun cap => metaCapability_readBack cap lib⟩

end RoundTrip

section Examples

/-- A printer of some trees, and the parser of their texts. -/
theorem exists_printsParsed_of_pairs (pairs : List (CJson × String))
    (trees : (pairs.map Prod.fst).Nodup) (texts : (pairs.map Prod.snd).Nodup)
    (contained : ∀ pair ∈ pairs, ∀ s, pair.1.Contains s → s.utf8ByteSize ≤ pair.2.utf8ByteSize) :
    ∃ parse printUnformatted, PrintsParsed parse printUnformatted ∧
      ∀ pair ∈ pairs, printUnformatted pair.1 = some pair.2 := by
  classical
  have found {α : Type} [DecidableEq α] {key : CJson × String → α} (keys : (pairs.map key).Nodup)
      (pair : CJson × String) (mem : pair ∈ pairs) :
      pairs.find? (fun p => decide (key p = key pair)) = some pair := by
    cases first : pairs.find? (fun p => decide (key p = key pair)) with
    | none => exact absurd (List.find?_eq_none.mp first pair mem) (by simp)
    | some pair' =>
        have same := List.find?_some first
        rw [List.inj_on_of_nodup_map keys (List.mem_of_find?_eq_some first) mem
          (by simpa using same)]
  have origin {json : CJson} {text : String}
      (printed : (pairs.find? (fun p => decide (p.1 = json))).map Prod.snd = some text) :
      (json, text) ∈ pairs := by
    obtain ⟨pair, first, rfl⟩ := Option.map_eq_some_iff.mp printed
    have same := List.find?_some first
    obtain rfl : pair.1 = json := by simpa using same
    exact List.mem_of_find?_eq_some first
  refine ⟨fun text => (pairs.find? (fun p => decide (p.2 = text))).map Prod.fst,
    fun json => (pairs.find? (fun p => decide (p.1 = json))).map Prod.snd, ⟨?_, ?_⟩, ?_⟩
  · intro json text printed
    exact congrArg (Option.map Prod.fst) (found texts (json, text) (origin printed))
  · intro json text s printed mem
    exact contained _ (origin printed) s mem
  · intro pair mem
    exact congrArg (Option.map Prod.snd) (found trees pair mem)

/-- A printer of one tree, and the parser of its text. -/
theorem exists_printsParsed {json : CJson} {text : String}
    (contained : ∀ s, json.Contains s → s.utf8ByteSize ≤ text.utf8ByteSize) :
    ∃ parse printUnformatted, PrintsParsed parse printUnformatted ∧
      printUnformatted json = some text := by
  obtain ⟨parse, printUnformatted, lib, printed⟩ :=
    exists_printsParsed_of_pairs [(json, text)] (by simp) (by simp)
      (by simpa using contained)
  exact ⟨parse, printUnformatted, lib, printed (json, text) (by simp)⟩

/-- The meta record of a camera, with the subtype that its component gives. -/
private def metaCamera (dhSubtype : String) : MetaCapabilityInfo where
  dhId := "h"
  deviceId := "d"
  deviceName := "p"
  deviceType := 14
  dhType := DhType.camera
  dhAttrs := "a"
  dhSubtype
  udidHash := "u"
  sinkVersion := "1.0"

private def metaCameraText (dhSubtype : String) : String :=
  String.join ["\x7b\"dh_id\":\"h\",\"dev_id\":\"d\",\"dev_name\":\"p\",\"dev_type\":14,",
    "\"dh_type\":1,\"dh_attrs\":\"a\",\"dh_subtype\":\"", dhSubtype,
    "\",\"udid_hash\":\"u\",\"sink_ver\":\"1.0\"\x7d"]

theorem metaCamera_contained {dhSubtype s : String} (short : dhSubtype.utf8ByteSize ≤ 3)
    (mem : (metaCamera dhSubtype).toJson.Contains s) : s.utf8ByteSize ≤ 3 := by
  simp only [MetaCapabilityInfo.toJson, metaCamera, CJson.contains_object,
    List.exists_mem_cons_iff, List.not_mem_nil, false_and, exists_false, or_false,
    CJson.contains_string, CJson.not_contains_number, false_or] at mem
  obtain rfl | rfl | rfl | rfl | rfl | rfl | rfl := mem
  · decide
  · decide
  · decide
  · decide
  · exact short
  · decide
  · decide

theorem exists_metaCamera_printed (dhSubtype : String) (short : dhSubtype.utf8ByteSize ≤ 3)
    (plain : (metaCamera dhSubtype).cStr = metaCamera dhSubtype)
    (long : 3 ≤ (metaCameraText dhSubtype).utf8ByteSize)
    (valid : isJsonLengthValid (metaCameraText dhSubtype) = true) :
    ∃ parse printUnformatted, PrintsParsed parse printUnformatted ∧
      Readable printUnformatted (metaCamera dhSubtype).cStr.toJson := by
  obtain ⟨parse, printUnformatted, lib, printed⟩ :=
    exists_printsParsed (fun s mem => (metaCamera_contained short mem).trans long)
  refine ⟨parse, printUnformatted, lib, ?_⟩
  rw [plain]
  exact ⟨_, printed, valid⟩

theorem metaCamera_readBack : ∃ parse printUnformatted, PrintsParsed parse printUnformatted ∧
    getMetaCapabilityByValue parse ((metaCamera "s").cStr.toJsonString printUnformatted) =
      .ok (metaCamera "s") := by
  have plain : (metaCamera "s").cStr = metaCamera "s" := by decide +kernel
  have ordered : (metaCamera "s").NothingAfterEmpty := by
    simp [metaCamera, MetaCapabilityInfo.NothingAfterEmpty, CapabilityInfo.NothingAfterEmpty]
  obtain ⟨parse, printUnformatted, lib, readable⟩ := exists_metaCamera_printed "s"
    (by decide) plain (by decide +kernel) (by decide +kernel)
  refine ⟨parse, printUnformatted, lib, ?_⟩
  exact ((records_readBack_iff lib).2 _).mpr ⟨readable, plain, ordered⟩

/-- Without a subtype the record comes back without its hash and its version. -/
theorem exists_record_not_readBack : ∃ parse printUnformatted,
    PrintsParsed parse printUnformatted ∧ Readable printUnformatted (metaCamera "").cStr.toJson ∧
    getMetaCapabilityByValue parse ((metaCamera "").cStr.toJsonString printUnformatted) =
      .ok { metaCamera "" with udidHash := "", sinkVersion := "" } ∧
    { metaCamera "" with udidHash := "", sinkVersion := "" } ≠ metaCamera "" := by
  obtain ⟨parse, printUnformatted, lib, readable⟩ := exists_metaCamera_printed ""
    (by decide) (by decide +kernel) (by decide +kernel) (by decide +kernel)
  have fits : ∀ s ∈ (metaCamera "").cStr.strings, s.utf8ByteSize ≤ maxMessageLen := by
    decide +kernel
  refine ⟨parse, printUnformatted, lib, readable, ?_, by decide⟩
  unfold getMetaCapabilityByValue MetaCapabilityInfo.toJsonString
  rw [(metaCamera "").cStr_cStr, getByValue_printed lib]
  refine ⟨readable, ?_⟩
  rw [(metaCamera "").cStr.fromJson_toJson fits]
  decide +kernel

end Examples
end DistributedHardware
