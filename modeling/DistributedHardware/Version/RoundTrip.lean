import Mathlib.Data.List.Find
import DistributedHardware.Resource.RoundTrip
import DistributedHardware.Version.VersionInfo

/-!
What `VersionInfo::FromJsonString` reads of the text that `ToJsonString` writes.

The components are written as an array, in the order in which the map is gone through, and
each is inserted again under the type that is read of it.
-/

namespace DistributedHardware

def CompVersion.toJson (compVer : CompVersion) : CJson :=
  .object [
    ("name", .string (cStr compVer.name)), ("type", .number compVer.dhType.toNat),
    ("handler", .string (cStr compVer.handlerVersion)),
    ("source_ver", .string (cStr compVer.sourceVersion)),
    ("sink_ver", .string (cStr compVer.sinkVersion))]

/-- The map has no order of its own: any order of its entries may be the one of the iteration. -/
def VersionInfo.toJson (versionInfo : VersionInfo) : CJson :=
  .object [
    ("dev_id", .string (cStr versionInfo.deviceId)),
    ("dh_ver", .string (cStr versionInfo.dhVersion)),
    ("comp_ver", .array (versionInfo.compVersions.entries.map (fun entry => entry.2.toJson)))]

/-- Printing is cJSON's; where it fails the text is empty. -/
def VersionInfo.toJsonString (printUnformatted : CJson → Option String)
    (versionInfo : VersionInfo) : String :=
  (printUnformatted versionInfo.toJson).getD ""

namespace CompVersion
variable (compVer : CompVersion)

/-- A component with its strings read through `c_str`. -/
def cStr : CompVersion :=
  { compVer with
    name := DistributedHardware.cStr compVer.name
    handlerVersion := DistributedHardware.cStr compVer.handlerVersion
    sourceVersion := DistributedHardware.cStr compVer.sourceVersion
    sinkVersion := DistributedHardware.cStr compVer.sinkVersion }

def strings : List String :=
  [compVer.name, compVer.handlerVersion, compVer.sourceVersion, compVer.sinkVersion]

theorem cStr_eq_iff : compVer.cStr = compVer ↔
    ∀ s ∈ compVer.strings, DistributedHardware.cStr s = s := by
  obtain ⟨name, dhType, handlerVersion, sourceVersion, sinkVersion⟩ := compVer
  simp [cStr, strings]

/-- A string member is read where it is not empty, and a fresh string is empty. -/
theorem read_or_empty {json : CJson} {key s : String}
    (item : json.getObjectItem key = some (.string s)) (fits : s.utf8ByteSize ≤ maxMessageLen) :
    (if json.isString key then json.valuestring key else "") = s := by
  obtain ⟨isString, value⟩ := DhTransport.isString_of_item item fits
  rw [isString, value]
  by_cases empty : s = "" <;> simp [empty]

/-- Each member is read by itself. -/
theorem fromJson_eq (json : CJson) : CompVersion.fromJson json compVer =
    { name := if json.isString "name" then json.valuestring "name" else compVer.name
      dhType :=
        if json.isUInt32 "type" && decide (json.valueunsigned "type" ≤ maxDh.toNat) then
          UInt32.ofNat (json.valueunsigned "type")
        else compVer.dhType
      handlerVersion :=
        if json.isString "handler" then json.valuestring "handler" else compVer.handlerVersion
      sourceVersion :=
        if json.isString "source_ver" then json.valuestring "source_ver"
        else compVer.sourceVersion
      sinkVersion :=
        if json.isString "sink_ver" then json.valuestring "sink_ver"
        else compVer.sinkVersion } := by
  unfold CompVersion.fromJson
  cases json.isString "name" <;>
    cases json.isUInt32 "type" && decide (json.valueunsigned "type" ≤ maxDh.toNat) <;>
    cases json.isString "handler" <;> cases json.isString "source_ver" <;>
    cases json.isString "sink_ver" <;> rfl

/-- A component comes back, up to the NULs in it. -/
theorem fromJson_toJson (unsetType : DhType) (valid : compVer.dhType ≤ maxDh)
    (fits : ∀ s ∈ compVer.cStr.strings, s.utf8ByteSize ≤ maxMessageLen) :
    CompVersion.fromJson compVer.toJson { dhType := unsetType } = compVer.cStr := by
  have type : compVer.toJson.getObjectItem "type" = some (.number compVer.dhType.toNat) := by
    simp [toJson, CJson.getObjectItem]
  have isType : compVer.toJson.isUInt32 "type" = true := by
    have bound := UInt32.toNat_lt compVer.dhType
    simp only [CJson.isUInt32, type, Bool.and_eq_true, decide_eq_true_eq]
    exact ⟨by positivity, by exact_mod_cast (by omega : compVer.dhType.toNat ≤ 4294967295)⟩
  have value : compVer.toJson.valueunsigned "type" = compVer.dhType.toNat := by
    simp [CJson.valueunsigned, type]
  simp only [strings, cStr, List.forall_mem_cons] at fits
  obtain ⟨name, handler, source, sink, -⟩ := fits
  rw [fromJson_eq, isType, value, read_or_empty (by simp [toJson, CJson.getObjectItem]) name,
    read_or_empty (by simp [toJson, CJson.getObjectItem]) handler,
    read_or_empty (by simp [toJson, CJson.getObjectItem]) source,
    read_or_empty (by simp [toJson, CJson.getObjectItem]) sink]
  simp [cStr, UInt32.le_iff_toNat_le.mp valid]

end CompVersion
section Components
variable (compVersions : CompVersions) (dhType : DhType)

@[simp] theorem get_insertCompVersion (compVer : CompVersion) :
    (insertCompVersion compVersions compVer).get dhType =
      (compVersions.get dhType).or (if dhType = compVer.dhType then some compVer else none) := by
  unfold insertCompVersion
  by_cases same : dhType = compVer.dhType
  · subst same
    cases present : compVersions.get compVer.dhType <;> simp [present]
  · cases present : compVersions.get compVer.dhType <;> simp [same]

/-- Of each type the first component is kept. -/
theorem get_foldl_insertCompVersion (compVers : List CompVersion) :
    (compVers.foldl insertCompVersion compVersions).get dhType =
      (compVersions.get dhType).or (compVers.find? (fun compVer => dhType = compVer.dhType)) := by
  induction compVers generalizing compVersions with
  | nil => simp
  | cons compVer compVers ih =>
      rw [List.foldl_cons, ih, get_insertCompVersion, Option.or_assoc, List.find?_cons]
      by_cases same : dhType = compVer.dhType <;> simp [same]

/-- What is found among the components of a map by their types, where the types are the keys. -/
theorem find?_entries (read : CompVersion → CompVersion)
    (keyed : ∀ entry ∈ compVersions.entries, (read entry.2).dhType = entry.1) :
    (compVersions.entries.map (fun entry => read entry.2)).find?
        (fun compVer => dhType = compVer.dhType) = (compVersions.get dhType).map read := by
  rw [List.find?_map]
  have same : compVersions.entries.find?
      ((fun compVer : CompVersion => decide (dhType = compVer.dhType)) ∘ fun e => read e.2) =
      compVersions.entries.find? (fun entry => dhType = entry.1) := by
    refine List.find?_congr (fun entry mem => ?_)
    rw [Function.comp_apply, keyed entry mem]
  rw [same, ← List.map_dlookup_eq_find, Option.map_map]
  rfl

end Components

namespace VersionInfo
variable (v : VersionInfo)

/-- Each component stands under its own type, which is a valid one. -/
def Keyed : Prop :=
  ∀ entry ∈ v.compVersions.entries, entry.2.dhType = entry.1 ∧ entry.1 ≤ maxDh

/-- The strings of a record, those of its components included. -/
def strings : List String :=
  v.deviceId :: v.dhVersion :: v.compVersions.entries.flatMap (fun entry => entry.2.strings)

/-- Equal records: of the maps it matters only what they have under each type. -/
structure Same (v w : VersionInfo) : Prop where
  deviceId : v.deviceId = w.deviceId
  dhVersion : v.dhVersion = w.dhVersion
  compVersions : ∀ dhType, v.compVersions.get dhType = w.compVersions.get dhType

variable {v}

theorem fromJson_of_components {json compVer : CJson} (unsetType : DhType)
    (item : json.getObjectItem "comp_ver" = some compVer) :
    VersionInfo.fromJson unsetType json {} =
      { deviceId := if json.isString "dev_id" then json.valuestring "dev_id" else ""
        dhVersion := if json.isString "dh_ver" then json.valuestring "dh_ver" else ""
        compVersions :=
          (compVer.children.map (fun compVerObj =>
            CompVersion.fromJson compVerObj { dhType := unsetType })).foldl
              insertCompVersion ∅ } := by
  rw [List.foldl_map]
  simp only [VersionInfo.fromJson, item]
  cases json.isString "dev_id" <;> cases json.isString "dh_ver" <;> rfl

theorem mem_strings_of_entry {entry : Sigma fun _ : DhType => CompVersion} {s : String}
    (mem : entry ∈ v.compVersions.entries) (hs : s ∈ entry.2.strings) : s ∈ v.strings := by
  simp only [strings, List.mem_cons, List.mem_flatMap]
  exact .inr (.inr ⟨entry, mem, hs⟩)

/-- The record that is read has the components that were written, up to the NULs. -/
theorem fromJson_toJson (unsetType : DhType) (keyed : v.Keyed)
    (fits : ∀ s ∈ v.strings, (cStr s).utf8ByteSize ≤ maxMessageLen) :
    (VersionInfo.fromJson unsetType v.toJson {}).deviceId = cStr v.deviceId ∧
    (VersionInfo.fromJson unsetType v.toJson {}).dhVersion = cStr v.dhVersion ∧
    ∀ dhType, (VersionInfo.fromJson unsetType v.toJson {}).compVersions.get dhType =
      (v.compVersions.get dhType).map CompVersion.cStr := by
  have item : v.toJson.getObjectItem "comp_ver" =
      some (.array (v.compVersions.entries.map (fun entry => entry.2.toJson))) := by
    simp [toJson, CJson.getObjectItem]
  have read : (v.compVersions.entries.map (fun entry => entry.2.toJson)).map
      (fun compVerObj => CompVersion.fromJson compVerObj { dhType := unsetType }) =
      v.compVersions.entries.map (fun entry => entry.2.cStr) := by
    rw [List.map_map]
    refine List.map_congr_left (fun entry mem => ?_)
    obtain ⟨type, valid⟩ := keyed entry mem
    refine entry.2.fromJson_toJson unsetType (type ▸ valid) (fun s hs => ?_)
    obtain ⟨s', hs', rfl⟩ : ∃ s' ∈ entry.2.strings, cStr s' = s := by
      simpa [CompVersion.strings, CompVersion.cStr, eq_comm] using hs
    exact fits s' (mem_strings_of_entry mem hs')
  rw [fromJson_of_components unsetType item, CJson.children, read]
  refine ⟨?_, ?_, fun dhType => ?_⟩
  · exact CompVersion.read_or_empty (by simp [toJson, CJson.getObjectItem])
      (fits v.deviceId (by simp [strings]))
  · exact CompVersion.read_or_empty (by simp [toJson, CJson.getObjectItem])
      (fits v.dhVersion (by simp [strings]))
  · rw [get_foldl_insertCompVersion, Store.get_empty, Option.none_or,
      find?_entries _ _ CompVersion.cStr (fun entry mem => (keyed entry mem).1)]

variable {setting : VersionSetting} {printUnformatted : CJson → Option String}

theorem contains_toJson {s : String} (mem : s ∈ v.strings) : v.toJson.Contains (cStr s) := by
  simp only [strings, List.mem_cons, List.mem_flatMap] at mem
  obtain rfl | rfl | ⟨entry, mem, hs⟩ := mem
  · simp [toJson]
  · simp [toJson]
  · have inner : entry.2.toJson.Contains (cStr s) := by
      simp only [CompVersion.strings, List.mem_cons, List.not_mem_nil, or_false] at hs
      obtain rfl | rfl | rfl | rfl := hs <;> simp [CompVersion.toJson]
    simp only [toJson, CJson.contains_object, List.mem_cons, List.not_mem_nil, or_false]
    refine ⟨_, .inr (.inr rfl), ?_⟩
    rw [CJson.contains_array]
    exact ⟨_, List.mem_map_of_mem mem, inner⟩

theorem fits_of_readable (lib : PrintsParsed setting.parse printUnformatted)
    (readable : Readable printUnformatted v.toJson) :
    ∀ s ∈ v.strings, (cStr s).utf8ByteSize ≤ maxMessageLen :=
  fun _ mem => readable.fits lib (contains_toJson mem)

/-- A record that comes back was written without a NUL. -/
theorem plain_of_readBack (lib : PrintsParsed setting.parse printUnformatted) (keyed : v.Keyed)
    {w : VersionInfo} (read : setting.fromJsonString (v.toJsonString printUnformatted) = .ok w)
    (same : w.Same v) : Readable printUnformatted v.toJson ∧ ∀ s ∈ v.strings, cStr s = s := by
  obtain ⟨readable, rfl⟩ := (getByValue_printed lib).mp read
  obtain ⟨deviceId, dhVersion, compVersions⟩ :=
    fromJson_toJson setting.unsetType keyed (fits_of_readable lib readable)
  refine ⟨readable, fun s mem => ?_⟩
  simp only [strings, List.mem_cons, List.mem_flatMap] at mem
  obtain rfl | rfl | ⟨entry, mem, hs⟩ := mem
  · exact deviceId ▸ same.deviceId
  · exact dhVersion ▸ same.dhVersion
  · have there : v.compVersions.get entry.1 = some entry.2 := AList.mem_lookup_iff.mpr mem
    have back := same.compVersions entry.1
    rw [compVersions, there, Option.map_some, Option.some.injEq] at back
    exact entry.2.cStr_eq_iff.mp back s hs

theorem readBack_of_plain (lib : PrintsParsed setting.parse printUnformatted) (keyed : v.Keyed)
    (readable : Readable printUnformatted v.toJson) (plain : ∀ s ∈ v.strings, cStr s = s) :
    ∃ w, setting.fromJsonString (v.toJsonString printUnformatted) = .ok w ∧ w.Same v := by
  obtain ⟨deviceId, dhVersion, compVersions⟩ :=
    fromJson_toJson setting.unsetType keyed (fits_of_readable lib readable)
  refine ⟨_, (getByValue_printed lib).mpr ⟨readable, rfl⟩, ?_, ?_, fun dhType => ?_⟩
  · rw [deviceId, plain v.deviceId (by simp [strings])]
  · rw [dhVersion, plain v.dhVersion (by simp [strings])]
  · rw [compVersions]
    cases there : v.compVersions.get dhType with
    | none => rfl
    | some compVer =>
        have mem := AList.mem_lookup_iff.mp there
        rw [Option.map_some, compVer.cStr_eq_iff.mpr
          (fun s hs => plain s (mem_strings_of_entry mem hs))]

end VersionInfo

/-- A record whose components stand under their types comes back, with each of them and no
other, exactly where its text is not too long and no string has a NUL in it. -/
theorem versionInfo_readBack_iff {setting : VersionSetting}
    {printUnformatted : CJson → Option String} {v : VersionInfo}
    (lib : PrintsParsed setting.parse printUnformatted) (keyed : v.Keyed) :
    (∃ w, setting.fromJsonString (v.toJsonString printUnformatted) = .ok w ∧ w.Same v) ↔
      Readable printUnformatted v.toJson ∧ ∀ s ∈ v.strings, cStr s = s := by
  constructor
  · rintro ⟨w, read, same⟩
    exact VersionInfo.plain_of_readBack lib keyed read same
  · intro ⟨readable, plain⟩
    exact VersionInfo.readBack_of_plain lib keyed readable plain

section Examples

/-- A device with the handler of its cameras. -/
private def cameraVersions (deviceId : String) : VersionInfo where
  deviceId
  dhVersion := "1.0"
  compVersions := (∅ : CompVersions).set DhType.camera
    { name := "c", dhType := DhType.camera, handlerVersion := "2", sourceVersion := "3",
      sinkVersion := "4" }

private theorem keyed_cameraVersions (deviceId : String) : (cameraVersions deviceId).Keyed := by
  rintro entry mem
  obtain rfl : entry = ⟨DhType.camera, _⟩ := by simpa [cameraVersions, Store.set] using mem
  decide

private theorem strings_cameraVersions (deviceId : String) :
    (cameraVersions deviceId).strings = [deviceId, "1.0", "c", "2", "3", "4"] := rfl

private theorem contained_cameraVersions {deviceId s : String}
    (mem : (cameraVersions deviceId).toJson.Contains s) :
    s = cStr deviceId ∨ s.utf8ByteSize ≤ 3 := by
  have entries : (cameraVersions deviceId).compVersions.entries =
      [⟨DhType.camera, ⟨"c", DhType.camera, "2", "3", "4"⟩⟩] := rfl
  have dhVersion : (cameraVersions deviceId).dhVersion = "1.0" := rfl
  simp only [VersionInfo.toJson, entries, dhVersion, List.map_cons, List.map_nil,
    CompVersion.toJson, CJson.contains_object, CJson.contains_array, List.exists_mem_cons_iff, List.not_mem_nil,
    false_and, exists_false, or_false, CJson.contains_string, CJson.not_contains_number,
    false_or] at mem
  obtain rfl | rfl | rfl | rfl | rfl | rfl := mem
  · exact .inl rfl
  all_goals exact .inr (by decide +kernel)

/-- What cJSON prints of it. -/
private def cameraVersionsText (deviceId : String) : String :=
  "\x7b\"dev_id\":\"" ++ cStr deviceId ++
    "\",\"dh_ver\":\"1.0\",\"comp_ver\":[\x7b\"name\":\"c\",\"type\":1,\"handler\":\"2\"," ++
    "\"source_ver\":\"3\",\"sink_ver\":\"4\"\x7d]\x7d"

private theorem exists_cameraVersions_printed (deviceId : String) :
    ∃ setting printUnformatted, PrintsParsed (VersionSetting.parse setting) printUnformatted ∧
      printUnformatted (cameraVersions deviceId).toJson = some (cameraVersionsText deviceId) := by
  have contained (s : String) (mem : (cameraVersions deviceId).toJson.Contains s) :
      s.utf8ByteSize ≤ (cameraVersionsText deviceId).utf8ByteSize := by
    rw [cameraVersionsText, String.utf8ByteSize_append, String.utf8ByteSize_append,
      String.utf8ByteSize_append]
    obtain rfl | small := contained_cameraVersions mem
    · omega
    · have : 3 ≤ ("\x7b\"dev_id\":\"" : String).utf8ByteSize := by decide +kernel
      omega
  obtain ⟨parse, printUnformatted, lib, printed⟩ := exists_printsParsed contained
  exact ⟨{ sha256 := id, parse }, printUnformatted, lib, printed⟩

theorem cameraVersions_readBack : ∃ setting printUnformatted,
    PrintsParsed (VersionSetting.parse setting) printUnformatted ∧
    ∃ w, setting.fromJsonString ((cameraVersions "d").toJsonString printUnformatted) = .ok w ∧
      w.Same (cameraVersions "d") := by
  obtain ⟨setting, printUnformatted, lib, printed⟩ := exists_cameraVersions_printed "d"
  refine ⟨setting, printUnformatted, lib,
    (versionInfo_readBack_iff lib (keyed_cameraVersions "d")).mpr ⟨⟨_, printed, ?_⟩, ?_⟩⟩
  · decide +kernel
  · rw [strings_cameraVersions]
    decide +kernel

/-- There are texts of any length. -/
theorem exists_long (n : Nat) : ∃ s : String, n < s.utf8ByteSize ∧ cStr s = s := by
  induction n with
  | zero => exact ⟨"d", by decide +kernel, by decide +kernel⟩
  | succ n ih =>
      obtain ⟨s, long, plain⟩ := ih
      refine ⟨s.push 'd', ?_, ?_⟩
      · rw [String.utf8ByteSize_push]
        exact Nat.add_lt_add_of_lt_of_le long (by decide)
      · rw [DhTransport.cStr_eq_self_iff] at plain ⊢
        simpa using plain

/-- A device id with a NUL in it is cut there, and a record with a very long one is not read. -/
theorem exists_versionInfo_not_readBack :
    (∃ v : VersionInfo, v.Keyed ∧ (∀ s ∈ v.strings, s ≠ "") ∧ ∃ setting printUnformatted,
      PrintsParsed (VersionSetting.parse setting) printUnformatted ∧
      Readable printUnformatted v.toJson ∧
      ¬ ∃ w, setting.fromJsonString (v.toJsonString printUnformatted) = .ok w ∧ w.Same v) ∧
    ∃ v : VersionInfo, v.Keyed ∧ (∀ s ∈ v.strings, s ≠ "" ∧ cStr s = s) ∧
      ∃ setting printUnformatted, PrintsParsed (VersionSetting.parse setting) printUnformatted ∧
      (printUnformatted v.toJson).isSome ∧
      ¬ ∃ w, setting.fromJsonString (v.toJsonString printUnformatted) = .ok w ∧ w.Same v := by
  constructor
  · obtain ⟨setting, printUnformatted, lib, printed⟩ := exists_cameraVersions_printed "d\x00e"
    refine ⟨cameraVersions "d\x00e", keyed_cameraVersions _, ?_, setting, printUnformatted, lib,
      ⟨_, printed, by decide +kernel⟩, ?_⟩
    · rw [strings_cameraVersions]
      decide +kernel
    · rintro ⟨w, read, same⟩
      have plain := (VersionInfo.plain_of_readBack lib (keyed_cameraVersions _) read same).2
      exact absurd (plain "d\x00e" (by simp [strings_cameraVersions])) (by decide +kernel)
  · obtain ⟨deviceId, long, plain⟩ := exists_long maxMessageLen
    obtain ⟨setting, printUnformatted, lib, printed⟩ := exists_cameraVersions_printed deviceId
    refine ⟨cameraVersions deviceId, keyed_cameraVersions _, ?_, setting, printUnformatted, lib,
      by rw [printed]; rfl, ?_⟩
    · have others : ∀ s ∈ ["1.0", "c", "2", "3", "4"], s ≠ "" ∧ cStr s = s := by decide +kernel
      have nonempty : deviceId ≠ "" := by
        rintro rfl
        exact absurd long (by decide)
      rw [strings_cameraVersions]
      exact List.forall_mem_cons.mpr ⟨⟨nonempty, plain⟩, others⟩
    · rintro ⟨w, read, same⟩
      have readable := (VersionInfo.plain_of_readBack lib (keyed_cameraVersions _) read same).1
      have fits := VersionInfo.fits_of_readable lib readable deviceId
        (by simp [strings_cameraVersions])
      rw [plain] at fits
      omega

end Examples
end DistributedHardware
