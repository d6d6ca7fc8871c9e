import DistributedHardware.Library.Separated
import DistributedHardware.Resource.CapabilityCache

/-!
The point lookup of the capability cache against its device scan.

The lookup composes a key and compares it whole; the scan takes a key apart at its
first separator and refuses keys longer than an id. They agree where every cached
record's key can be read back in one way only.
-/

namespace DistributedHardware

/-- `CapabilityInfoManager::GetCapability`. -/
def getCapability (map : CapabilityInfoMap) (deviceId dhId : String) :
    Except Int CapabilityInfo :=
  if !isIdLengthValid deviceId || !isIdLengthValid dhId then .error errDhFwkParaInvalid
  else
    match map[getCapabilityKey deviceId dhId]? with
    | none => .error errDhFwkResourceCapabilityMapNotFound
    | some cap => .ok cap

/-- The scan returns the cached records of a device, the lookups find the same ones,
and clearing a device takes them out and leaves the others. -/
structure LookupsAgree (map : CapabilityInfoMap) : Prop where
  scan : ∀ deviceId, getCapabilitiesByDeviceId map deviceId [] =
    (map.toList.map Prod.snd).filter (fun cap => cap.deviceId = deviceId)
  point : ∀ deviceId cap, cap ∈ getCapabilitiesByDeviceId map deviceId [] ↔
    ∃ dhId, getCapability map deviceId dhId = .ok cap
  removed : ∀ deviceId dhId cap,
    getCapability (removeCapabilityInfoInMem map deviceId).2 deviceId dhId ≠ .ok cap
  untouched : ∀ (deviceId key : String) (cap : CapabilityInfo), map[key]? = some cap →
    cap.deviceId ≠ deviceId → (removeCapabilityInfoInMem map deviceId).2[key]? = some cap

/-- The key of the record is short enough for the scan, and the separator occurs in it
where it was put and nowhere else that a device id and a dhId could be told apart. -/
structure ReadsBack (cap : CapabilityInfo) : Prop where
  deviceId : isIdLengthValid cap.deviceId = true
  dhId : isIdLengthValid cap.dhId = true
  key : isIdLengthValid cap.getKey = true
  first : ¬ resourceSeparator.toList <:+:
    cap.deviceId.toList ++ resourceSeparator.toList.dropLast
  last : ¬ resourceSeparator.toList <:+:
    resourceSeparator.toList.tail ++ cap.dhId.toList.dropLast

theorem getCapability_eq_ok_iff {map : CapabilityInfoMap} {deviceId dhId : String}
    {cap : CapabilityInfo} :
    getCapability map deviceId dhId = .ok cap ↔ isIdLengthValid deviceId = true ∧
      isIdLengthValid dhId = true ∧ map[getCapabilityKey deviceId dhId]? = some cap := by
  by_cases hd : isIdLengthValid deviceId = true
  case neg => simp [getCapability, hd]
  by_cases hh : isIdLengthValid dhId = true
  case neg => simp [getCapability, hh]
  cases hm : map[getCapabilityKey deviceId dhId]? with
  | none => simp [getCapability, hd, hh, hm]
  | some found => simp [getCapability, hd, hh, hm]

theorem mem_getCapabilitiesByDeviceId {map : CapabilityInfoMap} {deviceId : String}
    {cap : CapabilityInfo} :
    cap ∈ getCapabilitiesByDeviceId map deviceId [] ↔ ∃ key,
      map[key]? = some cap ∧ isCapKeyMatchDeviceId key deviceId = true := by
  by_cases hd : isIdLengthValid deviceId = true
  · simp [getCapabilitiesByDeviceId, recordsOfDevice, hd,
      Std.TreeMap.mem_toList_iff_getElem?_eq_some]
  · simp [getCapabilitiesByDeviceId, isCapKeyMatchDeviceId, hd]

section Keys
variable {cap : CapabilityInfo} {deviceId dhId : String}

theorem separator_ne_nil : resourceSeparator.toList ≠ [] := by decide

theorem toList_eq_of_key (hk : getCapabilityKey deviceId dhId = cap.getKey) :
    cap.deviceId.toList ++ resourceSeparator.toList ++ cap.dhId.toList =
      deviceId.toList ++ resourceSeparator.toList ++ dhId.toList := by
  have := congrArg String.toList hk.symm
  rwa [CapabilityInfo.getKey, toList_getCapabilityKey, toList_getCapabilityKey] at this

theorem key_injective_of_length (hk : getCapabilityKey deviceId dhId = cap.getKey)
    (hlen : cap.deviceId.length = deviceId.length) : deviceId = cap.deviceId ∧ dhId = cap.dhId := by
  have heq := toList_eq_of_key hk
  rw [List.append_assoc, List.append_assoc] at heq
  obtain ⟨hd, hrest⟩ := List.append_inj heq (by simpa only [String.length_toList] using hlen)
  exact ⟨(String.toList_inj.mp hd).symm,
    (String.toList_inj.mp (List.append_cancel_left hrest)).symm⟩

/-- No shorter device id composes the key of the record. -/
theorem ReadsBack.le_length (h : ReadsBack cap)
    (hk : getCapabilityKey deviceId dhId = cap.getKey) : cap.deviceId.length ≤ deviceId.length := by
  by_contra hlt
  refine h.first ((Separated.infix_left_iff separator_ne_nil).mpr
    ⟨deviceId.toList, dhId.toList, toList_eq_of_key hk, ?_⟩)
  simpa only [String.length_toList, not_le] using hlt

theorem ReadsBack.match_iff (h : ReadsBack cap) :
    isCapKeyMatchDeviceId cap.getKey deviceId = true ↔ cap.deviceId = deviceId := by
  rw [isCapKeyMatchDeviceId_iff]
  constructor
  · rintro ⟨-, -, ⟨dhId, hk⟩, first⟩
    have hlen := le_antisymm (h.le_length hk.symm) (first _ _ rfl)
    exact (key_injective_of_length hk.symm hlen).1.symm
  · rintro rfl
    exact ⟨h.key, h.deviceId, ⟨cap.dhId, rfl⟩, fun d h' hk => h.le_length hk.symm⟩

/-- No other device id and dhId compose the key of the record. -/
theorem ReadsBack.deviceId_eq (h : ReadsBack cap) (hdh : isIdLengthValid dhId = true)
    (hk : getCapabilityKey deviceId dhId = cap.getKey) : deviceId = cap.deviceId := by
  obtain hlen | hlt := Nat.eq_or_lt_of_le (h.le_length hk)
  · exact (key_injective_of_length hk hlen).1
  · have rest : cap.dhId.toList ≠ [] := by
      simpa using ne_empty_of_isIdLengthValid h.dhId
    refine absurd ((Separated.infix_right_iff separator_ne_nil rest).mpr
      ⟨deviceId.toList, dhId.toList, toList_eq_of_key hk, ?_, ?_⟩) h.last
    · simpa only [String.length_toList] using hlt
    · simpa using ne_empty_of_isIdLengthValid hdh

theorem getKey_eq_ofList {d h : List Char}
    (heq : cap.deviceId.toList ++ resourceSeparator.toList ++ cap.dhId.toList =
      d ++ resourceSeparator.toList ++ h) :
    cap.getKey = getCapabilityKey (String.ofList d) (String.ofList h) := by
  apply eq_getCapabilityKey
  rw [CapabilityInfo.getKey, toList_getCapabilityKey, heq]

end Keys

section Agreement
variable {parse : String → Option CJson} {map : CapabilityInfoMap}

/-- Where the scan matches exactly the keys of a device's records, it returns these. -/
theorem getCapabilitiesByDeviceId_eq_filter (deviceId : String)
    (valid : ∀ (key : String) (cap : CapabilityInfo), map[key]? = some cap →
      isIdLengthValid cap.deviceId = true)
    (matches_iff : ∀ (key : String) (cap : CapabilityInfo), map[key]? = some cap →
      (isCapKeyMatchDeviceId key deviceId = true ↔ cap.deviceId = deviceId)) :
    getCapabilitiesByDeviceId map deviceId [] =
      (map.toList.map Prod.snd).filter (fun cap => cap.deviceId = deviceId) := by
  by_cases hd : isIdLengthValid deviceId = true
  · simp only [getCapabilitiesByDeviceId, hd, recordsOfDevice, Bool.not_true,
      Bool.false_eq_true, if_false, List.nil_append, List.filter_map]
    rw [← List.filterMap_eq_map, ← List.filterMap_eq_filter, List.filterMap_filterMap]
    apply List.filterMap_congr
    rintro ⟨key, cap⟩ hmem
    rw [Std.TreeMap.mem_toList_iff_getElem?_eq_some] at hmem
    by_cases heq : cap.deviceId = deviceId
    · simp [heq, (matches_iff key cap hmem).mpr heq, Option.guard]
    · simp [heq, mt (matches_iff key cap hmem).mp heq, Option.guard]
  · -- no record has a device id of another length
    rw [getCapabilitiesByDeviceId, if_pos (by simpa using hd), eq_comm, List.filter_eq_nil_iff]
    intro cap hmem heq
    obtain ⟨⟨key, cap⟩, hentry, rfl⟩ := List.mem_map.mp hmem
    rw [Std.TreeMap.mem_toList_iff_getElem?_eq_some] at hentry
    have := valid key cap hentry
    rw [of_decide_eq_true heq] at this
    exact hd this

theorem lookupsAgree_of_readsBack (keyed : Keyed map)
    (h : ∀ (key : String) (cap : CapabilityInfo), map[key]? = some cap → ReadsBack cap) :
    LookupsAgree map := by
  have matches_iff {key deviceId : String} {cap : CapabilityInfo} (hcap : map[key]? = some cap) :
      isCapKeyMatchDeviceId key deviceId = true ↔ cap.deviceId = deviceId := by
    rw [← keyed key cap hcap]
    exact (h key cap hcap).match_iff
  have of_lookup {deviceId dhId : String} {cap : CapabilityInfo}
      (hget : getCapability map deviceId dhId = .ok cap) : deviceId = cap.deviceId := by
    obtain ⟨-, hdh, hcap⟩ := getCapability_eq_ok_iff.mp hget
    exact (h _ cap hcap).deviceId_eq hdh (keyed _ cap hcap).symm
  constructor
  case scan =>
    intro deviceId
    apply getCapabilitiesByDeviceId_eq_filter
    · exact fun key cap hcap => (h key cap hcap).deviceId
    · exact fun key cap hcap => matches_iff hcap
  case point =>
    intro deviceId cap
    rw [mem_getCapabilitiesByDeviceId]
    constructor
    · rintro ⟨key, hcap, hmatch⟩
      obtain rfl := (matches_iff hcap).mp hmatch
      have back := h key cap hcap
      refine ⟨cap.dhId, getCapability_eq_ok_iff.mpr ⟨back.deviceId, back.dhId, ?_⟩⟩
      rw [← CapabilityInfo.getKey, keyed key cap hcap]
      exact hcap
    · rintro ⟨dhId, hget⟩
      obtain ⟨-, -, hcap⟩ := getCapability_eq_ok_iff.mp hget
      exact ⟨_, hcap, (matches_iff hcap).mpr (of_lookup hget).symm⟩
  case removed =>
    intro deviceId dhId cap hget
    obtain ⟨hd, hdh, hcap⟩ := getCapability_eq_ok_iff.mp hget
    rw [getElem?_removeInMem hd] at hcap
    split at hcap
    case isTrue => cases hcap
    case isFalse hmatch =>
      have := of_lookup (getCapability_eq_ok_iff.mpr ⟨hd, hdh, hcap⟩)
      exact hmatch ((matches_iff hcap).mpr this.symm)
  case untouched =>
    intro deviceId key cap hcap hne
    by_cases hd : isIdLengthValid deviceId = true
    · rw [getElem?_removeInMem hd, if_neg (mt (matches_iff hcap).mp hne)]
      exact hcap
    · rw [removeCapabilityInfoInMem, if_pos (by simpa using hd)]
      exact hcap

/-- A key that is taken apart elsewhere is found under the other ids too. -/
theorem LookupsAgree.deviceId_of_key (h : LookupsAgree map) (keyed : Keyed map) {key : String}
    {cap : CapabilityInfo} (hcap : map[key]? = some cap) {deviceId dhId : String}
    (hk : cap.getKey = getCapabilityKey deviceId dhId) (hkey : isIdLengthValid cap.getKey = true)
    (hd : deviceId ≠ "") (hdh : dhId ≠ "") : cap.deviceId = deviceId := by
  have parts := isIdLengthValid_parts (hk ▸ hkey)
  have found : getCapability map deviceId dhId = .ok cap := by
    apply getCapability_eq_ok_iff.mpr
    refine ⟨parts.1 hd, parts.2 hdh, ?_⟩
    rw [← hk, keyed key cap hcap]
    exact hcap
  have scanned := (h.point deviceId cap).mpr ⟨dhId, found⟩
  rw [h.scan, List.mem_filter, decide_eq_true_eq] at scanned
  exact scanned.2

theorem LookupsAgree.readsBack (h : LookupsAgree map) (keyed : Keyed map) {key : String}
    {cap : CapabilityInfo} (hcap : map[key]? = some cap) : ReadsBack cap := by
  have scanned : cap ∈ getCapabilitiesByDeviceId map cap.deviceId [] := by
    rw [h.scan, List.mem_filter]
    refine ⟨List.mem_map.mpr ⟨(key, cap), ?_, rfl⟩, by simp⟩
    exact Std.TreeMap.mem_toList_iff_getElem?_eq_some.mpr hcap
  obtain ⟨key', hcap', hmatch⟩ := mem_getCapabilitiesByDeviceId.mp scanned
  rw [← keyed key' cap hcap'] at hmatch
  obtain ⟨hkey, hd, -, first⟩ := isCapKeyMatchDeviceId_iff.mp hmatch
  obtain ⟨dhId, hget⟩ := (h.point cap.deviceId cap).mp scanned
  obtain ⟨-, hdh, hcap''⟩ := getCapability_eq_ok_iff.mp hget
  obtain rfl := (key_injective_of_length (keyed _ cap hcap'').symm rfl).2
  refine ⟨hd, hdh, hkey, ?_, ?_⟩
  · intro hinfix
    obtain ⟨d, h', heq, hlt⟩ := (Separated.infix_left_iff (h := cap.dhId.toList)
      separator_ne_nil).mp hinfix
    have shortest := first _ _ (getKey_eq_ofList heq)
    rw [String.length_ofList, ← String.length_toList] at shortest
    exact absurd hlt (Nat.not_lt.mpr shortest)
  · intro hinfix
    -- the later split is a lookup under another device id
    have rest : cap.dhId.toList ≠ [] := by simpa using ne_empty_of_isIdLengthValid hdh
    obtain ⟨d, h', heq, hlt, hne⟩ := (Separated.infix_right_iff (d := cap.deviceId.toList)
      separator_ne_nil rest).mp hinfix
    have longer : d.length ≠ cap.deviceId.length := by
      rw [← String.length_toList]
      omega
    have same : cap.deviceId = String.ofList d := by
      apply h.deviceId_of_key keyed hcap (getKey_eq_ofList heq) hkey
      · intro hempty
        rw [String.ofList_eq_empty_iff] at hempty
        simp [hempty] at hlt
      · rwa [Ne, String.ofList_eq_empty_iff]
    apply longer
    rw [same, ← String.length_toList, String.toList_ofList]

theorem lookupsAgree_iff (keyed : Keyed map) : LookupsAgree map ↔
    ∀ (key : String) (cap : CapabilityInfo), map[key]? = some cap → ReadsBack cap :=
  ⟨fun h _ _ hcap => h.readsBack keyed hcap, lookupsAgree_of_readsBack keyed⟩

/-- Every record that the operation stores, and does not itself take out or replace
again, has a key that can be read back in one way. -/
def storesReadBack (parse : String → Option CJson) (op : CacheOp) : Prop :=
  ∀ (key : String) (cap : CapabilityInfo), (cacheStep parse op ∅)[key]? = some cap → ReadsBack cap

theorem lookupsAgree_step_iff {op : CacheOp} (reach : (cacheSystem parse).Reachable map)
    (h : LookupsAgree map) : LookupsAgree (cacheStep parse op map) ↔ storesReadBack parse op := by
  rw [lookupsAgree_iff (keyed (reach.step (a := op) rfl))]
  rw [lookupsAgree_iff (keyed reach)] at h
  constructor
  · intro after key cap hcap
    exact after key cap ((keywise_cacheStep op).left map (by simp [readMap]) hcap)
  · intro stores key cap hcap
    obtain found | left := (keywise_cacheStep op).found_or_left ∅ hcap
    · exact h key cap found
    · exact stores key cap left

/-- Lookup and scan agree throughout exactly in the runs that store only records whose
keys can be read back in one way. -/
theorem lookupsAgree_iff_storesReadBack {acts : List CacheOp} :
    (cacheSystem parse).RunIn LookupsAgree acts map ↔
      (cacheSystem parse).Run (fun _ op => storesReadBack parse op) acts map := by
  apply TransitionSystem.runIn_iff_run
  · rintro _ rfl
    refine lookupsAgree_of_readsBack (fun key cap hcap => ?_) (fun key cap hcap => ?_) <;>
      simp at hcap
  · rintro map op _ reach h ⟨⟩
    exact lookupsAgree_step_iff reach h

end Agreement

section LongDhId

/-- A dhId of 190 bytes, on a device whose id is a SHA-256 in hex. -/
private def longCap : CapabilityInfo where
  dhId := String.ofList (List.replicate 190 'c')
  deviceId := "c965835a9a7187cd4dcd14805363f60cee6da56a4cadd5d74f07f47b40bbd40f"

/-- The record is found by its ids, the scan of its device does not return it, and it
stays when its device is cleared. -/
theorem exists_record_missed_by_scan :
    ∃ map, (cacheSystem (fun _ => none)).Reachable map ∧ ∃ deviceId dhId cap,
      cap.deviceId = deviceId ∧ getCapability map deviceId dhId = .ok cap ∧
      cap ∉ getCapabilitiesByDeviceId map deviceId [] ∧
      getCapability (removeCapabilityInfoInMem map deviceId).2 deviceId dhId = .ok cap := by
  let map := cacheStep (fun _ => none) (.addCapabilityInMem [some longCap]) ∅
  have stored : map[longCap.getKey]? = some longCap := Std.TreeMap.getElem?_insert_self
  have deviceId : isIdLengthValid longCap.deviceId = true := by decide +kernel
  have dhId : isIdLengthValid longCap.dhId = true := by decide +kernel
  have key : isIdLengthValid longCap.getKey = false := by decide +kernel
  have reach : (cacheSystem (fun _ => none)).Reachable map :=
    (TransitionSystem.Reachable.init rfl).step (a := .addCapabilityInMem [some longCap]) rfl
  refine ⟨map, reach, longCap.deviceId, longCap.dhId, longCap, rfl, ?_, ?_, ?_⟩
  · exact getCapability_eq_ok_iff.mpr ⟨deviceId, dhId, stored⟩
  · intro hmem
    obtain ⟨key', hcap, hmatch⟩ := mem_getCapabilitiesByDeviceId.mp hmem
    rw [← keyed reach key' longCap hcap, isCapKeyMatchDeviceId_iff] at hmatch
    exact absurd (key.symm.trans hmatch.1) Bool.false_ne_true
  · refine getCapability_eq_ok_iff.mpr ⟨deviceId, dhId, ?_⟩
    rw [getElem?_removeInMem deviceId, if_neg]
    · exact stored
    · rw [isCapKeyMatchDeviceId_iff]
      exact fun h => absurd (key.symm.trans h.1) Bool.false_ne_true

end LongDhId
end DistributedHardware
