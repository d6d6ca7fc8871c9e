import DistributedHardware.Resource.ChangeHandlers
import DistributedHardware.Component.Recover

/-!
What the meta store and the meta cache hold of a device that has logged out.

The store is distributed: a record was put on this device or synced from another one,
and `RemoveDeviceData` removes what came from one device. `MetaInfoManager` hands the
call on to its `DBAdapter` and leaves its own cache as it is.
-/

namespace DistributedHardware

/-- A record of the store, with the uuid of the device it was synced from. -/
structure SyncedEntry where
  value : String
  origin : Option String
  deriving DecidableEq

abbrev SyncedStore := Std.TreeMap String SyncedEntry compare

namespace SyncedStore

def getEntries (kvStore : SyncedStore) (keyPrefix : String) : List (String × SyncedEntry) :=
  kvStore.toList.filter (fun e => keyPrefix.toList.isPrefixOf e.1.toList)

def deleteBatch (kvStore : SyncedStore) (keys : List String) : SyncedStore :=
  kvStore.filter (fun key _ => !keys.contains key)

def removeDeviceData (kvStore : SyncedStore) (device : String) : SyncedStore :=
  kvStore.filter (fun _ e => e.origin != some device)

theorem getElem?_deleteBatch {kvStore : SyncedStore} {keys : List String} {key : String}
    {e : SyncedEntry} :
    (kvStore.deleteBatch keys)[key]? = some e ↔ kvStore[key]? = some e ∧ key ∉ keys := by
  simp [deleteBatch, Option.filter_eq_some_iff]

theorem getElem?_removeDeviceData {kvStore : SyncedStore} {device key : String}
    {e : SyncedEntry} :
    (kvStore.removeDeviceData device)[key]? = some e ↔
      kvStore[key]? = some e ∧ e.origin ≠ some device := by
  simp [removeDeviceData, Option.filter_eq_some_iff]

theorem mem_getEntries {kvStore : SyncedStore} {keyPrefix key : String} {e : SyncedEntry} :
    (key, e) ∈ kvStore.getEntries keyPrefix ↔
      kvStore[key]? = some e ∧ keyPrefix.toList <+: key.toList := by
  simp [getEntries, Std.TreeMap.mem_toList_iff_getElem?_eq_some]

/-- A record stands under the prefix. -/
def HasPrefix (kvStore : SyncedStore) (keyPrefix : String) : Prop :=
  ∃ (key : String) (e : SyncedEntry),
    kvStore[key]? = some e ∧ keyPrefix.toList <+: key.toList

/-- A record was synced from the device. -/
def HasDeviceData (kvStore : SyncedStore) (device : String) : Prop :=
  ∃ (key : String) (e : SyncedEntry), kvStore[key]? = some e ∧ e.origin = some device

theorem getEntries_eq_nil_iff {kvStore : SyncedStore} {keyPrefix : String} :
    kvStore.getEntries keyPrefix = [] ↔ ¬ kvStore.HasPrefix keyPrefix := by
  rw [List.eq_nil_iff_forall_not_mem]
  constructor
  · intro absent ⟨key, e, stored, pre⟩
    exact absent (key, e) (mem_getEntries.mpr ⟨stored, pre⟩)
  · intro absent ⟨key, e⟩ mem
    exact absent ⟨key, e, mem_getEntries.mp mem⟩

end SyncedStore

/-- What the call meets: whether the two pointers are set, and which store operations
return `SUCCESS`. -/
structure LogoutAnswers where
  dbAdapterPtr : Bool := true
  kvStoragePtr : Bool := true
  getEntries : Bool := true
  deleteBatch : Bool := true
  removeDeviceData : Bool := true

structure MetaInfoState where
  globalMetaInfoMap : MetaCapInfoMap
  kvStore : SyncedStore

section Logout
variable (sha256 : String → String) (answers : LogoutAnswers) (peerudid peeruuid : String)

/-- `DBAdapter::ClearDataWhenPeerLogout`. -/
def clearDataWhenPeerLogout (kvStore : SyncedStore) : Bool × SyncedStore :=
  if !answers.kvStoragePtr then (false, kvStore)
  else
    let udIdHash := sha256 peerudid
    let peerEntries := kvStore.getEntries udIdHash
    if !answers.getEntries || peerEntries.isEmpty then (false, kvStore)
    else
      let peerkeys := peerEntries.map Prod.fst
      if !answers.deleteBatch then (false, kvStore)
      else
        let kvStore := kvStore.deleteBatch peerkeys
        if !answers.removeDeviceData then (false, kvStore)
        else (true, kvStore.removeDeviceData peeruuid)

/-- `MetaInfoManager::ClearDataWhenPeerLogout`. -/
def metaClearDataWhenPeerLogout (s : MetaInfoState) : Int × MetaInfoState :=
  if !answers.dbAdapterPtr then (errDhFwkResourceDbAdapterPointerNull, s)
  else
    let (_, kvStore) := clearDataWhenPeerLogout sha256 answers peerudid peeruuid s.kvStore
    (dhFwkSuccess, { s with kvStore })

end Logout

/-- `MetaInfoManager::GetMetaCapInfo`. -/
def getMetaCapInfo (map : MetaCapInfoMap) (udidHash dhId : String) :
    Except Int MetaCapabilityInfo :=
  if !isHashSizeValid udidHash || !isIdLengthValid dhId then .error errDhFwkParaInvalid
  else
    match map[getCapabilityKey udidHash dhId]? with
    | none => .error errDhFwkResourceCapabilityMapNotFound
    | some metaCap => .ok metaCap

/-- The calls, other than syncs and notifications, that change `globalMetaInfoMap_`. -/
inductive MetaCall
  | addMetaCapInfos (metaCapInfos : List (Option MetaCapabilityInfo))
  | removeMetaInfoByKey (key : String)

/-- The cache after a call, whatever the DB answers. `MAX_KEY_SIZE` is `MAX_ID_LEN`. -/
def metaCallStep (map : MetaCapInfoMap) : MetaCall → MetaCapInfoMap
  | .addMetaCapInfos metaCapInfos =>
      if isHandledSize metaCapInfos then
        saveRecords MetaCapabilityInfo.getKey map metaCapInfos.reduceOption
      else map
  | .removeMetaInfoByKey key => if isIdLengthValid key then map.erase key else map

section Forgetting
variable (udidHash : String)

def MetaCapInfoMap.HasPeer (map : MetaCapInfoMap) : Prop :=
  ∃ (key : String) (metaCap : MetaCapabilityInfo),
    map[key]? = some metaCap ∧ metaCap.udidHash = udidHash

/-- The call brings no record of the device. -/
def MetaCall.Foreign : MetaCall → Prop
  | .addMetaCapInfos metaCapInfos =>
      ∀ metaCap ∈ metaCapInfos.reduceOption, metaCap.udidHash ≠ udidHash
  | .removeMetaInfoByKey _ => True

/-- No look-up returns a record of the device. -/
structure LookUpsHide (map : MetaCapInfoMap) : Prop where
  point : ∀ hash dhId metaCap, getMetaCapInfo map hash dhId = .ok metaCap →
    metaCap.udidHash ≠ udidHash
  scan : ∀ hash, ∀ metaCap ∈ getMetaCapInfosByUdidHash map hash [], metaCap.udidHash ≠ udidHash
  byType : ∀ (dhType : DhType) (key : String) (metaCap : MetaCapabilityInfo),
    (getMetaDataByDHType map dhType)[key]? = some metaCap → metaCap.udidHash ≠ udidHash

/-- Nothing of the device is stored, and no look-up returns a record of it after calls
that bring none. -/
structure ForgetsPeer (uuid : String) (s : MetaInfoState) : Prop where
  records : ¬ s.kvStore.HasPrefix udidHash
  deviceData : ¬ s.kvStore.HasDeviceData uuid
  lookUps : ∀ calls : List MetaCall, (∀ call ∈ calls, call.Foreign udidHash) →
    LookUpsHide udidHash (calls.foldl metaCallStep s.globalMetaInfoMap)

end Forgetting

section Cache
variable {udidHash : String} {map : MetaCapInfoMap}

theorem getElem?_of_getMetaCapInfo {hash dhId : String} {metaCap : MetaCapabilityInfo}
    (h : getMetaCapInfo map hash dhId = .ok metaCap) :
    map[getCapabilityKey hash dhId]? = some metaCap := by
  by_cases valid : (!isHashSizeValid hash || !isIdLengthValid dhId) = true
  · simp [getMetaCapInfo, valid] at h
  · cases hm : map[getCapabilityKey hash dhId]? with
    | none => simp [getMetaCapInfo, valid, hm] at h
    | some found => simpa [getMetaCapInfo, valid, hm] using h

theorem getElem?_of_mem_recordsOfDevice {hash : String} {metaCap : MetaCapabilityInfo}
    (h : metaCap ∈ recordsOfDevice map hash) : ∃ key : String, map[key]? = some metaCap := by
  obtain ⟨⟨key, found⟩, mem, hf⟩ := List.mem_filterMap.mp h
  have stored := Std.TreeMap.mem_toList_iff_getElem?_eq_some.mp mem
  by_cases hm : isCapKeyMatchDeviceId key hash = true
  · cases (if_pos hm).symm.trans hf
    exact ⟨key, stored⟩
  · cases (if_neg hm).symm.trans hf

theorem getElem?_getMetaDataByDHType {dhType : DhType} {key : String}
    {metaCap : MetaCapabilityInfo} :
    (getMetaDataByDHType map dhType)[key]? = some metaCap ↔
      map[key]? = some metaCap ∧ metaCap.dhType = dhType := by
  simp [getMetaDataByDHType, Option.filter_eq_some_iff]

/-- The look-up by type reaches every cached record. -/
theorem lookUpsHide_iff : LookUpsHide udidHash map ↔ ¬ map.HasPeer udidHash := by
  constructor
  · intro hides ⟨key, metaCap, cached, own⟩
    exact hides.byType metaCap.dhType key metaCap
      (getElem?_getMetaDataByDHType.mpr ⟨cached, rfl⟩) own
  · intro absent
    refine ⟨?_, ?_, ?_⟩
    · intro hash dhId metaCap found own
      exact absent ⟨_, metaCap, getElem?_of_getMetaCapInfo found, own⟩
    · intro hash metaCap mem own
      by_cases valid : isHashSizeValid hash = true
      · simp only [getMetaCapInfosByUdidHash, valid, Bool.not_true, Bool.false_eq_true, if_false,
          List.nil_append] at mem
        obtain ⟨key, cached⟩ := getElem?_of_mem_recordsOfDevice mem
        exact absent ⟨key, metaCap, cached, own⟩
      · simp [getMetaCapInfosByUdidHash, valid] at mem
    · intro dhType key metaCap found own
      exact absent ⟨key, metaCap, (getElem?_getMetaDataByDHType.mp found).1, own⟩

theorem not_hasPeer_metaCallStep {call : MetaCall} (foreign : call.Foreign udidHash)
    (absent : ¬ map.HasPeer udidHash) : ¬ (metaCallStep map call).HasPeer udidHash := by
  intro ⟨key, metaCap, cached, own⟩
  cases call with
  | addMetaCapInfos metaCapInfos =>
      by_cases handled : isHandledSize metaCapInfos = true
      · rw [metaCallStep, if_pos handled, getElem?_saveRecords, Option.or_eq_some_iff] at cached
        cases cached with
        | inl added => exact foreign metaCap (Writes.lastRecord_eq_some added).1 own
        | inr kept => exact absent ⟨key, metaCap, kept.2, own⟩
      · rw [metaCallStep, if_neg handled] at cached
        exact absent ⟨key, metaCap, cached, own⟩
  | removeMetaInfoByKey removed =>
      by_cases valid : isIdLengthValid removed = true
      · rw [metaCallStep, if_pos valid, Std.TreeMap.getElem?_erase] at cached
        by_cases same : compare removed key = .eq
        · rw [if_pos same] at cached
          cases cached
        · rw [if_neg same] at cached
          exact absent ⟨key, metaCap, cached, own⟩
      · rw [metaCallStep, if_neg valid] at cached
        exact absent ⟨key, metaCap, cached, own⟩

theorem not_hasPeer_calls {calls : List MetaCall} (foreign : ∀ call ∈ calls, call.Foreign udidHash)
    (absent : ¬ map.HasPeer udidHash) : ¬ (calls.foldl metaCallStep map).HasPeer udidHash := by
  induction calls generalizing map with
  | nil => exact absent
  | cons call calls ih =>
      rw [List.foldl_cons]
      apply ih (fun c mem => foreign c (List.mem_cons_of_mem _ mem))
      exact not_hasPeer_metaCallStep (foreign call List.mem_cons_self) absent

end Cache

section Succeeding
variable {sha256 : String → String} {udid uuid : String} {kvStore : SyncedStore}

theorem clearDataWhenPeerLogout_of_not_hasPrefix (absent : ¬ kvStore.HasPrefix (sha256 udid)) :
    clearDataWhenPeerLogout sha256 {} udid uuid kvStore = (false, kvStore) := by
  simp [clearDataWhenPeerLogout, SyncedStore.getEntries_eq_nil_iff.mpr absent]

/-- Where a record stands under the prefix, both kinds of data go. -/
theorem getElem?_clearDataWhenPeerLogout (present : kvStore.HasPrefix (sha256 udid)) {key : String}
    {e : SyncedEntry} :
    (clearDataWhenPeerLogout sha256 {} udid uuid kvStore).2[key]? = some e ↔
      kvStore[key]? = some e ∧ ¬ (sha256 udid).toList <+: key.toList ∧ e.origin ≠ some uuid := by
  have entries : (kvStore.getEntries (sha256 udid)).isEmpty = false := by
    rw [List.isEmpty_eq_false_iff, ne_eq, SyncedStore.getEntries_eq_nil_iff, not_not]
    exact present
  have cleared : (clearDataWhenPeerLogout sha256 {} udid uuid kvStore).2 =
      (kvStore.deleteBatch ((kvStore.getEntries (sha256 udid)).map Prod.fst)).removeDeviceData
        uuid := by
    simp [clearDataWhenPeerLogout, entries]
  have listed (stored : kvStore[key]? = some e) :
      key ∈ (kvStore.getEntries (sha256 udid)).map Prod.fst ↔
        (sha256 udid).toList <+: key.toList := by
    rw [List.mem_map]
    constructor
    · intro ⟨⟨_, _⟩, mem, same⟩
      cases same
      exact (SyncedStore.mem_getEntries.mp mem).2
    · intro pre
      exact ⟨(key, e), SyncedStore.mem_getEntries.mpr ⟨stored, pre⟩, rfl⟩
  rw [cleared, SyncedStore.getElem?_removeDeviceData, SyncedStore.getElem?_deleteBatch, and_assoc]
  exact and_congr_right (fun stored => and_congr_left' (not_congr (listed stored)))

theorem clearDataWhenPeerLogout_clears_iff :
    (¬ (clearDataWhenPeerLogout sha256 {} udid uuid kvStore).2.HasPrefix (sha256 udid) ∧
      ¬ (clearDataWhenPeerLogout sha256 {} udid uuid kvStore).2.HasDeviceData uuid) ↔
      (kvStore.HasDeviceData uuid → kvStore.HasPrefix (sha256 udid)) := by
  by_cases hp : kvStore.HasPrefix (sha256 udid)
  · refine iff_of_true ⟨?_, ?_⟩ (fun _ => hp)
    · intro ⟨key, e, stored, pre⟩
      exact ((getElem?_clearDataWhenPeerLogout hp).mp stored).2.1 pre
    · intro ⟨key, e, stored, synced⟩
      exact ((getElem?_clearDataWhenPeerLogout hp).mp stored).2.2 synced
  · rw [clearDataWhenPeerLogout_of_not_hasPrefix hp]
    constructor
    · intro gone device
      exact absurd device gone.2
    · intro found
      exact ⟨hp, fun device => hp (found device)⟩

/-- The call leaves the cache as it is. -/
theorem metaClearDataWhenPeerLogout_snd (sha256 : String → String) (udid uuid : String)
    (s : MetaInfoState) :
    (metaClearDataWhenPeerLogout sha256 {} udid uuid s).2 =
      { s with kvStore := (clearDataWhenPeerLogout sha256 {} udid uuid s.kvStore).2 } := rfl

/-- The peer is forgotten exactly if it has records under its prefix wherever it has
device data, and the cache held no record of it in the first place. -/
theorem logout_forgetsPeer_iff (sha256 : String → String) (udid uuid : String)
    (s : MetaInfoState) :
    ForgetsPeer (sha256 udid) uuid (metaClearDataWhenPeerLogout sha256 {} udid uuid s).2 ↔
      (s.kvStore.HasDeviceData uuid → s.kvStore.HasPrefix (sha256 udid)) ∧
        ¬ s.globalMetaInfoMap.HasPeer (sha256 udid) := by
  rw [metaClearDataWhenPeerLogout_snd, ← clearDataWhenPeerLogout_clears_iff]
  constructor
  · intro forgets
    refine ⟨⟨forgets.records, forgets.deviceData⟩, ?_⟩
    exact lookUpsHide_iff.mp (forgets.lookUps [] (fun _ mem => absurd mem List.not_mem_nil))
  · intro ⟨cleared, absent⟩
    refine ⟨cleared.1, cleared.2, ?_⟩
    intro calls foreign
    exact lookUpsHide_iff.mpr (not_hasPeer_calls foreign absent)

end Succeeding

section PeerData

/-- The digest of the udid below, in hexadecimal. -/
private def peerHash : String :=
  "2795465e7273fc2fbafbff220c9445b0c5f2064ae2fd981a97fe9a26a973891c"

private def peerCamera : MetaCapabilityInfo :=
  { dhId := "camera_0", udidHash := peerHash, dhType := DhType.camera }

private def onlyDeviceData : MetaInfoState where
  globalMetaInfoMap := ∅
  kvStore := (∅ : SyncedStore).insert "uuid_dev" { value := "v", origin := some "peer-uuid" }

private def cachedCamera : MetaInfoState where
  globalMetaInfoMap := (∅ : MetaCapInfoMap).insert peerCamera.getKey peerCamera
  kvStore := (∅ : SyncedStore).insert peerCamera.getKey { value := "v", origin := none }

/-- Device data without a record under the prefix stays, and so does a cached record
when both kinds have gone from the store. -/
theorem exists_peer_not_forgotten :
    ¬ ForgetsPeer peerHash "peer-uuid"
        (metaClearDataWhenPeerLogout (fun _ => peerHash) {} "peer-udid" "peer-uuid"
          onlyDeviceData).2 ∧
      ¬ ForgetsPeer peerHash "peer-uuid"
        (metaClearDataWhenPeerLogout (fun _ => peerHash) {} "peer-udid" "peer-uuid"
          cachedCamera).2 := by
  constructor
  · intro forgets
    apply forgets.deviceData
    exact ⟨"uuid_dev", { value := "v", origin := some "peer-uuid" }, by decide, rfl⟩
  · intro forgets
    have cached : cachedCamera.globalMetaInfoMap[peerCamera.getKey]? = some peerCamera :=
      Std.TreeMap.getElem?_insert_self
    rw [metaClearDataWhenPeerLogout_snd] at forgets
    have hides := forgets.lookUps [] (fun _ mem => absurd mem List.not_mem_nil)
    exact lookUpsHide_iff.mp hides ⟨_, _, cached, rfl⟩

end PeerData
end DistributedHardware
