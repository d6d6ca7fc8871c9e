import Mathlib.Data.Finset.Insert
import Mathlib.Data.List.ReduceOption
import DistributedHardware.Resource.DbAdapter
import DistributedHardware.Resource.Lookup

/-!
Plugging and unplugging of local hardware: the capability cache and the DB under
`PluginListenerImpl`.

Plugging writes a key of any length, unplugging removes only a key that is as short as
an id.
-/

namespace DistributedHardware

/-- `DHContext::GetDeviceInfo`, as far as a record takes it over. -/
structure DeviceInfo where
  deviceId : String
  deviceName : String
  deviceType : UInt16

structure CapabilityStores where
  globalCapInfoMap : CapabilityInfoMap := ∅
  db : KvStore := ∅

section Add
variable (parse : String → Option CJson) (printUnformatted : CJson → Option String)

/-- What the loop of `AddCapability` has saved and collected. -/
structure AddedRecords where
  globalCapInfoMap : CapabilityInfoMap
  keys : List String := []
  values : List String := []

/-- The DB has the same record already. -/
def isStored (db : KvStore) (resInfo : CapabilityInfo) : Bool :=
  match db.getDataByKey resInfo.getKey with
  | .ok data => isCapInfoJsonEqual parse data (resInfo.toJsonString printUnformatted)
  | .error _ => false

def addRecord (db : KvStore) (out : AddedRecords) (resInfo : CapabilityInfo) : AddedRecords :=
  let out := { out with globalCapInfoMap := out.globalCapInfoMap.insert resInfo.getKey resInfo }
  if isStored parse printUnformatted db resInfo then out
  else
    { out with
      keys := out.keys ++ [resInfo.getKey]
      values := out.values ++ [resInfo.toJsonString printUnformatted] }

/-- `CapabilityInfoManager::AddCapability`. A null pointer in `resInfos` is `none`. -/
def addCapability (resInfos : List (Option CapabilityInfo)) (s : CapabilityStores) :
    Int × CapabilityStores :=
  if !isHandledSize resInfos then (errDhFwkResourceResDbDataInvalid, s)
  else
    let out := resInfos.reduceOption.foldl (addRecord parse printUnformatted s.db)
      { globalCapInfoMap := s.globalCapInfoMap }
    if out.keys.isEmpty || out.values.isEmpty then
      (dhFwkSuccess, { s with globalCapInfoMap := out.globalCapInfoMap })
    else
      let (ret, db) := s.db.putDataBatch out.keys out.values
      (if ret ≠ dhFwkSuccess then errDhFwkResourceDbAdapterOperationFail else dhFwkSuccess,
        { globalCapInfoMap := out.globalCapInfoMap, db })

end Add

/-- `CapabilityInfoManager::RemoveCapabilityInfoByKey`. -/
def removeCapabilityInfoByKey (key : String) (s : CapabilityStores) : Int × CapabilityStores :=
  if !isIdLengthValid key then (errDhFwkParaInvalid, s)
  else
    let (ret, db) := s.db.removeDataByKey key
    (if ret ≠ dhFwkSuccess then errDhFwkResourceDbAdapterOperationFail else dhFwkSuccess,
      { globalCapInfoMap := s.globalCapInfoMap.erase key, db })

/-- The calls of a listener. The type is that of the component it is registered for. -/
inductive PlugCall
  | pluginHardware (dhType : DhType) (dhId attrs subtype : String)
  | unPluginHardware (dhId : String)

section Listener
variable (parse : String → Option CJson) (printUnformatted : CJson → Option String)
variable (info : DeviceInfo)

def pluginHardware (sleeping : Bool) (dhType : DhType) (dhId attrs subtype : String)
    (s : CapabilityStores) : CapabilityStores :=
  if !isIdLengthValid dhId || !isMessageLengthValid attrs then s
  else if sleeping then s
  else
    let dhCapabilityInfo : CapabilityInfo :=
      { dhId
        deviceId := info.deviceId
        deviceName := info.deviceName
        deviceType := info.deviceType
        dhType
        dhAttrs := attrs
        dhSubtype := subtype }
    (addCapability parse printUnformatted [some dhCapabilityInfo] s).2

def unPluginHardware (sleeping : Bool) (dhId : String) (s : CapabilityStores) :
    CapabilityStores :=
  if !isIdLengthValid dhId then s
  else if sleeping then s
  else
    match getCapability s.globalCapInfoMap info.deviceId dhId with
    | .error _ => s
    | .ok capability => (removeCapabilityInfoByKey capability.getKey s).2

/-- A call that passes the listener's own checks. -/
def PlugCall.isAccepted (sleeping : Bool) : PlugCall → Bool
  | .pluginHardware _ dhId attrs _ =>
      isIdLengthValid dhId && isMessageLengthValid attrs && !sleeping
  | .unPluginHardware dhId => isIdLengthValid dhId && !sleeping

/-- The stores, and beside them the dhIds plugged and not unplugged since. -/
structure PlugState extends CapabilityStores where
  plugged : Finset String := ∅

/-- A call, and whether the device is sleeping. -/
def plugStep (s : PlugState) (call : PlugCall × Bool) : PlugState :=
  match call.1 with
  | .pluginHardware dhType dhId attrs subtype =>
      { toCapabilityStores := pluginHardware parse printUnformatted info call.2 dhType dhId attrs
          subtype s.toCapabilityStores
        plugged := if call.1.isAccepted call.2 then insert dhId s.plugged else s.plugged }
  | .unPluginHardware dhId =>
      { toCapabilityStores := unPluginHardware info call.2 dhId s.toCapabilityStores
        plugged := if call.1.isAccepted call.2 then s.plugged.erase dhId else s.plugged }

def plugSystem : TransitionSystem PlugState (PlugCall × Bool) where
  init := fun s => s = {}
  step := fun s call => some (plugStep parse printUnformatted info s call)

/-- The dhIds of the local device in the cache and in the DB are the plugged ones. -/
structure BooksKept (s : PlugState) : Prop where
  cache : ∀ dhId, getCapabilityKey info.deviceId dhId ∈ s.globalCapInfoMap ↔ dhId ∈ s.plugged
  db : ∀ dhId, getCapabilityKey info.deviceId dhId ∈ s.db ↔ dhId ∈ s.plugged

/-- What is plugged is unplugged only under a device id and a key that pass as ids. -/
def unplugsRemovable (s : PlugState) (call : PlugCall × Bool) : Prop :=
  match call.1 with
  | .pluginHardware .. => True
  | .unPluginHardware dhId =>
      call.1.isAccepted call.2 = true → dhId ∈ s.plugged →
        isIdLengthValid info.deviceId = true ∧
          isIdLengthValid (getCapabilityKey info.deviceId dhId) = true

end Listener

/-- Under a device id of 64 bytes the key passes up to a dhId of 189 bytes. -/
theorem isIdLengthValid_key_iff {deviceId dhId : String} (hlen : deviceId.utf8ByteSize = 64) :
    isIdLengthValid (getCapabilityKey deviceId dhId) = true ↔ dhId.utf8ByteSize ≤ 189 := by
  have hsize : (getCapabilityKey deviceId dhId).utf8ByteSize = 67 + dhId.utf8ByteSize := by
    have hsep : resourceSeparator.utf8ByteSize = 3 := by decide
    rw [getCapabilityKey, String.utf8ByteSize_append, String.utf8ByteSize_append, hlen, hsep]
  have hne : getCapabilityKey deviceId dhId ≠ "" := by
    intro hempty
    rw [hempty, String.utf8ByteSize_empty] at hsize
    omega
  simp only [isIdLengthValid, bne_iff_ne, Bool.and_eq_true, decide_eq_true_eq, maxIdLen, hsize]
  constructor
  · omega
  · exact fun h => ⟨hne, by omega⟩

section Records
variable {parse : String → Option CJson} {printUnformatted : CJson → Option String}

variable (parse printUnformatted) in
/-- The records of an add that go to the DB. -/
def newRecords (db : KvStore) (records : List CapabilityInfo) : List CapabilityInfo :=
  records.filter (fun cap => !isStored parse printUnformatted db cap)

/-- The loop saves every record and collects those that the DB does not have. -/
theorem foldl_addRecord (db : KvStore) (records : List CapabilityInfo) (out : AddedRecords) :
    records.foldl (addRecord parse printUnformatted db) out =
      let fresh := newRecords parse printUnformatted db records
      { globalCapInfoMap := saveRecords CapabilityInfo.getKey out.globalCapInfoMap records
        keys := out.keys ++ fresh.map CapabilityInfo.getKey
        values := out.values ++ fresh.map (CapabilityInfo.toJsonString printUnformatted) } := by
  induction records generalizing out with
  | nil => simp [saveRecords, newRecords]
  | cons cap records ih =>
      rw [List.foldl_cons, ih]
      cases hstored : isStored parse printUnformatted db cap with
      | true => simp [addRecord, hstored, saveRecords, newRecords]
      | false => simp [addRecord, hstored, saveRecords, newRecords]

theorem mem_db_of_isStored {db : KvStore} {cap : CapabilityInfo}
    (h : isStored parse printUnformatted db cap = true) : cap.getKey ∈ db := by
  unfold isStored at h
  cases hdata : db.getDataByKey cap.getKey with
  | ok data => exact KvStore.mem_of_getDataByKey hdata
  | error code => simp [hdata] at h

/-- The cache takes every record of an add, as `cacheStep` has it. -/
theorem addCapability_cache (resInfos : List (Option CapabilityInfo)) (s : CapabilityStores) :
    (addCapability parse printUnformatted resInfos s).2.globalCapInfoMap =
      cacheStep parse (.addCapability resInfos) s.globalCapInfoMap := by
  cases handled : isHandledSize resInfos with
  | false => simp [addCapability, cacheStep, saveResInfos, handled]
  | true =>
      simp only [addCapability, cacheStep, saveResInfos, handled, foldl_addRecord, Bool.not_true,
        Bool.false_eq_true, if_false, if_true]
      split <;> rfl

/-- The DB has the keys of the added records, and those it had. -/
theorem mem_db_addCapability {resInfos : List (Option CapabilityInfo)} {s : CapabilityStores}
    (handled : isHandledSize resInfos = true) {key : String} :
    key ∈ (addCapability parse printUnformatted resInfos s).2.db ↔
      key ∈ resInfos.reduceOption.map CapabilityInfo.getKey ∨ key ∈ s.db := by
  have fits : resInfos.reduceOption.length ≤ maxArrSize :=
    (List.reduceOption_length_le resInfos).trans
      (of_decide_eq_true (Bool.and_eq_true_iff.mp handled).2)
  rw [← KvStore.mem_putFresh CapabilityInfo.getKey (CapabilityInfo.toJsonString printUnformatted)
    (isStored parse printUnformatted s.db) (fun _ => mem_db_of_isStored) fits]
  simp only [addCapability, handled, foldl_addRecord, newRecords, Bool.not_true,
    Bool.false_eq_true, if_false, List.nil_append, List.isEmpty_map, Bool.or_self]
  split <;> rfl

end Records
section Listener
variable (parse : String → Option CJson) (printUnformatted : CJson → Option String)
variable (info : DeviceInfo) {sleeping : Bool} {dhId : String} {dhType : DhType}
variable {attrs subtype : String}

theorem getCapabilityKey_inj {deviceId other : String} :
    getCapabilityKey deviceId dhId = getCapabilityKey deviceId other ↔ dhId = other := by
  simp [getCapabilityKey]

theorem pluginHardware_rejected
    (h : PlugCall.isAccepted sleeping (.pluginHardware dhType dhId attrs subtype) = false)
    (s : CapabilityStores) :
    pluginHardware parse printUnformatted info sleeping dhType dhId attrs subtype s = s := by
  unfold pluginHardware
  split
  case isTrue => rfl
  case isFalse valid =>
    split
    case isTrue => rfl
    case isFalse awake =>
      rw [Bool.or_eq_true, not_or] at valid
      simp_all [PlugCall.isAccepted]

/-- A plugging that is accepted adds one record under the key of its dhId. -/
theorem pluginHardware_accepted
    (h : PlugCall.isAccepted sleeping (.pluginHardware dhType dhId attrs subtype) = true)
    (s : CapabilityStores) : ∃ cap : CapabilityInfo,
      cap.getKey = getCapabilityKey info.deviceId dhId ∧
        pluginHardware parse printUnformatted info sleeping dhType dhId attrs subtype s =
          (addCapability parse printUnformatted [some cap] s).2 := by
  simp only [PlugCall.isAccepted, Bool.and_eq_true, Bool.not_eq_true'] at h
  refine ⟨{ dhId, deviceId := info.deviceId, deviceName := info.deviceName,
            deviceType := info.deviceType, dhType, dhAttrs := attrs, dhSubtype := subtype },
    rfl, ?_⟩
  simp [pluginHardware, h]

theorem unPluginHardware_rejected
    (h : PlugCall.isAccepted sleeping (.unPluginHardware dhId) = false) (s : CapabilityStores) :
    unPluginHardware info sleeping dhId s = s := by
  unfold unPluginHardware
  split
  case isTrue => rfl
  case isFalse valid =>
    split
    case isTrue => rfl
    case isFalse awake => simp_all [PlugCall.isAccepted]

/-- An unplugging that is accepted removes the record it finds. -/
theorem unPluginHardware_accepted
    (h : PlugCall.isAccepted sleeping (.unPluginHardware dhId) = true) (s : CapabilityStores) :
    unPluginHardware info sleeping dhId s =
      match getCapability s.globalCapInfoMap info.deviceId dhId with
      | .error _ => s
      | .ok capability => (removeCapabilityInfoByKey capability.getKey s).2 := by
  simp only [PlugCall.isAccepted, Bool.and_eq_true, Bool.not_eq_true'] at h
  simp [unPluginHardware, h]

theorem removeCapabilityInfoByKey_cache (key : String) (s : CapabilityStores) :
    (removeCapabilityInfoByKey key s).2.globalCapInfoMap =
      cacheStep parse (.removeCapabilityInfoByKey key) s.globalCapInfoMap := by
  cases valid : isIdLengthValid key with
  | true => simp [removeCapabilityInfoByKey, cacheStep, valid]
  | false => simp [removeCapabilityInfoByKey, cacheStep, valid]

variable {parse printUnformatted info}

/-- The cache of the listener's runs is one of `cacheSystem`'s. -/
theorem reachable_cache {s : PlugState}
    (h : (plugSystem parse printUnformatted info).Reachable s) :
    (cacheSystem parse).Reachable s.globalCapInfoMap := by
  refine h.invariant (I := fun s => (cacheSystem parse).Reachable s.globalCapInfoMap) ?_ ?_
  · rintro _ rfl
    exact .init rfl
  · rintro s ⟨call, sleeping⟩ _ reach ⟨⟩
    cases call with
    | pluginHardware dhType dhId attrs subtype =>
        simp only [plugStep]
        cases accepted :
          PlugCall.isAccepted sleeping (.pluginHardware dhType dhId attrs subtype) with
        | false => rwa [pluginHardware_rejected parse printUnformatted info accepted]
        | true =>
            obtain ⟨cap, -, heq⟩ := pluginHardware_accepted parse printUnformatted info accepted
              s.toCapabilityStores
            rw [heq, addCapability_cache]
            exact reach.step rfl
    | unPluginHardware dhId =>
        simp only [plugStep]
        cases accepted : PlugCall.isAccepted sleeping (.unPluginHardware dhId) with
        | false => rwa [unPluginHardware_rejected info accepted]
        | true =>
            rw [unPluginHardware_accepted info accepted]
            cases getCapability s.globalCapInfoMap info.deviceId dhId with
            | error code => exact reach
            | ok capability =>
                simp only [removeCapabilityInfoByKey_cache parse]
                exact reach.step rfl

end Listener

section Books
variable {parse : String → Option CJson} {printUnformatted : CJson → Option String}
variable {info : DeviceInfo} {s : PlugState} {sleeping : Bool} {dhId : String}

theorem booksKept_plug (h : BooksKept info s) (dhType : DhType) (attrs subtype : String) :
    BooksKept info (plugStep parse printUnformatted info s
      (.pluginHardware dhType dhId attrs subtype, sleeping)) := by
  cases accepted : PlugCall.isAccepted sleeping (.pluginHardware dhType dhId attrs subtype) with
  | false =>
      have same := pluginHardware_rejected parse printUnformatted info accepted
        s.toCapabilityStores
      simp only [plugStep, accepted, same, Bool.false_eq_true, if_false]
      exact h
  | true =>
      obtain ⟨cap, hkey, heq⟩ := pluginHardware_accepted parse printUnformatted info accepted
        s.toCapabilityStores
      have keys : [some cap].reduceOption.map CapabilityInfo.getKey =
          [getCapabilityKey info.deviceId dhId] := congrArg (fun key => [key]) hkey
      simp only [plugStep, accepted, heq, if_true]
      constructor
      case cache =>
        intro other
        have saved : cacheStep parse (.addCapability [some cap]) s.globalCapInfoMap =
            s.globalCapInfoMap.insert (getCapabilityKey info.deviceId dhId) cap := by
          rw [← hkey]
          rfl
        rw [addCapability_cache, saved, Std.TreeMap.mem_insert, Finset.mem_insert, h.cache other,
          Std.LawfulEqCmp.compare_eq_iff_eq, getCapabilityKey_inj, eq_comm]
      case db =>
        intro other
        rw [mem_db_addCapability rfl, keys, List.mem_singleton, Finset.mem_insert, h.db other,
          getCapabilityKey_inj]

/-- The unplugging of a dhId that is not plugged finds nothing. -/
theorem getCapability_not_plugged (h : BooksKept info s) (absent : dhId ∉ s.plugged) :
    ∃ code, getCapability s.globalCapInfoMap info.deviceId dhId = .error code := by
  have missing := (h.cache dhId).not.mpr absent
  cases hget : getCapability s.globalCapInfoMap info.deviceId dhId with
  | error code => exact ⟨code, rfl⟩
  | ok cap =>
      have hcap := (getCapability_eq_ok_iff.mp hget).2.2
      exact absurd (Std.TreeMap.mem_iff_isSome_getElem?.mpr (by simp [hcap])) missing

/-- What cannot be removed stays where it is. -/
theorem unPluginHardware_irremovable
    (reach : (plugSystem parse printUnformatted info).Reachable s)
    (irremovable : ¬ (isIdLengthValid info.deviceId = true ∧
      isIdLengthValid (getCapabilityKey info.deviceId dhId) = true)) :
    unPluginHardware info sleeping dhId s.toCapabilityStores = s.toCapabilityStores := by
  cases accepted : PlugCall.isAccepted sleeping (.unPluginHardware dhId) with
  | false => exact unPluginHardware_rejected info accepted _
  | true =>
      rw [unPluginHardware_accepted info accepted]
      cases hget : getCapability s.globalCapInfoMap info.deviceId dhId with
      | error code => rfl
      | ok cap =>
          obtain ⟨validDevice, -, hcap⟩ := getCapability_eq_ok_iff.mp hget
          have hkey := keyed (reachable_cache reach) _ cap hcap
          have tooLong : isIdLengthValid cap.getKey = false := by
            rw [hkey]
            simpa [validDevice] using irremovable
          simp only [removeCapabilityInfoByKey, tooLong]
          rfl

/-- The unplugging of a plugged dhId keeps the books exactly where it can be removed. -/
theorem booksKept_unplug_iff (h : BooksKept info s)
    (reach : (plugSystem parse printUnformatted info).Reachable s)
    (accepted : PlugCall.isAccepted sleeping (.unPluginHardware dhId) = true)
    (plugged : dhId ∈ s.plugged) :
    BooksKept info (plugStep parse printUnformatted info s (.unPluginHardware dhId, sleeping)) ↔
      isIdLengthValid info.deviceId = true ∧
        isIdLengthValid (getCapabilityKey info.deviceId dhId) = true := by
  have present := (h.cache dhId).mpr plugged
  have validId : isIdLengthValid dhId = true := (Bool.and_eq_true_iff.mp accepted).1
  simp only [plugStep, accepted, unPluginHardware_accepted info accepted, if_true]
  constructor
  · intro kept
    by_contra irremovable
    rw [← unPluginHardware_accepted info accepted, unPluginHardware_irremovable reach irremovable]
      at kept
    exact Finset.notMem_erase dhId s.plugged ((kept.cache dhId).mp present)
  · rintro ⟨validDevice, validKey⟩
    obtain ⟨cap, hcap⟩ := Option.isSome_iff_exists.mp
      (Std.TreeMap.mem_iff_isSome_getElem?.mp present)
    have hkey := keyed (reachable_cache reach) _ cap hcap
    rw [getCapability_eq_ok_iff.mpr ⟨validDevice, validId, hcap⟩]
    simp only [removeCapabilityInfoByKey, hkey, validKey]
    constructor
    case cache =>
      intro other
      show _ ∈ s.globalCapInfoMap.erase _ ↔ _
      rw [Std.TreeMap.mem_erase, h.cache other, Finset.mem_erase, ne_eq,
        Std.LawfulEqCmp.compare_eq_iff_eq, getCapabilityKey_inj, eq_comm]
    case db =>
      intro other
      show _ ∈ (s.db.removeDataByKey _).2 ↔ _
      rw [KvStore.mem_removeDataByKey validKey, h.db other, Finset.mem_erase, ne_eq,
        getCapabilityKey_inj]

theorem booksKept_step_iff (h : BooksKept info s)
    (reach : (plugSystem parse printUnformatted info).Reachable s) (call : PlugCall × Bool) :
    BooksKept info (plugStep parse printUnformatted info s call) ↔
      unplugsRemovable info s call := by
  obtain ⟨call, sleeping⟩ := call
  cases call with
  | pluginHardware dhType dhId attrs subtype =>
      exact iff_of_true (booksKept_plug h dhType attrs subtype) trivial
  | unPluginHardware dhId =>
      simp only [unplugsRemovable]
      cases accepted : PlugCall.isAccepted sleeping (.unPluginHardware dhId) with
      | false =>
          refine iff_of_true ?_ (fun h => by cases h)
          simp only [plugStep, accepted, unPluginHardware_rejected info accepted,
            Bool.false_eq_true, if_false]
          exact h
      | true =>
          by_cases plugged : dhId ∈ s.plugged
          · rw [booksKept_unplug_iff h reach accepted plugged]
            exact ⟨fun removable _ _ => removable, fun removable => removable rfl plugged⟩
          · refine iff_of_true ?_ (fun _ hplugged => absurd hplugged plugged)
            obtain ⟨code, hget⟩ := getCapability_not_plugged h plugged
            simp only [plugStep, accepted, unPluginHardware_accepted info accepted, hget, if_true,
              Finset.erase_eq_of_notMem plugged]
            exact h

/-- The books are kept throughout exactly in the runs that unplug only what can be
removed. -/
theorem booksKept_iff_unplugsRemovable {acts : List (PlugCall × Bool)} :
    (plugSystem parse printUnformatted info).RunIn (BooksKept info) acts s ↔
      (plugSystem parse printUnformatted info).Run (unplugsRemovable info) acts s := by
  apply TransitionSystem.runIn_iff_run
  · rintro _ rfl
    constructor <;> simp
  · rintro s call _ reach h ⟨⟩
    exact booksKept_step_iff h reach call

/-- A dhId that is plugged and cannot be removed is left in both stores. -/
theorem unplugged_left {attrs : String}
    (plug : PlugCall.isAccepted false (.pluginHardware DhType.audio dhId attrs "mic") = true)
    (unplug : PlugCall.isAccepted false (.unPluginHardware dhId) = true)
    (irremovable : ¬ isIdLengthValid (getCapabilityKey info.deviceId dhId) = true) :
    ∃ s, (plugSystem parse printUnformatted info).Reachable s ∧ dhId ∉ s.plugged ∧
      getCapabilityKey info.deviceId dhId ∈ s.globalCapInfoMap ∧
      getCapabilityKey info.deviceId dhId ∈ s.db := by
  let s := plugStep parse printUnformatted info {}
    (.pluginHardware DhType.audio dhId attrs "mic", false)
  have reach : (plugSystem parse printUnformatted info).Reachable s :=
    (TransitionSystem.Reachable.init rfl).step
      (a := (.pluginHardware DhType.audio dhId attrs "mic", false)) rfl
  have kept : BooksKept info s := booksKept_plug (by constructor <;> simp) DhType.audio attrs "mic"
  have plugged : dhId ∈ s.plugged := by
    simp only [s, plugStep, plug, if_true]
    exact Finset.mem_insert_self _ _
  have same : unPluginHardware info false dhId s.toCapabilityStores = s.toCapabilityStores :=
    unPluginHardware_irremovable reach (fun h => irremovable h.2)
  refine ⟨_, reach.step (a := (.unPluginHardware dhId, false)) rfl, ?_, ?_, ?_⟩
  · simp only [plugStep, unplug, if_true]
    exact Finset.notMem_erase _ _
  · simp only [plugStep, same]
    exact (kept.cache dhId).mpr plugged
  · simp only [plugStep, same]
    exact (kept.db dhId).mpr plugged

end Books

section LongDhId

/-- A device whose id is a SHA-256 in hex. -/
private def localDevice : DeviceInfo where
  deviceId := "c965835a9a7187cd4dcd14805363f60cee6da56a4cadd5d74f07f47b40bbd40f"
  deviceName := "device"
  deviceType := 0x0E

private def unpluggedId : String := String.ofList (List.replicate 190 'c')

/-- A dhId of 190 bytes is plugged and unplugged, and stays in the cache and in the DB,
whatever the records' texts are. -/
theorem exists_unplugged_left : ∃ info dhId, ∀ parse printUnformatted, ∃ s,
    (plugSystem parse printUnformatted info).Reachable s ∧ dhId ∉ s.plugged ∧
      getCapabilityKey info.deviceId dhId ∈ s.globalCapInfoMap ∧
      getCapabilityKey info.deviceId dhId ∈ s.db := by
  have plug : PlugCall.isAccepted false
      (.pluginHardware DhType.audio unpluggedId "attrs" "mic") = true := by decide +kernel
  have unplug : PlugCall.isAccepted false (.unPluginHardware unpluggedId) = true := by
    decide +kernel
  have irremovable :
      ¬ isIdLengthValid (getCapabilityKey localDevice.deviceId unpluggedId) = true := by
    rw [isIdLengthValid_key_iff (by decide +kernel)]
    decide +kernel
  exact ⟨localDevice, unpluggedId, fun _ _ => unplugged_left plug unplug irremovable⟩

end LongDhId
end DistributedHardware
