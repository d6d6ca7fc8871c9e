import DistributedHardware.Resource.PluginListener

/-!
`LocalHardwareManager::Init` over the stores that a previous run has left.

The components are queried in the order of their types, each up to three times. The
records that are gone are removed in the branch of a query that found some, from the
capability store; the records found are added to both stores in the end.
-/

namespace DistributedHardware

namespace DhType
def input : DhType := 0x20
end DhType

/-- `DHTypePrefixMap`. -/
def dhTypePrefix (dhType : DhType) : Option String :=
  if dhType = DhType.camera then some "Camera"
  else if dhType = DhType.screen then some "Screen"
  else if dhType = DhType.input then some "Input"
  else none

structure DHItem where
  dhId : String
  attrs : String := ""
  subtype : String := ""
  deriving DecidableEq

/-- What a component answers: whether its handler loads and starts, and what each call of
`Query` returns. -/
structure LocalComponent where
  handler : Bool := true
  started : Bool := true
  query : Nat → List DHItem

/-- `DHContext::GetDeviceInfo` with the udid hash of the meta records. -/
structure LocalDevice extends DeviceInfo where
  udidHash : String

structure MetaStores where
  globalMetaInfoMap : MetaCapInfoMap := ∅
  db : KvStore := ∅

structure LocalHardwareState where
  localDHItemsMap : Std.TreeMap DhType (List DHItem) := ∅
  caps : CapabilityStores := {}
  metas : MetaStores := {}

def queryRetryMaxTimes : Nat := 3

/-- The loop of `QueryLocalHardware`: it ends with the first answer that is not empty. -/
def queryRetry (query : Nat → List DHItem) : Nat → Nat → List DHItem
  | 0, _ => []
  | retryTimes + 1, call =>
      if query call = [] then queryRetry query retryTimes (call + 1) else query call

/-- What the last call of `Query` has returned. -/
def LocalComponent.lastQuery (c : LocalComponent) : List DHItem :=
  queryRetry c.query queryRetryMaxTimes 0

def LocalComponent.dhIds (c : LocalComponent) : List String := c.lastQuery.map DHItem.dhId

def KvStore.getDataByKeyPrefix (db : KvStore) (keyPrefix : String) : Except Int (List String) :=
  let allEntries := db.toList.filter (fun e => keyPrefix.toList.isPrefixOf e.1.toList)
  if allEntries.isEmpty || allEntries.length > maxDbRecordSize then
    .error errDhFwkResourceResDbDataInvalid
  else .ok (allEntries.map Prod.snd)

def MetaCapabilityInfo.toJson (cap : MetaCapabilityInfo) : CJson :=
  .object [
    ("dh_id", .string cap.dhId), ("dev_id", .string cap.deviceId),
    ("dev_name", .string cap.deviceName), ("dev_type", .number cap.deviceType.toNat),
    ("dh_type", .number cap.dhType.toNat), ("dh_attrs", .string cap.dhAttrs),
    ("dh_subtype", .string cap.dhSubtype), ("udid_hash", .string cap.udidHash),
    ("sink_ver", .string cap.sinkVersion)]

def MetaCapabilityInfo.toJsonString (printUnformatted : CJson → Option String)
    (cap : MetaCapabilityInfo) : String :=
  (printUnformatted cap.cStr.toJson).getD ""

section AddMeta
variable (printUnformatted : CJson → Option String)

/-- What the loop of `AddMetaCapInfos` has saved and collected. -/
structure AddedMetas where
  globalMetaInfoMap : MetaCapInfoMap
  keys : List String := []
  values : List String := []

/-- The DB has the same text already. -/
def isMetaStored (db : KvStore) (metaCapInfo : MetaCapabilityInfo) : Bool :=
  match db.getDataByKey metaCapInfo.getKey with
  | .ok data => data = metaCapInfo.toJsonString printUnformatted
  | .error _ => false

def addMetaRecord (db : KvStore) (out : AddedMetas) (metaCapInfo : MetaCapabilityInfo) :
    AddedMetas :=
  let out := { out with
    globalMetaInfoMap := out.globalMetaInfoMap.insert metaCapInfo.getKey metaCapInfo }
  if isMetaStored printUnformatted db metaCapInfo then out
  else
    { out with
      keys := out.keys ++ [metaCapInfo.getKey]
      values := out.values ++ [metaCapInfo.toJsonString printUnformatted] }

/-- `MetaInfoManager::AddMetaCapInfos`. -/
def addMetaCapInfos (metaCapInfos : List MetaCapabilityInfo) (s : MetaStores) :
    Int × MetaStores :=
  if !isHandledSize metaCapInfos then (errDhFwkResourceResDbDataInvalid, s)
  else
    let out := metaCapInfos.foldl (addMetaRecord printUnformatted s.db)
      { globalMetaInfoMap := s.globalMetaInfoMap }
    if out.keys.isEmpty || out.values.isEmpty then
      (dhFwkSuccess, { s with globalMetaInfoMap := out.globalMetaInfoMap })
    else
      let (ret, db) := s.db.putDataBatch out.keys out.values
      (if ret ≠ dhFwkSuccess then errDhFwkResourceDbAdapterOperationFail else dhFwkSuccess,
        { globalMetaInfoMap := out.globalMetaInfoMap, db })

end AddMeta

section Init
variable (parse : String → Option CJson) (printUnformatted : CJson → Option String)
variable (device : LocalDevice) (sinkVersion : DhType → String)

/-- `CapabilityInfoManager::GetDataByKeyPrefix` with an empty map. -/
def capabilitiesByKeyPrefix (db : KvStore) (keyPrefix : String) : CapabilityInfoMap :=
  if !isIdLengthValid keyPrefix then ∅
  else
    match db.getDataByKeyPrefix keyPrefix with
    | .error _ => ∅
    | .ok dataVector =>
        if !isHandledSize dataVector then ∅
        else saveRecords CapabilityInfo.getKey ∅ (decodeRecords parse dataVector)

def getLocalCapabilityMapByPrefix (dhType : DhType) (db : KvStore) : CapabilityInfoMap :=
  if !isIdLengthValid device.deviceId then ∅
  else
    match dhTypePrefix dhType with
    | none => ∅
    | some keyPrefix =>
        capabilitiesByKeyPrefix parse db (device.deviceId ++ resourceSeparator ++ keyPrefix)

def checkNonExistCapabilityInfo (dhItems : List DHItem) (dhType : DhType)
    (s : CapabilityStores) : CapabilityStores :=
  if dhType ≠ DhType.input then s
  else
    (getLocalCapabilityMapByPrefix parse device dhType s.db).toList.foldl
      (fun s e =>
        if dhItems.any (fun dhItem => e.2.dhId == dhItem.dhId) then s
        else (removeCapabilityInfoByKey e.2.getKey s).2) s

def queryLocalHardware (dhType : DhType) (c : LocalComponent) (s : LocalHardwareState) :
    LocalHardwareState :=
  let dhItems := c.lastQuery
  if dhItems = [] then s
  else
    { s with
      localDHItemsMap := s.localDHItemsMap.insert dhType dhItems
      caps := checkNonExistCapabilityInfo parse device dhItems dhType s.caps }

/-- One component of the loop of `Init`. -/
def initComponent (s : LocalHardwareState) (e : DhType × LocalComponent) : LocalHardwareState :=
  if !e.2.handler then s
  else if !e.2.started then s
  else queryLocalHardware parse device e.1 e.2 s

def addLocalCapabilityInfo (dhItems : List DHItem) (dhType : DhType) : List CapabilityInfo :=
  dhItems.map (fun dhItem =>
    { dhId := dhItem.dhId
      deviceId := device.deviceId
      deviceName := device.deviceName
      deviceType := device.deviceType
      dhType
      dhAttrs := dhItem.attrs
      dhSubtype := dhItem.subtype })

def addLocalMetaCapInfo (dhItems : List DHItem) (dhType : DhType) : List MetaCapabilityInfo :=
  dhItems.map (fun dhItem =>
    { dhId := dhItem.dhId
      deviceId := device.deviceId
      deviceName := device.deviceName
      deviceType := device.deviceType
      dhType
      dhAttrs := dhItem.attrs
      dhSubtype := dhItem.subtype
      udidHash := device.udidHash
      sinkVersion := sinkVersion dhType })

/-- `LocalHardwareManager::Init`. -/
def localHardwareInit (components : Std.TreeMap DhType LocalComponent) (s : LocalHardwareState) :
    LocalHardwareState :=
  let s := components.toList.foldl (initComponent parse device) { s with localDHItemsMap := ∅ }
  let capabilityInfos := s.localDHItemsMap.toList.flatMap (fun e =>
    addLocalCapabilityInfo device e.2 e.1)
  let metaCapInfos := s.localDHItemsMap.toList.flatMap (fun e =>
    addLocalMetaCapInfo device sinkVersion e.2 e.1)
  { s with
    caps := (addCapability parse printUnformatted (capabilityInfos.map some) s.caps).2
    metas := (addMetaCapInfos printUnformatted metaCapInfos s.metas).2 }

end Init

/-- What a previous run has left; the maps of the new process are empty. -/
def restarted (db metaDb : KvStore) : LocalHardwareState where
  caps := { db }
  metas := { db := metaDb }

/-- The key of an `INPUT` record: the owner's id, the separator and the type's prefix. -/
def InputKey (owner key : String) : Prop :=
  (owner ++ resourceSeparator ++ "Input").toList <+: key.toList

/-- The `INPUT` records of an owner are exactly those of the dhIds. -/
structure InputExact (owner : String) (dhIds : List String) (stored : String → Prop) : Prop where
  present : ∀ dhId ∈ dhIds, stored (getCapabilityKey owner dhId)
  only : ∀ key, InputKey owner key → stored key → key ∈ dhIds.map (getCapabilityKey owner)

/-- The same of the map and the DB of both managers. -/
structure LocalInputExact (device : LocalDevice) (dhIds : List String) (s : LocalHardwareState) :
    Prop where
  cache : InputExact device.deviceId dhIds (· ∈ s.caps.globalCapInfoMap)
  db : InputExact device.deviceId dhIds (· ∈ s.caps.db)
  metaCache : InputExact device.udidHash dhIds (· ∈ s.metas.globalMetaInfoMap)
  metaDb : InputExact device.udidHash dhIds (· ∈ s.metas.db)

/-- The component takes part in `Init` and has found hardware. -/
def LocalComponent.answers (c : LocalComponent) : Bool :=
  c.handler && c.started && !c.lastQuery.isEmpty

/-- `localDHItemsMap_` after the queries. -/
def localDHItems (components : Std.TreeMap DhType LocalComponent) :
    Std.TreeMap DhType (List DHItem) :=
  components.toList.foldl (fun m e => if e.2.answers then m.insert e.1 e.2.lastQuery else m) ∅

/-- The dhIds of all components, in the order of their types. -/
def foundIds (components : Std.TreeMap DhType LocalComponent) : List String :=
  (localDHItems components).toList.flatMap (fun e => e.2.map DHItem.dhId)

section Condition
variable (parse : String → Option CJson) (device : LocalDevice)

/-- The record under a key is read by the look-up of the local device's `INPUT` records and
is of a dhId that was not found, and its key can be removed. -/
def Swept (c : LocalComponent) (db : KvStore) (key : String) : Prop :=
  c.lastQuery ≠ [] ∧ isIdLengthValid key = true ∧
    ∃ cap, (getLocalCapabilityMapByPrefix parse device DhType.input db)[key]? = some cap ∧
      cap.dhId ∉ c.dhIds

/-- What is left is found again or swept, the meta store has only what is found again, and
what all components have found fits and has no `INPUT` dhId of another component. -/
structure CleansUp (components : Std.TreeMap DhType LocalComponent) (c : LocalComponent)
    (db metaDb : KvStore) : Prop where
  swept : ∀ key ∈ db, InputKey device.deviceId key →
    key ∈ c.dhIds.map (getCapabilityKey device.deviceId) ∨ Swept parse device c db key
  metas : ∀ key ∈ metaDb, InputKey device.udidHash key →
    key ∈ c.dhIds.map (getCapabilityKey device.udidHash)
  room : c.lastQuery = [] ∨ (foundIds components).length ≤ maxDbRecordSize
  apart : (foundIds components).length ≤ maxDbRecordSize → ∀ dhId ∈ foundIds components,
    "Input".toList <+: dhId.toList → dhId ∈ c.dhIds

end Condition

section Sweep

theorem mem_removeCapabilityInfoByKey {removed key : String} {s : CapabilityStores} :
    (key ∈ (removeCapabilityInfoByKey removed s).2.globalCapInfoMap ↔
      key ∈ s.globalCapInfoMap ∧ (key = removed → isIdLengthValid key = false)) ∧
    (key ∈ (removeCapabilityInfoByKey removed s).2.db ↔
      key ∈ s.db ∧ (key = removed → isIdLengthValid key = false)) := by
  cases valid : isIdLengthValid removed with
  | false =>
      have kept : (removeCapabilityInfoByKey removed s).2 = s := by
        simp only [removeCapabilityInfoByKey, valid, Bool.not_false, if_true]
      have vacuous : key = removed → isIdLengthValid key = false := by
        rintro rfl
        exact valid
      rw [kept]
      exact ⟨(and_iff_left vacuous).symm, (and_iff_left vacuous).symm⟩
  | true =>
      have other : (key = removed → isIdLengthValid key = false) ↔ key ≠ removed := by
        constructor
        · rintro h rfl
          exact absurd (h rfl) (by simp [valid])
        · exact fun ne heq => absurd heq ne
      rw [other]
      constructor
      · simp only [removeCapabilityInfoByKey, valid, Bool.not_true, Bool.false_eq_true, if_false]
        rw [Std.TreeMap.mem_erase, ne_eq, Std.LawfulEqCmp.compare_eq_iff_eq, and_comm, eq_comm]
      · simp only [removeCapabilityInfoByKey, valid, Bool.not_true, Bool.false_eq_true, if_false]
        rw [KvStore.mem_removeDataByKey valid, and_comm]

theorem mem_foldl_removeCapabilityInfoByKey {key : String} (keys : List String)
    (s : CapabilityStores) :
    (key ∈ (keys.foldl (fun s k => (removeCapabilityInfoByKey k s).2) s).globalCapInfoMap ↔
      key ∈ s.globalCapInfoMap ∧ (key ∈ keys → isIdLengthValid key = false)) ∧
    (key ∈ (keys.foldl (fun s k => (removeCapabilityInfoByKey k s).2) s).db ↔
      key ∈ s.db ∧ (key ∈ keys → isIdLengthValid key = false)) := by
  induction keys generalizing s with
  | nil => simp
  | cons k keys ih =>
      obtain ⟨cache, db⟩ := ih (removeCapabilityInfoByKey k s).2
      rw [List.foldl_cons, cache, db, mem_removeCapabilityInfoByKey.1,
        mem_removeCapabilityInfoByKey.2, List.mem_cons, or_imp, and_assoc, and_assoc]
      exact ⟨Iff.rfl, Iff.rfl⟩

variable {parse : String → Option CJson} {device : LocalDevice}

variable (parse device) in
/-- The look-up gives what it reads under its own keys. -/
theorem exists_looked (dhType : DhType) (db : KvStore) : ∃ records,
    getLocalCapabilityMapByPrefix parse device dhType db =
      saveRecords CapabilityInfo.getKey ∅ records := by
  unfold getLocalCapabilityMapByPrefix capabilitiesByKeyPrefix
  split
  · exact ⟨[], rfl⟩
  · split
    · exact ⟨[], rfl⟩
    · split
      · exact ⟨[], rfl⟩
      · split
        · exact ⟨[], rfl⟩
        · split
          · exact ⟨[], rfl⟩
          · exact ⟨_, rfl⟩

theorem getKey_of_looked {dhType : DhType} {db : KvStore} {key : String} {cap : CapabilityInfo}
    (h : (getLocalCapabilityMapByPrefix parse device dhType db)[key]? = some cap) :
    cap.getKey = key := by
  obtain ⟨records, heq⟩ := exists_looked parse device dhType db
  rw [heq, getElem?_saveRecords, Std.TreeMap.getElem?_emptyc, Option.or_none] at h
  exact (Writes.lastRecord_eq_some h).2

/-- The records that the loop of `CheckNonExistCapabilityInfo` removes. -/
theorem checkNonExist_eq (dhItems : List DHItem) (s : CapabilityStores) :
    checkNonExistCapabilityInfo parse device dhItems DhType.input s =
      (((getLocalCapabilityMapByPrefix parse device DhType.input s.db).toList.filter
        (fun e => !dhItems.any (fun dhItem => e.2.dhId == dhItem.dhId))).map
          (fun e => e.2.getKey)).foldl (fun s k => (removeCapabilityInfoByKey k s).2) s := by
  rw [checkNonExistCapabilityInfo, if_neg (not_not.mpr rfl), List.foldl_map, List.foldl_filter]
  congr 1
  funext t e
  cases dhItems.any (fun dhItem => e.2.dhId == dhItem.dhId) <;> rfl

/-- Checking takes away what is swept. -/
theorem mem_checkNonExist {c : LocalComponent} (found : c.lastQuery ≠ []) {s : CapabilityStores}
    {key : String} :
    (key ∈ (checkNonExistCapabilityInfo parse device c.lastQuery DhType.input s).globalCapInfoMap ↔
      key ∈ s.globalCapInfoMap ∧ ¬ Swept parse device c s.db key) ∧
    (key ∈ (checkNonExistCapabilityInfo parse device c.lastQuery DhType.input s).db ↔
      key ∈ s.db ∧ ¬ Swept parse device c s.db key) := by
  have removed : ¬ Swept parse device c s.db key ↔
      (key ∈ ((getLocalCapabilityMapByPrefix parse device DhType.input s.db).toList.filter
        (fun e => !c.lastQuery.any (fun dhItem => e.2.dhId == dhItem.dhId))).map
          (fun e => e.2.getKey) → isIdLengthValid key = false) := by
    have gone (cap : CapabilityInfo) :
        (!c.lastQuery.any (fun dhItem => cap.dhId == dhItem.dhId)) = true ↔ cap.dhId ∉ c.dhIds := by
      rw [Bool.not_eq_true', List.any_eq_false, LocalComponent.dhIds, List.mem_map]
      constructor
      · rintro h ⟨dhItem, mem, heq⟩
        exact h dhItem mem (beq_iff_eq.mpr heq.symm)
      · intro h dhItem mem heq
        exact h ⟨dhItem, mem, (beq_iff_eq.mp heq).symm⟩
    constructor
    · intro kept mem
      obtain ⟨⟨k, cap⟩, listed, rfl⟩ := List.mem_map.mp mem
      obtain ⟨looked, absent⟩ := List.mem_filter.mp listed
      have look := Std.TreeMap.mem_toList_iff_getElem?_eq_some.mp looked
      obtain rfl := getKey_of_looked look
      rw [← Bool.not_eq_true]
      exact fun valid => kept ⟨found, valid, cap, look, (gone cap).mp absent⟩
    · rintro h ⟨-, valid, cap, look, absent⟩
      have tooLong := h (List.mem_map.mpr ⟨(key, cap), List.mem_filter.mpr
        ⟨Std.TreeMap.mem_toList_iff_getElem?_eq_some.mpr look, (gone cap).mpr absent⟩,
        getKey_of_looked look⟩)
      rw [valid] at tooLong
      cases tooLong
  rw [checkNonExist_eq, removed]
  exact mem_foldl_removeCapabilityInfoByKey _ s

end Sweep

section Loop
variable (parse : String → Option CJson) (device : LocalDevice)

theorem initComponent_silent {e : DhType × LocalComponent} (silent : e.2.answers = false)
    (s : LocalHardwareState) : initComponent parse device s e = s := by
  unfold initComponent
  split
  · rfl
  · split
    · rfl
    · rename_i handler started
      rw [Bool.not_eq_true', Bool.not_eq_false] at handler started
      have empty : e.2.lastQuery = [] := by
        simpa [LocalComponent.answers, handler, started] using silent
      simp only [queryLocalHardware, empty, if_true]

theorem initComponent_answers {e : DhType × LocalComponent} (answers : e.2.answers = true)
    (s : LocalHardwareState) : initComponent parse device s e = { s with
      localDHItemsMap := s.localDHItemsMap.insert e.1 e.2.lastQuery
      caps := checkNonExistCapabilityInfo parse device e.2.lastQuery e.1 s.caps } := by
  simp only [LocalComponent.answers, Bool.and_eq_true, Bool.not_eq_true',
    List.isEmpty_eq_false_iff] at answers
  obtain ⟨⟨handler, started⟩, found⟩ := answers
  simp only [initComponent, handler, started, Bool.not_true, Bool.false_eq_true, if_false,
    queryLocalHardware, found]

/-- The loop leaves the meta stores alone and collects what the components have found. -/
theorem foldl_initComponent (es : List (DhType × LocalComponent)) (s : LocalHardwareState) :
    (es.foldl (initComponent parse device) s).metas = s.metas ∧
      (es.foldl (initComponent parse device) s).localDHItemsMap =
        es.foldl (fun m e => if e.2.answers then m.insert e.1 e.2.lastQuery else m)
          s.localDHItemsMap := by
  induction es generalizing s with
  | nil => exact ⟨rfl, rfl⟩
  | cons e es ih =>
      rw [List.foldl_cons, List.foldl_cons]
      cases answers : e.2.answers with
      | false =>
          rw [initComponent_silent parse device answers]
          exact ih s
      | true =>
          rw [initComponent_answers parse device answers]
          exact ih _

/-- Only the `INPUT` component touches the capability stores. -/
theorem caps_foldl_initComponent {es : List (DhType × LocalComponent)}
    (others : ∀ e ∈ es, e.1 ≠ DhType.input) (s : LocalHardwareState) :
    (es.foldl (initComponent parse device) s).caps = s.caps := by
  induction es generalizing s with
  | nil => rfl
  | cons e es ih =>
      rw [List.forall_mem_cons] at others
      rw [List.foldl_cons, ih others.2]
      cases answers : e.2.answers with
      | false => rw [initComponent_silent parse device answers]
      | true =>
          rw [initComponent_answers parse device answers]
          exact if_pos others.1

variable {parse device}
variable {components : Std.TreeMap DhType LocalComponent} {c : LocalComponent}

theorem toList_split (hc : components[DhType.input]? = some c) : ∃ before after,
    components.toList = before ++ (DhType.input, c) :: after ∧
      (∀ e ∈ before, e.1 ≠ DhType.input) ∧ ∀ e ∈ after, e.1 ≠ DhType.input := by
  obtain ⟨before, after, split⟩ := List.append_of_mem
    (Std.TreeMap.mem_toList_iff_getElem?_eq_some.mpr hc)
  have distinct := Std.TreeMap.distinct_keys_toList (t := components)
  rw [split, List.pairwise_append, List.pairwise_cons] at distinct
  obtain ⟨-, ⟨later, -⟩, earlier⟩ := distinct
  refine ⟨before, after, split, fun e he heq => ?_, fun e he heq => ?_⟩
  · exact earlier e he _ List.mem_cons_self (Std.LawfulEqCmp.compare_eq_iff_eq.mpr heq)
  · exact later e he (Std.LawfulEqCmp.compare_eq_iff_eq.mpr heq.symm)

theorem caps_loop (hc : components[DhType.input]? = some c) (s : LocalHardwareState) :
    (components.toList.foldl (initComponent parse device) s).caps =
      if c.answers then
        checkNonExistCapabilityInfo parse device c.lastQuery DhType.input s.caps
      else s.caps := by
  obtain ⟨before, after, split, earlier, later⟩ := toList_split hc
  have reached := caps_foldl_initComponent parse device earlier s
  rw [split, List.foldl_append, List.foldl_cons, caps_foldl_initComponent parse device later]
  cases answers : c.answers with
  | false => rw [initComponent_silent parse device answers, reached]; rfl
  | true => rw [initComponent_answers parse device answers, reached]; rfl

theorem localDHItems_input (hc : components[DhType.input]? = some c) (answers : c.answers = true) :
    (localDHItems components)[DhType.input]? = some c.lastQuery := by
  have kept : localDHItems components = (components.toList.filter (fun e => e.2.answers)).foldl
      (fun m e => m.insert e.1 e.2.lastQuery) ∅ := List.foldl_filter.symm
  have mem : (DhType.input, c) ∈ components.toList.filter (fun e => e.2.answers) :=
    List.mem_filter.mpr ⟨Std.TreeMap.mem_toList_iff_getElem?_eq_some.mpr hc, answers⟩
  have read : ((components.toList.filter (fun e => e.2.answers)).foldl
      (fun m e => m.insert e.1 e.2.lastQuery)
      (∅ : Std.TreeMap DhType (List DHItem)))[DhType.input]? = _ :=
    Writes.getElem?_foldl_insert (fun e : DhType × LocalComponent => e.2.lastQuery) ∅ _ _
  rw [kept, read]
  cases hlast : Writes.lastRecord Prod.fst
      (components.toList.filter (fun e => e.2.answers)) DhType.input with
  | none => exact absurd (List.mem_map_of_mem mem) (Writes.lastRecord_eq_none_iff.mp hlast)
  | some e =>
      obtain ⟨listed, heq⟩ := Writes.lastRecord_eq_some hlast
      have same := Std.TreeMap.mem_toList_iff_getElem?_eq_some.mp (List.mem_filter.mp listed).1
      rw [heq, hc, Option.some.injEq] at same
      rw [Option.map_some, same]
      rfl

theorem dhIds_subset_foundIds (hc : components[DhType.input]? = some c)
    (takesPart : c.handler = true ∧ c.started = true) : c.dhIds ⊆ foundIds components := by
  intro dhId mem
  have answers : c.answers = true := by
    have found : c.lastQuery ≠ [] := by
      intro empty
      rw [LocalComponent.dhIds, empty] at mem
      cases mem
    simp [LocalComponent.answers, takesPart, found]
  exact List.mem_flatMap.mpr ⟨(DhType.input, c.lastQuery),
    Std.TreeMap.mem_toList_iff_getElem?_eq_some.mpr (localDHItems_input hc answers), mem⟩

end Loop

section Add
variable {parse : String → Option CJson} {printUnformatted : CJson → Option String}

variable (parse printUnformatted) in
theorem mem_addCapability (resInfos : List CapabilityInfo) (s : CapabilityStores) (key : String) :
    (key ∈ (addCapability parse printUnformatted (resInfos.map some) s).2.globalCapInfoMap ↔
      (isHandledSize resInfos = true ∧ key ∈ resInfos.map CapabilityInfo.getKey) ∨
        key ∈ s.globalCapInfoMap) ∧
    (key ∈ (addCapability parse printUnformatted (resInfos.map some) s).2.db ↔
      (isHandledSize resInfos = true ∧ key ∈ resInfos.map CapabilityInfo.getKey) ∨ key ∈ s.db) := by
  have size : isHandledSize (resInfos.map some) = isHandledSize resInfos := by
    rw [isHandledSize, List.length_map, isHandledSize]
  have present : (resInfos.map some).reduceOption = resInfos := by
    rw [List.reduceOption, List.filterMap_map]
    exact List.filterMap_some
  cases handled : isHandledSize resInfos with
  | false =>
      have same : (addCapability parse printUnformatted (resInfos.map some) s).2 = s := by
        simp only [addCapability, size, handled, Bool.not_false, if_true]
      rw [same]
      simp
  | true =>
      rw [addCapability_cache, mem_db_addCapability (size.trans handled), present, cacheStep,
        saveResInfos, if_pos (size.trans handled), present, mem_saveRecords]
      simp

variable (printUnformatted) in
/-- The meta records of an add that go to the DB. -/
def newMetaRecords (db : KvStore) (records : List MetaCapabilityInfo) : List MetaCapabilityInfo :=
  records.filter (fun cap => !isMetaStored printUnformatted db cap)

theorem foldl_addMetaRecord (db : KvStore) (records : List MetaCapabilityInfo)
    (out : AddedMetas) :
    records.foldl (addMetaRecord printUnformatted db) out =
      let fresh := newMetaRecords printUnformatted db records
      { globalMetaInfoMap := saveRecords MetaCapabilityInfo.getKey out.globalMetaInfoMap records
        keys := out.keys ++ fresh.map MetaCapabilityInfo.getKey
        values := out.values ++ fresh.map (MetaCapabilityInfo.toJsonString printUnformatted) } := by
  induction records generalizing out with
  | nil => simp [saveRecords, newMetaRecords]
  | cons cap records ih =>
      rw [List.foldl_cons, ih]
      cases hstored : isMetaStored printUnformatted db cap with
      | true => simp [addMetaRecord, hstored, saveRecords, newMetaRecords]
      | false => simp [addMetaRecord, hstored, saveRecords, newMetaRecords]

theorem mem_db_of_isMetaStored {db : KvStore} {cap : MetaCapabilityInfo}
    (h : isMetaStored printUnformatted db cap = true) : cap.getKey ∈ db := by
  unfold isMetaStored at h
  cases hdata : db.getDataByKey cap.getKey with
  | ok data => exact KvStore.mem_of_getDataByKey hdata
  | error code => simp [hdata] at h

variable (printUnformatted) in
theorem mem_addMetaCapInfos (metaCapInfos : List MetaCapabilityInfo) (s : MetaStores)
    (key : String) :
    (key ∈ (addMetaCapInfos printUnformatted metaCapInfos s).2.globalMetaInfoMap ↔
      (isHandledSize metaCapInfos = true ∧ key ∈ metaCapInfos.map MetaCapabilityInfo.getKey) ∨
        key ∈ s.globalMetaInfoMap) ∧
    (key ∈ (addMetaCapInfos printUnformatted metaCapInfos s).2.db ↔
      (isHandledSize metaCapInfos = true ∧ key ∈ metaCapInfos.map MetaCapabilityInfo.getKey) ∨
        key ∈ s.db) := by
  cases handled : isHandledSize metaCapInfos with
  | false => simp [addMetaCapInfos, handled]
  | true =>
      have fits : metaCapInfos.length ≤ maxArrSize :=
        of_decide_eq_true (Bool.and_eq_true_iff.mp handled).2
      have fresh : key ∈ _ ↔ _ := KvStore.mem_putFresh MetaCapabilityInfo.getKey
        (MetaCapabilityInfo.toJsonString printUnformatted) (isMetaStored printUnformatted s.db)
        (fun _ => mem_db_of_isMetaStored) fits
      have saved : key ∈ saveRecords MetaCapabilityInfo.getKey s.globalMetaInfoMap metaCapInfos ↔
        _ := mem_saveRecords
      simp only [true_and]
      rw [← fresh, ← saved]
      simp only [addMetaCapInfos, handled, foldl_addMetaRecord, newMetaRecords, Bool.not_true,
        Bool.false_eq_true, if_false, List.nil_append, List.isEmpty_map, Bool.or_self]
      split <;> exact ⟨Iff.rfl, Iff.rfl⟩

end Add

section Exact

theorem inputKey_iff {owner dhId : String} :
    InputKey owner (getCapabilityKey owner dhId) ↔ "Input".toList <+: dhId.toList := by
  rw [InputKey, toList_getCapabilityKey, String.toList_append, String.toList_append,
    List.prefix_append_right_inj]

/-- What is stored after an add of all dhIds that fits, over what was kept. -/
theorem inputExact_iff {owner : String} {dhIds allIds : List String} {fits : Prop}
    {stored kept : String → Prop} (sub : dhIds ⊆ allIds)
    (hstored : ∀ key, stored key ↔ (fits ∧ key ∈ allIds.map (getCapabilityKey owner)) ∨ kept key) :
    InputExact owner dhIds stored ↔
      (∀ dhId ∈ dhIds, fits ∨ kept (getCapabilityKey owner dhId)) ∧
      (fits → ∀ dhId ∈ allIds, "Input".toList <+: dhId.toList → dhId ∈ dhIds) ∧
      ∀ key, InputKey owner key → kept key → key ∈ dhIds.map (getCapabilityKey owner) := by
  constructor
  · intro h
    refine ⟨fun dhId mem => ?_, fun fit dhId mem input => ?_, fun key input held => ?_⟩
    · exact ((hstored _).mp (h.present dhId mem)).imp_left And.left
    · have listed := h.only _ (inputKey_iff.mpr input)
        ((hstored _).mpr (.inl ⟨fit, List.mem_map_of_mem mem⟩))
      obtain ⟨other, hother, heq⟩ := List.mem_map.mp listed
      rwa [getCapabilityKey_inj.mp heq] at hother
    · exact h.only key input ((hstored key).mpr (.inr held))
  · rintro ⟨present, apart, only⟩
    constructor
    · intro dhId mem
      apply (hstored _).mpr
      exact (present dhId mem).imp_left (fun fit => ⟨fit, List.mem_map_of_mem (sub mem)⟩)
    · intro key input held
      obtain ⟨fit, listed⟩ | held := (hstored key).mp held
      · obtain ⟨dhId, mem, rfl⟩ := List.mem_map.mp listed
        exact List.mem_map_of_mem (apart fit dhId mem (inputKey_iff.mp input))
      · exact only key input held

variable {parse : String → Option CJson} {printUnformatted : CJson → Option String}
variable {device : LocalDevice} {sinkVersion : DhType → String}
variable {components : Std.TreeMap DhType LocalComponent} {c : LocalComponent}
variable {db metaDb : KvStore}

variable (device sinkVersion) in
theorem map_getKey_infos (items : Std.TreeMap DhType (List DHItem)) :
    (items.toList.flatMap (fun e => addLocalCapabilityInfo device e.2 e.1)).map
        CapabilityInfo.getKey =
      (items.toList.flatMap (fun e => e.2.map DHItem.dhId)).map
        (getCapabilityKey device.deviceId) ∧
    (items.toList.flatMap (fun e => addLocalMetaCapInfo device sinkVersion e.2 e.1)).map
        MetaCapabilityInfo.getKey =
      (items.toList.flatMap (fun e => e.2.map DHItem.dhId)).map
        (getCapabilityKey device.udidHash) := by
  constructor
  · rw [List.map_flatMap, List.map_flatMap]
    congr 1
    funext e
    rw [addLocalCapabilityInfo, List.map_map, List.map_map]
    rfl
  · rw [List.map_flatMap, List.map_flatMap]
    congr 1
    funext e
    rw [addLocalMetaCapInfo, List.map_map, List.map_map]
    rfl

theorem isHandledSize_of_map {T : Type} {infos : List T} {getKey : T → String}
    {keyOf : String → String} {ids : List String} (same : infos.map getKey = ids.map keyOf) :
    isHandledSize infos = isHandledSize ids := by
  have length := congrArg List.length same
  rw [List.length_map, List.length_map] at length
  rw [isHandledSize, length, isHandledSize]

/-- What the loop over the components leaves of the capability records. -/
theorem mem_caps_loop (hc : components[DhType.input]? = some c)
    (takesPart : c.handler = true ∧ c.started = true) (key : String) :
    let caps := (components.toList.foldl (initComponent parse device)
      { restarted db metaDb with localDHItemsMap := ∅ }).caps
    (key ∈ caps.globalCapInfoMap ↔ False) ∧
      (key ∈ caps.db ↔ key ∈ db ∧ ¬ Swept parse device c db key) := by
  have loop : (components.toList.foldl (initComponent parse device)
      { restarted db metaDb with localDHItemsMap := ∅ }).caps = if c.answers then
        checkNonExistCapabilityInfo parse device c.lastQuery DhType.input { db } else { db } :=
    caps_loop hc _
  have fresh : key ∉ (∅ : CapabilityInfoMap) := Std.TreeMap.not_mem_emptyc
  intro caps
  rw [show caps = _ from loop]
  by_cases found : c.lastQuery = []
  · have silent : c.answers = false := by simp [LocalComponent.answers, found]
    rw [silent]
    exact ⟨iff_false_intro fresh, (and_iff_left (fun swept => swept.1 found)).symm⟩
  · have answers : c.answers = true := by simp [LocalComponent.answers, takesPart, found]
    rw [answers, if_pos rfl]
    exact ⟨(mem_checkNonExist found).1.trans (iff_false_intro (fun h => fresh h.1)),
      (mem_checkNonExist found).2⟩

variable (parse printUnformatted device sinkVersion db metaDb) in
/-- What the four maps hold after `Init`. -/
theorem mem_localHardwareInit (hc : components[DhType.input]? = some c)
    (takesPart : c.handler = true ∧ c.started = true) {s : LocalHardwareState}
    (hs : localHardwareInit parse printUnformatted device sinkVersion components
      (restarted db metaDb) = s) (key : String) :
    (key ∈ s.caps.globalCapInfoMap ↔ (isHandledSize (foundIds components) = true ∧
      key ∈ (foundIds components).map (getCapabilityKey device.deviceId)) ∨ False) ∧
    (key ∈ s.caps.db ↔ (isHandledSize (foundIds components) = true ∧
      key ∈ (foundIds components).map (getCapabilityKey device.deviceId)) ∨
        (key ∈ db ∧ ¬ Swept parse device c db key)) ∧
    (key ∈ s.metas.globalMetaInfoMap ↔ (isHandledSize (foundIds components) = true ∧
      key ∈ (foundIds components).map (getCapabilityKey device.udidHash)) ∨ False) ∧
    (key ∈ s.metas.db ↔ (isHandledSize (foundIds components) = true ∧
      key ∈ (foundIds components).map (getCapabilityKey device.udidHash)) ∨ key ∈ metaDb) := by
  let start : LocalHardwareState := { restarted db metaDb with localDHItemsMap := ∅ }
  let t := components.toList.foldl (initComponent parse device) start
  obtain ⟨metas, items⟩ := foldl_initComponent parse device components.toList start
  have items : t.localDHItemsMap = localDHItems components := items
  obtain ⟨capKeys, metaKeys⟩ := map_getKey_infos device sinkVersion (localDHItems components)
  have checked : (key ∈ t.caps.globalCapInfoMap ↔ False) ∧
      (key ∈ t.caps.db ↔ key ∈ db ∧ ¬ Swept parse device c db key) := mem_caps_loop hc takesPart key
  have caps : s.caps = (addCapability parse printUnformatted
      (((localDHItems components).toList.flatMap
        (fun e => addLocalCapabilityInfo device e.2 e.1)).map some) t.caps).2 := by
    rw [← hs, ← items]
    rfl
  have metas : s.metas = (addMetaCapInfos printUnformatted ((localDHItems components).toList.flatMap
      (fun e => addLocalMetaCapInfo device sinkVersion e.2 e.1)) { db := metaDb }).2 := by
    rw [← hs, ← items, localHardwareInit, metas]
    rfl
  have added := mem_addCapability parse printUnformatted ((localDHItems components).toList.flatMap
    (fun e => addLocalCapabilityInfo device e.2 e.1)) t.caps key
  have addedMetas := mem_addMetaCapInfos printUnformatted ((localDHItems components).toList.flatMap
    (fun e => addLocalMetaCapInfo device sinkVersion e.2 e.1)) { db := metaDb } key
  rw [← caps, isHandledSize_of_map capKeys, capKeys, checked.1, checked.2] at added
  rw [← metas, isHandledSize_of_map metaKeys, metaKeys] at addedMetas
  have fresh : key ∉ (∅ : MetaCapInfoMap) := Std.TreeMap.not_mem_emptyc
  exact ⟨added.1, added.2,
    addedMetas.1.trans (or_congr_right (iff_false_intro fresh)), addedMetas.2⟩

/-- After `Init` the `INPUT` records of the local device are those of the last `Query`
exactly if what a previous run has left is cleaned up. -/
theorem localInputExact_iff_cleansUp (hc : components[DhType.input]? = some c)
    (takesPart : c.handler = true ∧ c.started = true) :
    LocalInputExact device c.dhIds (localHardwareInit parse printUnformatted device sinkVersion
      components (restarted db metaDb)) ↔ CleansUp parse device components c db metaDb := by
  have sub := dhIds_subset_foundIds hc takesPart
  have holds := mem_localHardwareInit parse printUnformatted device sinkVersion db metaDb hc
    takesPart rfl
  have cache := inputExact_iff sub (fun key => (holds key).1)
  have stored := inputExact_iff sub (fun key => (holds key).2.1)
  have metaCache := inputExact_iff sub (fun key => (holds key).2.2.1)
  have metaStored := inputExact_iff sub (fun key => (holds key).2.2.2)
  have fits {dhId : String} (mem : dhId ∈ foundIds components) :
      isHandledSize (foundIds components) = true ↔
        (foundIds components).length ≤ maxDbRecordSize := by
    rw [isHandledSize, Bool.and_eq_true, decide_eq_true_eq, decide_eq_true_eq]
    exact and_iff_right (List.length_pos_of_mem mem)
  constructor
  · intro h
    constructor
    case swept =>
      intro key held input
      by_cases gone : Swept parse device c db key
      · exact .inr gone
      · exact .inl ((stored.mp h.db).2.2 key input ⟨held, gone⟩)
    case metas => exact fun key held input => (metaStored.mp h.metaDb).2.2 key input held
    case room =>
      cases found : c.lastQuery with
      | nil => exact .inl rfl
      | cons dhItem dhItems =>
          have mem : dhItem.dhId ∈ c.dhIds := by
            rw [LocalComponent.dhIds, found]
            exact List.mem_cons_self
          have added := (cache.mp h.cache).1 _ mem
          exact .inr ((fits (sub mem)).mp (added.resolve_right id))
    case apart =>
      intro small dhId mem input
      exact (cache.mp h.cache).2.1 ((fits mem).mpr small) dhId mem input
  · intro h
    have added : ∀ dhId ∈ c.dhIds, isHandledSize (foundIds components) = true := by
      intro dhId mem
      apply (fits (sub mem)).mpr
      refine h.room.resolve_left (fun empty => ?_)
      rw [LocalComponent.dhIds, empty] at mem
      cases mem
    have apart (fit : isHandledSize (foundIds components) = true) (dhId : String)
        (mem : dhId ∈ foundIds components) :
        "Input".toList <+: dhId.toList → dhId ∈ c.dhIds :=
      h.apart ((fits mem).mp fit) dhId mem
    constructor
    case cache =>
      exact cache.mpr ⟨fun dhId mem => .inl (added dhId mem), apart, fun _ _ => False.elim⟩
    case db =>
      refine stored.mpr ⟨fun dhId mem => .inl (added dhId mem), apart, ?_⟩
      rintro key input ⟨held, kept⟩
      exact (h.swept key held input).resolve_right kept
    case metaCache =>
      exact metaCache.mpr ⟨fun dhId mem => .inl (added dhId mem), apart, fun _ _ => False.elim⟩
    case metaDb =>
      exact metaStored.mpr ⟨fun dhId mem => .inl (added dhId mem), apart,
        fun key input held => h.metas key held input⟩

end Exact

section Keyboard

private def thisDevice : LocalDevice where
  deviceId := "d"
  deviceName := "p"
  deviceType := 14
  udidHash := "h"

/-- A keyboard that the first call of `Query` misses. -/
private def keyboard : LocalComponent where
  query := fun call => if call = 0 then [] else [{ dhId := "Input_new" }]

private def oldText : String :=
  "\x7b\"dh_id\":\"Input_old\",\"dev_id\":\"d\",\"dev_name\":\"p\",\"dev_type\":14," ++
    "\"dh_type\":32,\"dh_attrs\":\"a\",\"dh_subtype\":\"s\"\x7d"

private def oldKeyboard : CapabilityInfo where
  dhId := "Input_old"
  deviceId := "d"
  deviceName := "p"
  deviceType := 14
  dhType := DhType.input
  dhAttrs := "a"
  dhSubtype := "s"

private def parseOld (text : String) : Option CJson :=
  if text = oldText then some oldKeyboard.toJson else none

/-- The record of a keyboard that is gone is removed, that of the new one is there. -/
theorem localInputExact_keyboard : LocalInputExact thisDevice ["Input_new"]
    (localHardwareInit parseOld (fun _ => none) thisDevice (fun _ => "1.0")
      (Std.TreeMap.insert ∅ DhType.input keyboard)
      (restarted (Std.TreeMap.insert ∅ "d###Input_old" oldText) ∅)) := by
  have hc : (Std.TreeMap.insert ∅ DhType.input keyboard :
      Std.TreeMap DhType LocalComponent)[DhType.input]? = some keyboard :=
    Std.TreeMap.getElem?_insert_self
  have found : foundIds (Std.TreeMap.insert ∅ DhType.input keyboard) = ["Input_new"] := by
    decide +kernel
  refine (localInputExact_iff_cleansUp (c := keyboard) hc (by decide)).mpr ?_
  constructor
  case swept =>
    intro key held _
    obtain rfl : "d###Input_old" = key := by simpa using held
    refine .inr ⟨by decide, by decide +kernel, oldKeyboard, by decide +kernel, by decide⟩
  case metas =>
    intro key held
    exact absurd held Std.TreeMap.not_mem_emptyc
  case room => exact .inr (by rw [found]; decide)
  case apart =>
    intro _ dhId mem _
    rw [found] at mem
    exact mem

/-- A keyboard that is unplugged: every call of `Query` returns nothing. -/
private def unplugged : LocalComponent where
  query := fun _ => []

/-- Its records stay in both stores. -/
theorem exists_stale_input : ∃ device components c db metaDb,
    components[DhType.input]? = some c ∧ (c.handler = true ∧ c.started = true) ∧ c.dhIds = [] ∧
    ∀ parse printUnformatted sinkVersion, ∃ s,
      localHardwareInit parse printUnformatted device sinkVersion components
        (restarted db metaDb) = s ∧
      "d###Input_old" ∈ s.caps.db ∧ "h###Input_old" ∈ s.metas.db ∧
      ¬ LocalInputExact device c.dhIds s := by
  have hc : (Std.TreeMap.insert ∅ DhType.input unplugged :
      Std.TreeMap DhType LocalComponent)[DhType.input]? = some unplugged :=
    Std.TreeMap.getElem?_insert_self
  refine ⟨thisDevice, _, unplugged, Std.TreeMap.insert ∅ "d###Input_old" oldText,
    Std.TreeMap.insert ∅ "h###Input_old" oldText, hc, ⟨rfl, rfl⟩, rfl, ?_⟩
  intro parse printUnformatted sinkVersion
  have holds := mem_localHardwareInit parse printUnformatted thisDevice sinkVersion
    (Std.TreeMap.insert ∅ "d###Input_old" oldText) (Std.TreeMap.insert ∅ "h###Input_old" oldText)
    hc ⟨rfl, rfl⟩ rfl
  have inDb := (holds "d###Input_old").2.1.mpr
    (.inr ⟨Std.TreeMap.mem_insert_self, fun swept => swept.1 rfl⟩)
  have inMetaDb := (holds "h###Input_old").2.2.2.mpr (.inr Std.TreeMap.mem_insert_self)
  refine ⟨_, rfl, inDb, inMetaDb, fun exact => ?_⟩
  have listed := exact.db.only "d###Input_old" (by rw [InputKey]; decide +kernel) inDb
  cases listed

end Keyboard
end DistributedHardware
