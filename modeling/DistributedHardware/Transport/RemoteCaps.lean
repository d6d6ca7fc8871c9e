import DistributedHardware.Component.BusinessState
import DistributedHardware.Resource.DbAdapter
import DistributedHardware.Resource.CapabilityCache
import DistributedHardware.Transport.Messages

/-!
A full-capabilities response from the bytes of a session to the records and tasks it
leads to.

The session tells only whether there is a peer. The records go in under the keys that the
response gives them, and the tasks to the network id that it names; neither is compared
with the session's.
-/

namespace DistributedHardware

/-- The stores of `LocalCapabilityInfoManager`; its adapter may be null. -/
structure LocalCaps where
  globalCapInfoMap : CapabilityInfoMap := ∅
  db : KvStore := ∅
  dbAdapter : Bool := true

namespace LocalCaps

/-- The record under a key, in the map and in the DB. -/
def record (s : LocalCaps) (key : String) : Option CapabilityInfo × Option String :=
  (s.globalCapInfoMap[key]?, s.db[key]?)

variable (printUnformatted : CJson → Option String)

/-- `LocalCapabilityInfoManager::AddCapability`; `put` says whether the store takes the
batch. -/
def addCapability (put : Bool) (resInfos : List CapabilityInfo) (s : LocalCaps) :
    Int × LocalCaps :=
  if !isHandledSize resInfos then (errDhFwkResourceResDbDataInvalid, s)
  else if !s.dbAdapter then (errDhFwkResourceDbAdapterPointerNull, s)
  else
    let s := { s with
      globalCapInfoMap := saveRecords CapabilityInfo.getKey s.globalCapInfoMap resInfos }
    if !put then (errDhFwkResourceDbAdapterOperationFail, s)
    else
      let (ret, db) := s.db.putDataBatch (resInfos.map CapabilityInfo.getKey)
        (resInfos.map (CapabilityInfo.toJsonString printUnformatted))
      (if ret ≠ dhFwkSuccess then errDhFwkResourceDbAdapterOperationFail else dhFwkSuccess,
        { s with db })

end LocalCaps

/-- What the handling of a response reads and writes. -/
structure RspState where
  localCaps : LocalCaps := {}
  remoteDevSocketIds : Store String Int := ∅
  devIdEntrySet : DeviceIdEntrySet := ∅
  refresh : Refresh.State := {}

namespace RspState
variable (printUnformatted : CJson → Option String) (parse : List UInt8 → Option CJson)

def parseAndSaveRemoteDHCaps (put : Bool) (remoteCaps : String) (s : RspState) :
    Int × RspState :=
  let capsRsp := DhTransport.parseRemoteDHCaps parse remoteCaps
  let (ret, localCaps) := s.localCaps.addCapability printUnformatted put capsRsp.caps
  (ret, { s with localCaps })

/-- One capability of the loop, with the `ENABLE` tasks created so far. -/
def refreshCap (networkId uuid : String) (out : RspState × List TaskParam)
    (cap : CapabilityInfo) : RspState × List TaskParam :=
  let (s, created) := out
  let taskParam := Refresh.refreshParam networkId uuid cap
  if Refresh.isBusy (s.refresh.queryBusinessState networkId cap.dhId) then
    ({ s with
      refresh := { s.refresh with
        needRefreshTaskParams :=
          s.refresh.needRefreshTaskParams.set (Refresh.keyOf taskParam) taskParam } }, created)
  else (s, created ++ [taskParam])

def processFullCapsRsp (capsRsp : DhTransport.FullCapsRsp) (s : RspState) :
    RspState × List TaskParam :=
  if capsRsp.networkId = "" || capsRsp.caps = [] then (s, [])
  else
    let s := { s with
      remoteDevSocketIds :=
        if isIdLengthValid capsRsp.networkId then s.remoteDevSocketIds.erase capsRsp.networkId
        else s.remoteDevSocketIds }
    let uuid := getUuidByNetworkId capsRsp.networkId s.devIdEntrySet
    if uuid = "" then (s, [])
    else capsRsp.caps.foldl (refreshCap capsRsp.networkId uuid) (s, [])

end RspState

/-- The result of saving a response, the state it leaves and the `ENABLE` tasks. -/
structure RspHandled where
  ret : Int
  state : RspState
  created : List TaskParam

namespace RspState
variable (printUnformatted : CJson → Option String) (parse : List UInt8 → Option CJson)

/-- `ProcessEvent` on a `DH_COMM_RSP_FULL_CAPS`. -/
def processFullCapsEvent (put : Bool) (msg : String) (s : RspState) : RspHandled :=
  let (ret, saved) := s.parseAndSaveRemoteDHCaps printUnformatted parse put msg
  let (state, created) := saved.processFullCapsRsp (DhTransport.parseRemoteDHCaps parse msg)
  { ret, state, created }

end RspState

/-- The key is one of the device's: `GetCapabilityKey` of its id and a dhId. -/
def OfDevice (deviceId key : String) : Prop :=
  (deviceId ++ resourceSeparator).toList <+: key.toList

instance (deviceId key : String) : Decidable (OfDevice deviceId key) :=
  inferInstanceAs (Decidable (_ <+: _))

namespace LocalCaps
variable (printUnformatted : CJson → Option String)

/-- The record of a response under a key. A later one of the same key replaces an
earlier one. -/
def rspRecord (caps : List CapabilityInfo) (key : String) :
    Option CapabilityInfo × Option String :=
  let cap := Writes.lastRecord CapabilityInfo.getKey caps key
  (cap, cap.map (CapabilityInfo.toJsonString printUnformatted))

/-- The device's records become those of the response, or stay when saving fails; all
other records stay. -/
structure ChangesOnly (deviceId : String) (caps : List CapabilityInfo) (ret : Int)
    (s t : LocalCaps) : Prop where
  saved : ret = dhFwkSuccess → ∀ key,
    (if OfDevice deviceId key then t.record key else (none, none)) =
      rspRecord printUnformatted caps key
  notSaved : ret ≠ dhFwkSuccess → ∀ key, OfDevice deviceId key → t.record key = s.record key
  others : ∀ key, ¬ OfDevice deviceId key → t.record key = s.record key

/-- The capabilities are all records of the device and no other's, where they are saved;
where the store does not take them, the map has them already. -/
structure ListsOnly (deviceId : String) (caps : List CapabilityInfo) (put : Bool)
    (s : LocalCaps) : Prop where
  taken : isHandledSize caps = true → s.dbAdapter = true → put = true →
    (∀ cap ∈ caps, OfDevice deviceId cap.getKey) ∧
    ∀ key, OfDevice deviceId key → key ∉ caps.map CapabilityInfo.getKey →
      s.record key = (none, none)
  notTaken : isHandledSize caps = true → s.dbAdapter = true → put = false →
    ∀ key cap, Writes.lastRecord CapabilityInfo.getKey caps key = some cap →
      s.globalCapInfoMap[key]? = some cap

end LocalCaps

namespace RspState
variable (printUnformatted : CJson → Option String)

/-- What the handling of a response may do for the peer of its session. -/
structure SenderOnly (deviceId networkId : String) (caps : List CapabilityInfo) (s : RspState)
    (out : RspHandled) : Prop where
  records : s.localCaps.ChangesOnly printUnformatted deviceId caps out.ret out.state.localCaps
  tasks : ∀ task ∈ out.created, task.networkId = networkId ∧
    ∃ cap ∈ caps, OfDevice deviceId cap.getKey ∧ cap.dhId = task.dhId ∧ cap.dhType = task.dhType

/-- A response that names its sender: it lists the records of the sender only, and it
refreshes hardware of the sender only. -/
structure FromSender (deviceId networkId : String) (put : Bool)
    (capsRsp : DhTransport.FullCapsRsp) (s : RspState) : Prop where
  lists : s.localCaps.ListsOnly deviceId capsRsp.caps put
  refreshes : getUuidByNetworkId capsRsp.networkId s.devIdEntrySet ≠ "" →
    ∀ cap ∈ capsRsp.caps,
      Refresh.isBusy (s.refresh.queryBusinessState capsRsp.networkId cap.dhId) = false →
      capsRsp.networkId = networkId ∧ ∃ own ∈ capsRsp.caps, OfDevice deviceId own.getKey ∧
        own.dhId = cap.dhId ∧ own.dhType = cap.dhType

end RspState

namespace LocalCaps
variable {printUnformatted : CJson → Option String} {put : Bool} {caps : List CapabilityInfo}

variable (printUnformatted put) in
theorem addCapability_refused {s : LocalCaps}
    (h : ¬ (isHandledSize caps = true ∧ s.dbAdapter = true)) :
    (s.addCapability printUnformatted put caps).1 ≠ dhFwkSuccess ∧
      (s.addCapability printUnformatted put caps).2 = s := by
  have invalid : errDhFwkResourceResDbDataInvalid ≠ dhFwkSuccess := by decide
  have noAdapter : errDhFwkResourceDbAdapterPointerNull ≠ dhFwkSuccess := by decide
  unfold addCapability
  cases handled : isHandledSize caps with
  | false => exact ⟨invalid, rfl⟩
  | true =>
      have adapter : s.dbAdapter = false := by simpa [handled] using h
      rw [adapter]
      exact ⟨noAdapter, rfl⟩

variable (printUnformatted) in
/-- A batch that the store does not take has reached the map. -/
theorem addCapability_notPut {s : LocalCaps} (handled : isHandledSize caps = true)
    (adapter : s.dbAdapter = true) :
    (s.addCapability printUnformatted false caps).1 ≠ dhFwkSuccess ∧ ∀ key,
      (s.addCapability printUnformatted false caps).2.record key =
        ((Writes.lastRecord CapabilityInfo.getKey caps key).or s.globalCapInfoMap[key]?,
          s.db[key]?) := by
  have failed : errDhFwkResourceDbAdapterOperationFail ≠ dhFwkSuccess := by decide
  simp only [addCapability, handled, adapter, Bool.not_true, Bool.false_eq_true, if_false,
    Bool.not_false, if_true]
  exact ⟨failed, fun key => congrArg (·, s.db[key]?) (getElem?_saveRecords _ _ _ key)⟩

variable (printUnformatted) in
theorem addCapability_put {s : LocalCaps} (handled : isHandledSize caps = true)
    (adapter : s.dbAdapter = true) :
    (s.addCapability printUnformatted true caps).1 = dhFwkSuccess ∧ ∀ key,
      (s.addCapability printUnformatted true caps).2.record key =
        ((rspRecord printUnformatted caps key).1.or s.globalCapInfoMap[key]?,
          (rspRecord printUnformatted caps key).2.or s.db[key]?) := by
  have fits : isArrayLengthValid (caps.map CapabilityInfo.getKey) = true := by
    simp only [isHandledSize, Bool.and_eq_true, decide_eq_true_eq] at handled
    simp only [isArrayLengthValid, Bool.and_eq_true, bne_iff_ne, ne_eq, List.map_eq_nil_iff,
      List.length_map, decide_eq_true_eq]
    exact ⟨List.ne_nil_of_length_pos handled.1, handled.2⟩
  have success := s.db.putDataBatch_success CapabilityInfo.getKey
    (CapabilityInfo.toJsonString printUnformatted) fits
  simp only [addCapability, handled, adapter, Bool.not_true, Bool.false_eq_true, if_false,
    success, ne_eq, not_true_eq_false, true_and]
  intro key
  exact Prod.ext (getElem?_saveRecords _ _ _ key) (KvStore.getElem?_putDataBatch _ _ _ fits key)

section Changes
variable {deviceId : String} {ret : Int} {s t : LocalCaps}

variable (printUnformatted) in
theorem rspRecord_eq_none {key : String} (h : key ∉ caps.map CapabilityInfo.getKey) :
    rspRecord printUnformatted caps key = (none, none) := by
  rw [rspRecord, Writes.lastRecord_eq_none_iff.mpr h]
  rfl

/-- A response that is saved changes only the device's records exactly if it has no other
device's and the device had none that it leaves out. -/
theorem changesOnly_saved_iff (success : ret = dhFwkSuccess)
    (records : ∀ key, t.record key =
      ((rspRecord printUnformatted caps key).1.or s.globalCapInfoMap[key]?,
        (rspRecord printUnformatted caps key).2.or s.db[key]?)) :
    s.ChangesOnly printUnformatted deviceId caps ret t ↔
      (∀ cap ∈ caps, OfDevice deviceId cap.getKey) ∧
        ∀ key, OfDevice deviceId key → key ∉ caps.map CapabilityInfo.getKey →
          s.record key = (none, none) := by
  constructor
  · intro h
    constructor
    · intro cap hcap
      by_contra foreign
      have dropped := congrArg Prod.fst (h.saved success cap.getKey)
      rw [if_neg foreign] at dropped
      exact Writes.lastRecord_eq_none_iff.mp dropped.symm (List.mem_map_of_mem hcap)
    · intro key own absent
      have left := h.saved success key
      rwa [if_pos own, records, rspRecord_eq_none printUnformatted absent] at left
  · rintro ⟨own, complete⟩
    have unnamed {key : String} (foreign : ¬ OfDevice deviceId key) :
        key ∉ caps.map CapabilityInfo.getKey := by
      intro mem
      obtain ⟨cap, hcap, rfl⟩ := List.mem_map.mp mem
      exact foreign (own cap hcap)
    constructor
    case saved =>
      intro _ key
      by_cases device : OfDevice deviceId key
      · rw [if_pos device, records]
        cases hlast : Writes.lastRecord CapabilityInfo.getKey caps key with
        | some cap =>
            rw [rspRecord, hlast]
            rfl
        | none =>
            have absent := Writes.lastRecord_eq_none_iff.mp hlast
            rw [rspRecord_eq_none printUnformatted absent]
            exact complete key device absent
      · rw [if_neg device, rspRecord_eq_none printUnformatted (unnamed device)]
    case notSaved => exact fun failed => absurd success failed
    case others =>
      intro key foreign
      rw [records, rspRecord_eq_none printUnformatted (unnamed foreign)]
      rfl

theorem changesOnly_failed_iff (failed : ret ≠ dhFwkSuccess) :
    s.ChangesOnly printUnformatted deviceId caps ret t ↔ ∀ key, t.record key = s.record key := by
  constructor
  · intro h key
    by_cases device : OfDevice deviceId key
    · exact h.notSaved failed key device
    · exact h.others key device
  · intro same
    exact ⟨fun success => absurd success failed, fun _ key _ => same key, fun key _ => same key⟩

/-- Saving changes only the device's records exactly if the response lists only those. -/
theorem changesOnly_addCapability_iff :
    s.ChangesOnly printUnformatted deviceId caps (s.addCapability printUnformatted put caps).1
      (s.addCapability printUnformatted put caps).2 ↔ s.ListsOnly deviceId caps put := by
  by_cases attempted : isHandledSize caps = true ∧ s.dbAdapter = true
  case neg =>
    obtain ⟨failed, same⟩ := addCapability_refused printUnformatted put attempted
    rw [changesOnly_failed_iff failed, same]
    refine iff_of_true (fun _ => rfl) ?_
    exact ⟨fun h h' => absurd ⟨h, h'⟩ attempted, fun h h' => absurd ⟨h, h'⟩ attempted⟩
  obtain ⟨handled, adapter⟩ := attempted
  cases put with
  | true =>
      obtain ⟨success, records⟩ := addCapability_put printUnformatted handled adapter
      rw [changesOnly_saved_iff success records]
      exact ⟨fun h => ⟨fun _ _ _ => h, fun _ _ put => (by cases put)⟩,
        fun h => h.taken handled adapter rfl⟩
  | false =>
      obtain ⟨failed, records⟩ := addCapability_notPut printUnformatted handled adapter
      rw [changesOnly_failed_iff failed]
      constructor
      · intro same
        refine ⟨fun _ _ put => (by cases put), fun _ _ _ key cap hlast => ?_⟩
        have kept := congrArg Prod.fst (same key)
        rw [records, hlast] at kept
        exact kept.symm
      · intro h key
        rw [records]
        cases hlast : Writes.lastRecord CapabilityInfo.getKey caps key with
        | none => rfl
        | some cap =>
            exact congrArg (·, s.db[key]?) (h.notTaken handled adapter rfl key cap hlast).symm

end Changes
end LocalCaps

namespace RspState
section Loop
variable {networkId uuid : String}

theorem foldl_refreshCap (caps : List CapabilityInfo) (s : RspState) (created : List TaskParam) :
    (caps.foldl (refreshCap networkId uuid) (s, created)).1.localCaps = s.localCaps ∧
      (caps.foldl (refreshCap networkId uuid) (s, created)).2 = created ++
        (caps.filter (fun cap =>
          !Refresh.isBusy (s.refresh.queryBusinessState networkId cap.dhId))).map
            (Refresh.refreshParam networkId uuid) := by
  induction caps generalizing s created with
  | nil => exact ⟨rfl, (List.append_nil _).symm⟩
  | cons cap caps ih =>
      rw [List.foldl_cons, List.filter_cons]
      cases busy : Refresh.isBusy (s.refresh.queryBusinessState networkId cap.dhId) with
      | true =>
          -- saving a refresh leaves the business states as they are
          simp only [refreshCap, busy, if_true, Bool.not_true, Bool.false_eq_true, if_false]
          exact ih _ created
      | false =>
          simp only [refreshCap, busy, Bool.false_eq_true, if_false, Bool.not_false, if_true,
            List.map_cons]
          have tail := ih s (created ++ [Refresh.refreshParam networkId uuid cap])
          rwa [List.append_assoc, List.singleton_append] at tail

variable {capsRsp : DhTransport.FullCapsRsp} {s : RspState}

theorem localCaps_processFullCapsRsp :
    (s.processFullCapsRsp capsRsp).1.localCaps = s.localCaps := by
  unfold processFullCapsRsp
  split
  · rfl
  · dsimp only
    split
    · rfl
    · exact (foldl_refreshCap _ _ _).1

theorem mem_created_iff {task : TaskParam} : task ∈ (s.processFullCapsRsp capsRsp).2 ↔
    getUuidByNetworkId capsRsp.networkId s.devIdEntrySet ≠ "" ∧ ∃ cap ∈ capsRsp.caps,
      Refresh.isBusy (s.refresh.queryBusinessState capsRsp.networkId cap.dhId) = false ∧
      Refresh.refreshParam capsRsp.networkId
        (getUuidByNetworkId capsRsp.networkId s.devIdEntrySet) cap = task := by
  unfold processFullCapsRsp
  by_cases invalid : (capsRsp.networkId = "" || capsRsp.caps = []) = true
  · rw [if_pos invalid]
    refine iff_of_false (List.not_mem_nil) ?_
    rintro ⟨known, cap, hcap, -⟩
    rw [Bool.or_eq_true, decide_eq_true_eq, decide_eq_true_eq] at invalid
    obtain empty | empty := invalid
    · rw [empty] at known
      exact known rfl
    · rw [empty] at hcap
      cases hcap
  · rw [if_neg invalid]
    dsimp only
    by_cases unknown : getUuidByNetworkId capsRsp.networkId s.devIdEntrySet = ""
    · rw [if_pos unknown]
      exact iff_of_false List.not_mem_nil (fun h => h.1 unknown)
    · rw [if_neg unknown, (foldl_refreshCap _ _ _).2, List.nil_append, List.mem_map]
      simp only [List.mem_filter, Bool.not_eq_true', and_assoc, ne_eq, unknown, not_false_eq_true,
        true_and]

end Loop

section Sender
variable {printUnformatted : CJson → Option String} {parse : List UInt8 → Option CJson}
variable {deviceId networkId msg : String} {put : Bool} {s : RspState}

/-- The tasks of a response are for its sender exactly if it refreshes only that. -/
theorem created_iff : (∀ task ∈
      (s.processFullCapsEvent printUnformatted parse put msg).created,
        task.networkId = networkId ∧ ∃ cap ∈ (DhTransport.parseRemoteDHCaps parse msg).caps,
          OfDevice deviceId cap.getKey ∧ cap.dhId = task.dhId ∧ cap.dhType = task.dhType) ↔
    (getUuidByNetworkId (DhTransport.parseRemoteDHCaps parse msg).networkId s.devIdEntrySet ≠ "" →
      ∀ cap ∈ (DhTransport.parseRemoteDHCaps parse msg).caps,
        Refresh.isBusy (s.refresh.queryBusinessState
          (DhTransport.parseRemoteDHCaps parse msg).networkId cap.dhId) = false →
        (DhTransport.parseRemoteDHCaps parse msg).networkId = networkId ∧
          ∃ own ∈ (DhTransport.parseRemoteDHCaps parse msg).caps, OfDevice deviceId own.getKey ∧
            own.dhId = cap.dhId ∧ own.dhType = cap.dhType) := by
  simp only [processFullCapsEvent, parseAndSaveRemoteDHCaps, mem_created_iff]
  constructor
  · intro h known cap hcap idle
    exact h _ ⟨known, cap, hcap, idle, rfl⟩
  · rintro h _ ⟨known, cap, hcap, idle, rfl⟩
    exact h known cap hcap idle

theorem senderOnly_event_iff :
    SenderOnly printUnformatted deviceId networkId (DhTransport.parseRemoteDHCaps parse msg).caps s
      (s.processFullCapsEvent printUnformatted parse put msg) ↔
    FromSender deviceId networkId put (DhTransport.parseRemoteDHCaps parse msg) s := by
  have saved : (s.processFullCapsEvent printUnformatted parse put msg).state.localCaps =
      (s.localCaps.addCapability printUnformatted put
        (DhTransport.parseRemoteDHCaps parse msg).caps).2 := localCaps_processFullCapsRsp
  constructor
  · intro h
    have records := h.records
    rw [saved] at records
    exact ⟨LocalCaps.changesOnly_addCapability_iff.mp records, created_iff.mp h.tasks⟩
  · intro h
    refine ⟨?_, created_iff.mpr h.refreshes⟩
    rw [saved]
    exact LocalCaps.changesOnly_addCapability_iff.mpr h.lists

end Sender

/-- What is received on a session and posted as a `DH_COMM_RSP_FULL_CAPS`. -/
def fullCapsReceived (inflated : List UInt8 → List UInt8) (parse : List UInt8 → Option CJson)
    (remoteDevSocketIds : Store String Int) (socketId : Int) (data : List UInt8) :
    Option DhTransport.CommMsg :=
  (DhTransport.onBytesReceived inflated parse remoteDevSocketIds socketId data).filter
    (fun msg => msg.code = DhTransport.dhCommRspFullCaps)

section Received
variable (inflated : List UInt8 → List UInt8) (parse : List UInt8 → Option CJson)
variable (printUnformatted : CJson → Option String)

/-- What is received on a session changes the records and creates the tasks of its peer
only exactly if it is a response that names that peer throughout. -/
theorem senderOnly_iff_fromSender (remoteDevSocketIds : Store String Int) (socketId : Int)
    (data : List UInt8) (deviceId : String) (put : Bool) (s : RspState) :
    (∀ msg ∈ fullCapsReceived inflated parse remoteDevSocketIds socketId data,
      SenderOnly printUnformatted deviceId
        (DhTransport.getRemoteNetworkIdBySocketId remoteDevSocketIds socketId)
        (DhTransport.parseRemoteDHCaps parse msg.msg).caps s
        (s.processFullCapsEvent printUnformatted parse put msg.msg)) ↔
    ∀ msg ∈ fullCapsReceived inflated parse remoteDevSocketIds socketId data,
      FromSender deviceId
        (DhTransport.getRemoteNetworkIdBySocketId remoteDevSocketIds socketId) put
        (DhTransport.parseRemoteDHCaps parse msg.msg) s :=
  forall₂_congr (fun _ _ => senderOnly_event_iff)

end Received

section Foreign

/-- The camera of device D is recorded, and D is online. -/
private def cameraRecorded : RspState where
  localCaps := { globalCapInfoMap := Std.TreeMap.insert ∅ "d###h" (DhTransport.camera "owner") }
  devIdEntrySet := addOnlineDevice (fun _ => "d") "uD" "u" "n" ∅

/-- A response on the session of device A, with the network id and the camera of device D:
the record of D is replaced and a task is created for D. -/
theorem exists_foreign_response : ∃ printUnformatted parse data,
    DhTransport.Libraries id id printUnformatted parse ∧
    DhTransport.getRemoteNetworkIdBySocketId (Store.set ∅ "nA" 1) 1 = "nA" ∧
    ∃ msg ∈ fullCapsReceived id parse (Store.set ∅ "nA" 1) 1 data, ∃ out,
      cameraRecorded.processFullCapsEvent printUnformatted parse true msg.msg = out ∧
      (out.state.localCaps.record "d###h").1 = some (DhTransport.camera "p") ∧
      (∃ task ∈ out.created, task.networkId = "n") ∧
      ¬ SenderOnly printUnformatted "dA" "nA" (DhTransport.parseRemoteDHCaps parse msg.msg).caps
        cameraRecorded out := by
  obtain ⟨printUnformatted, parse, lib, response, sent⟩ :=
    DhTransport.exists_sent "p" (by decide) (by decide)
  have recorded : DhTransport.Recorded (Store.set ∅ "nA" 1) 1 := by decide +kernel
  have received := (DhTransport.received_of_sent lib sent _).mpr ⟨recorded, rfl⟩
  have read : DhTransport.parseRemoteDHCaps parse (cStr (DhTransport.responseText "p")) =
      { networkId := "n", caps := [DhTransport.camera "p"] } := by
    have whole := (DhTransport.read_of_sent lib sent response _).mpr ⟨recorded, rfl⟩
    rw [received, Option.map_some, Option.some.injEq] at whole
    exact whole.trans (by decide +kernel)
  refine ⟨printUnformatted, parse, _, lib, by decide +kernel, _,
    Option.mem_filter_iff.mpr ⟨received, by decide⟩, _, rfl, ?_, ?_, ?_⟩
  · have saved : (cameraRecorded.localCaps.addCapability printUnformatted true
        [DhTransport.camera "p"]).2.record "d###h" = _ :=
      (LocalCaps.addCapability_put printUnformatted (by decide) rfl).2 "d###h"
    simp only [processFullCapsEvent, parseAndSaveRemoteDHCaps, read, localCaps_processFullCapsRsp,
      saved]
    show (Writes.lastRecord CapabilityInfo.getKey [DhTransport.camera "p"] "d###h").or
      cameraRecorded.localCaps.globalCapInfoMap["d###h"]? = _
    decide +kernel
  · refine ⟨_, mem_created_iff.mpr ⟨?_, DhTransport.camera "p", ?_, ?_, rfl⟩, ?_⟩
    all_goals rw [read]
    case refine_1 =>
      show getUuidByNetworkId "n" cameraRecorded.devIdEntrySet ≠ ""
      decide +kernel
    case refine_2 => exact List.mem_cons_self
    case refine_3 =>
      show Refresh.isBusy (cameraRecorded.refresh.queryBusinessState "n" "h") = false
      decide +kernel
    case refine_4 => rfl
  · rw [senderOnly_event_iff, read]
    intro h
    have own := (h.lists.taken (by decide) rfl rfl).1 _ List.mem_cons_self
    exact absurd own (by decide +kernel)

end Foreign
end RspState
end DistributedHardware
