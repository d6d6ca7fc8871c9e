import DistributedHardware.Library.Transition
import DistributedHardware.Resource.CacheFollows

/-!
The cache of `CapabilityInfoManager` under all of its operations.

Every operation that stores a record stores it under the record's own key. What the
DB answers to a sync is part of the operation; where it fails there, or where its pointer
is null, the cache stays as it is.
-/

namespace DistributedHardware

/-- The calls that change `globalCapInfoMap_`. A null pointer in `resInfos` is `none`. -/
inductive CacheOp
  | syncDeviceInfoFromDB (deviceId : String) (dataVector : List String)
  | syncRemoteCapabilityInfos (localDeviceId : String) (dataVectors : List (List String))
  | addCapability (resInfos : List (Option CapabilityInfo))
  | addCapabilityInMem (resInfos : List (Option CapabilityInfo))
  | removeCapabilityInfoInDB (deviceId : String)
  | removeCapabilityInfoByKey (key : String)
  | removeCapabilityInfoInMem (deviceId : String)
  | onChange (changes : Changes)

section Operations
variable (parse : String → Option CJson)

def decodeRecords (dataVector : List String) : List CapabilityInfo :=
  dataVector.filterMap (fun data => (getCapabilityByValue parse data).toOption)

/-- The records of one device, and the local device's own left out. -/
def syncRemoteRecords (localDeviceId : String) (map : CapabilityInfoMap)
    (dataVector : List String) : CapabilityInfoMap :=
  if isHandledSize dataVector then
    saveRecords CapabilityInfo.getKey map
      ((decodeRecords parse dataVector).filter (fun cap => cap.deviceId != localDeviceId))
  else map

def saveResInfos (map : CapabilityInfoMap) (resInfos : List (Option CapabilityInfo)) :
    CapabilityInfoMap :=
  if isHandledSize resInfos then saveRecords CapabilityInfo.getKey map resInfos.reduceOption
  else map

def cacheStep (op : CacheOp) (map : CapabilityInfoMap) : CapabilityInfoMap :=
  match op with
  | .syncDeviceInfoFromDB deviceId dataVector =>
      if isIdLengthValid deviceId && isHandledSize dataVector then
        saveRecords CapabilityInfo.getKey map (decodeRecords parse dataVector)
      else map
  | .syncRemoteCapabilityInfos localDeviceId dataVectors =>
      dataVectors.foldl (syncRemoteRecords parse localDeviceId) map
  | .addCapability resInfos | .addCapabilityInMem resInfos => saveResInfos map resInfos
  | .removeCapabilityInfoInDB deviceId | .removeCapabilityInfoInMem deviceId =>
      (removeCapabilityInfoInMem map deviceId).2
  | .removeCapabilityInfoByKey key => if isIdLengthValid key then map.erase key else map
  | .onChange changes => (capabilityOnChange parse changes { map }).map

/-- The values that an operation decodes to save their records. -/
def CacheOp.values : CacheOp → List String
  | .syncDeviceInfoFromDB _ dataVector => dataVector
  | .syncRemoteCapabilityInfos _ dataVectors => dataVectors.flatten
  | .onChange changes => (changes.insertEntries ++ changes.updateEntries).map (fun t => t.2.value)
  | _ => []

/-- The records that an operation is handed. -/
def CacheOp.handed : CacheOp → List CapabilityInfo
  | .addCapability resInfos | .addCapabilityInMem resInfos => resInfos.reduceOption
  | _ => []

/-- The records that an operation may save. -/
def CacheOp.Brings (op : CacheOp) (cap : CapabilityInfo) : Prop :=
  cap ∈ op.handed ∨ ∃ value ∈ op.values, getCapabilityByValue parse value = .ok cap

def cacheSystem : TransitionSystem CapabilityInfoMap CacheOp where
  init := fun map => map = ∅
  step := fun map op => some (cacheStep parse op map)

end Operations

section Keywise
variable {parse : String → Option CJson}

/-- What a map holds under each key. -/
def readMap {T : Type} (map : Std.TreeMap String T compare) (key : String) : Option T := map[key]?

def UnderOwnKey (key : String) (cap : CapabilityInfo) : Prop := cap.getKey = key

section Saving
variable {ok : String → CapabilityInfo → Prop}

theorem keywise_saveRecords {records : List CapabilityInfo}
    (sound : ∀ cap ∈ records, ok cap.getKey cap) :
    Writes.Keywise ok readMap (fun map => saveRecords CapabilityInfo.getKey map records) :=
  .foldl (fun cap mem => .update (by simpa using sound cap mem)
    (fun map => Writes.getElem?_insert map cap.getKey cap))

theorem mem_decodeRecords {cap : CapabilityInfo} {dataVector : List String} :
    cap ∈ decodeRecords parse dataVector ↔
      ∃ value ∈ dataVector, getCapabilityByValue parse value = .ok cap := by
  rw [decodeRecords, List.mem_filterMap]
  refine exists_congr (fun value => and_congr_right' ?_)
  cases getCapabilityByValue parse value <;> simp [Except.toOption]

theorem getElem?_removeInMem {deviceId : String} (valid : isIdLengthValid deviceId = true)
    (map : CapabilityInfoMap) (key : String) :
    (removeCapabilityInfoInMem map deviceId).2[key]? =
      if isCapKeyMatchDeviceId key deviceId then none else map[key]? := by
  simp only [removeCapabilityInfoInMem, valid, Bool.not_true, Bool.false_eq_true, if_false,
    Std.TreeMap.getElem?_filter']
  cases isCapKeyMatchDeviceId key deviceId with
  | true => cases map[key]? <;> rfl
  | false => cases map[key]? <;> rfl

theorem keywise_removeInMem (deviceId : String) :
    Writes.Keywise ok readMap (fun map => (removeCapabilityInfoInMem map deviceId).2) := by
  intro key
  by_cases valid : isIdLengthValid deviceId = true
  · by_cases hm : isCapKeyMatchDeviceId key deviceId = true
    · exact .inr ⟨none, by simp, fun map => by rw [readMap, getElem?_removeInMem valid, if_pos hm]⟩
    · exact .inl (fun map => by rw [readMap, getElem?_removeInMem valid, if_neg hm, readMap])
  · exact .inl (fun map => by simp [removeCapabilityInfoInMem, valid])

/-- The handling of one inserted or updated record. -/
theorem keywise_saveRecord (skip : Shared → CapabilityInfo → Bool) {turn : Turn}
    (sound : ∀ cap, getCapabilityByValue parse turn.2.value = .ok cap → ok cap.getKey cap) :
    Writes.Keywise ok cacheOf (fun out =>
      saveRecord (getCapabilityByValue parse) id CapabilityInfo.getKey skip out turn) := by
  cases hcap : getCapabilityByValue parse turn.2.value with
  | error _ => exact .of_eq (fun out => by simp [saveRecord, hcap])
  | ok cap =>
      cases hpeer : peerOf turn.1 cap with
      | none => exact .of_eq (fun out => by simp [saveRecord, hcap, hpeer])
      | some peer =>
          cases hskip : skip turn.1 cap with
          | true => exact .of_eq (fun out => by simp [saveRecord, hcap, hpeer, hskip])
          | false =>
              exact .update (by simpa using sound cap hcap) (cacheOf_saveRecord hcap hpeer hskip)

theorem keywise_deleteRecord (turn : Turn) :
    Writes.Keywise ok cacheOf (fun out => deleteRecord parse out turn) := by
  cases hcap : getCapabilityByValue parse turn.2.value with
  | error _ => exact .of_eq (fun out => by simp [deleteRecord, hcap])
  | ok cap =>
      cases hpeer : peerOf turn.1 cap with
      | none => exact .of_eq (fun out => by simp [deleteRecord, hcap, hpeer])
      | some peer => exact .update (by simp) (cacheOf_deleteRecord hcap hpeer)

theorem keywise_capabilityOnChange {changes : Changes}
    (sound : ∀ turn ∈ changes.insertEntries ++ changes.updateEntries, ∀ cap,
      getCapabilityByValue parse turn.2.value = .ok cap → ok cap.getKey cap) :
    Writes.Keywise ok cacheOf (capabilityOnChange parse changes) := by
  have add : Writes.Keywise ok cacheOf (fun out =>
      if isHandledSize changes.insertEntries then
        handleCapabilityAddChange parse changes.insertEntries out else out) :=
    .ite (.foldl (fun turn mem => keywise_saveRecord (fun _ _ => false)
      (sound turn (List.mem_append_left _ mem)))) .id
  have update : Writes.Keywise ok cacheOf (fun out =>
      if isHandledSize changes.updateEntries then
        handleCapabilityUpdateChange parse changes.atUpdate changes.updateEntries out
      else out) :=
    .ite (.ite .id (.foldl (fun turn mem => keywise_saveRecord isEnabledRecord
      (sound turn (List.mem_append_right _ mem))))) .id
  have delete : Writes.Keywise ok cacheOf (fun out =>
      if isHandledSize changes.deleteEntries then
        handleCapabilityDeleteChange parse changes.atDelete changes.deleteEntries out
      else out) :=
    .ite (.ite .id (.foldl (fun turn _ => keywise_deleteRecord turn))) .id
  have steps : capabilityOnChange parse changes = fun out =>
      (fun out => if isHandledSize changes.deleteEntries then
        handleCapabilityDeleteChange parse changes.atDelete changes.deleteEntries out else out)
      ((fun out => if isHandledSize changes.updateEntries then
        handleCapabilityUpdateChange parse changes.atUpdate changes.updateEntries out else out)
      ((fun out => if isHandledSize changes.insertEntries then
        handleCapabilityAddChange parse changes.insertEntries out else out) out)) := by
    funext out
    simp only [capabilityOnChange, onChange]
    cases isHandledSize changes.insertEntries <;> cases isHandledSize changes.updateEntries <;>
      cases isHandledSize changes.deleteEntries <;> rfl
  rw [steps]
  exact delete.comp (update.comp add)

/-- What an operation leaves under a key it found there, or it brings it. -/
theorem keywise_brings {op : CacheOp} (sound : ∀ cap, op.Brings parse cap → ok cap.getKey cap) :
    Writes.Keywise ok readMap (cacheStep parse op) := by
  cases op with
  | syncDeviceInfoFromDB deviceId dataVector =>
      refine .ite (keywise_saveRecords (fun cap mem => sound cap (.inr ?_))) .id
      exact mem_decodeRecords.mp mem
  | syncRemoteCapabilityInfos localDeviceId dataVectors =>
      refine .foldl (fun dataVector hdata => .ite (keywise_saveRecords (fun cap mem => ?_)) .id)
      obtain ⟨value, hvalue, decoded⟩ := mem_decodeRecords.mp (List.mem_filter.mp mem).1
      exact sound cap (.inr ⟨value, List.mem_flatten.mpr ⟨dataVector, hdata, hvalue⟩, decoded⟩)
  | addCapability resInfos | addCapabilityInMem resInfos =>
      exact .ite (keywise_saveRecords (fun cap mem => sound cap (.inl mem))) .id
  | removeCapabilityInfoInDB deviceId | removeCapabilityInfoInMem deviceId =>
      exact keywise_removeInMem deviceId
  | removeCapabilityInfoByKey key =>
      exact .ite (.update (by simp) (fun map => Writes.getElem?_erase map key)) .id
  | onChange changes =>
      intro key
      have keywise : Writes.Keywise ok cacheOf (capabilityOnChange parse changes) :=
        keywise_capabilityOnChange (fun turn mem cap decoded =>
          sound cap (.inr ⟨_, List.mem_map_of_mem mem, decoded⟩))
      obtain same | ⟨v, own, hv⟩ := keywise key
      · exact .inl (fun map => same { map })
      · exact .inr ⟨v, own, fun map => hv { map }⟩

end Saving

theorem keywise_cacheStep (op : CacheOp) :
    Writes.Keywise UnderOwnKey readMap (cacheStep parse op) :=
  keywise_brings (fun _ _ => rfl)

/-- Every record lies under its own key. -/
def Keyed (map : CapabilityInfoMap) : Prop :=
  ∀ (key : String) (cap : CapabilityInfo), map[key]? = some cap → cap.getKey = key

theorem keyed {map : CapabilityInfoMap} (h : (cacheSystem parse).Reachable map) : Keyed map := by
  refine h.invariant (I := Keyed) ?_ ?_
  · rintro _ rfl key cap hcap
    simp at hcap
  · rintro map op _ keyed ⟨⟩ key cap hcap
    exact (keywise_cacheStep op).preserves keyed hcap

end Keywise
end DistributedHardware
