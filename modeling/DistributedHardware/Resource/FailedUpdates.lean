import DistributedHardware.Resource.LocalHardware

/-!
The updates of the two registries when the DB may fail.

All of them change the map first and then ask the DB, and none takes the change back. What
the DB adapter answers is an argument, and so is whether there is one at all.
-/

namespace DistributedHardware

/-- The answers of the DB adapter in one call; a batch reads once for each of its records. -/
structure DbAnswers where
  getDataByKey : Nat → String → Except Int String
  putDataBatch : List String → List String → Int
  removeDeviceData : String → Int
  removeDataByKey : String → Int

namespace FailingDb
variable {ρ : Type}

abbrev RecordMap (ρ : Type) := Std.TreeMap String ρ compare

/-- What the loop of an add has saved and collected. -/
structure Batch (ρ : Type) where
  map : RecordMap ρ
  keys : List String := []
  values : List String := []

section Add
variable (key text : ρ → String) (same : String → ρ → Bool)

def addRecord (db : DbAnswers) (out : Batch ρ) (record : ρ × Nat) : Batch ρ :=
  let out := { out with map := out.map.insert (key record.1) record.1 }
  let written :=
    { out with keys := out.keys ++ [key record.1], values := out.values ++ [text record.1] }
  match db.getDataByKey record.2 (key record.1) with
  | .ok data => if same data record.1 then out else written
  | .error _ => written

/-- The common body of `AddCapability` and `AddMetaCapInfos`. A null pointer in `records` is
`none`. -/
def addRecords (records : List (Option ρ)) (dbAdapterPtr : Option DbAnswers)
    (map : RecordMap ρ) : Int × RecordMap ρ :=
  if !isHandledSize records then (errDhFwkResourceResDbDataInvalid, map)
  else
    match dbAdapterPtr with
    | none => (errDhFwkResourceDbAdapterPointerNull, map)
    | some db =>
        let out := records.reduceOption.zipIdx.foldl (addRecord key text same db) { map }
        if out.keys.isEmpty || out.values.isEmpty then (dhFwkSuccess, out.map)
        else if db.putDataBatch out.keys out.values ≠ dhFwkSuccess then
          (errDhFwkResourceDbAdapterOperationFail, out.map)
        else (dhFwkSuccess, out.map)

end Add

/-- The common body of the removals by key. `MAX_KEY_SIZE` is `MAX_ID_LEN`. -/
def removeByKey (key : String) (dbAdapterPtr : Option DbAnswers) (map : RecordMap ρ) :
    Int × RecordMap ρ :=
  if !isIdLengthValid key then (errDhFwkParaInvalid, map)
  else
    match dbAdapterPtr with
    | none => (errDhFwkResourceDbAdapterPointerNull, map)
    | some db =>
        let map := map.erase key
        if db.removeDataByKey key ≠ dhFwkSuccess then
          (errDhFwkResourceDbAdapterOperationFail, map)
        else (dhFwkSuccess, map)

section Managers
variable (parse : String → Option CJson) (printUnformatted : CJson → Option String)

/-- `CapabilityInfoManager::AddCapability`. -/
def addCapability : List (Option CapabilityInfo) → Option DbAnswers → CapabilityInfoMap →
    Int × CapabilityInfoMap :=
  addRecords CapabilityInfo.getKey (CapabilityInfo.toJsonString printUnformatted)
    (fun data resInfo => isCapInfoJsonEqual parse data (resInfo.toJsonString printUnformatted))

/-- `MetaInfoManager::AddMetaCapInfos`. -/
def addMetaCapInfos : List (Option MetaCapabilityInfo) → Option DbAnswers → MetaCapInfoMap →
    Int × MetaCapInfoMap :=
  addRecords MetaCapabilityInfo.getKey (MetaCapabilityInfo.toJsonString printUnformatted)
    (fun data metaCapInfo => data = metaCapInfo.toJsonString printUnformatted)

/-- `CapabilityInfoManager::RemoveCapabilityInfoByKey`. -/
def removeCapabilityInfoByKey : String → Option DbAnswers → CapabilityInfoMap →
    Int × CapabilityInfoMap :=
  removeByKey

/-- `MetaInfoManager::RemoveMetaInfoByKey`. -/
def removeMetaInfoByKey : String → Option DbAnswers → MetaCapInfoMap → Int × MetaCapInfoMap :=
  removeByKey

/-- `CapabilityInfoManager::RemoveCapabilityInfoInDB`. -/
def removeCapabilityInfoInDB (deviceId : String) (dbAdapterPtr : Option DbAnswers)
    (map : CapabilityInfoMap) : Int × CapabilityInfoMap :=
  if !isIdLengthValid deviceId then (errDhFwkParaInvalid, map)
  else
    match dbAdapterPtr with
    | none => (errDhFwkResourceDbAdapterPointerNull, map)
    | some db =>
        let map := map.filter (fun key _ => !isCapKeyMatchDeviceId key deviceId)
        if db.removeDeviceData deviceId ≠ dhFwkSuccess then
          (errDhFwkResourceDbAdapterOperationFail, map)
        else (dhFwkSuccess, map)

end Managers
/-- An update that a check refuses, or that has no DB adapter, leaves the map as it was; one that
reaches the DB leaves the updated map, whether the DB fails or not. -/
structure MemoryFirst (update : Option DbAnswers → Int × RecordMap ρ)
    (map updated : RecordMap ρ) : Prop where
  refused : ∀ dbAdapterPtr, (update dbAdapterPtr).1 ≠ dhFwkSuccess →
    (update dbAdapterPtr).1 ≠ errDhFwkResourceDbAdapterOperationFail →
      (update dbAdapterPtr).2 = map
  noAdapter : (update none).1 ≠ dhFwkSuccess ∧ (update none).2 = map
  failed : ∀ dbAdapterPtr, (update dbAdapterPtr).1 = errDhFwkResourceDbAdapterOperationFail →
    (update dbAdapterPtr).2 = updated
  succeeded : ∀ dbAdapterPtr, (update dbAdapterPtr).1 = dhFwkSuccess →
    (update dbAdapterPtr).2 = updated

/-- The shape of all updates: a check, the adapter pointer, the map and then the DB. -/
def checkedUpdate (valid : Bool) (refusal : Int) (updated : RecordMap ρ) (fails : DbAnswers → Bool)
    (map : RecordMap ρ) (dbAdapterPtr : Option DbAnswers) : Int × RecordMap ρ :=
  if !valid then (refusal, map)
  else
    match dbAdapterPtr with
    | none => (errDhFwkResourceDbAdapterPointerNull, map)
    | some db =>
        (if fails db then errDhFwkResourceDbAdapterOperationFail else dhFwkSuccess, updated)

theorem memoryFirst_checkedUpdate {valid : Bool} {refusal : Int} {map updated : RecordMap ρ}
    {fails : DbAnswers → Bool} (notSuccess : refusal ≠ dhFwkSuccess)
    (notFailed : refusal ≠ errDhFwkResourceDbAdapterOperationFail) :
    MemoryFirst (checkedUpdate valid refusal updated fails map) map updated := by
  have nullCode : errDhFwkResourceDbAdapterPointerNull ≠ dhFwkSuccess ∧
      errDhFwkResourceDbAdapterPointerNull ≠ errDhFwkResourceDbAdapterOperationFail := by decide
  cases valid with
  | false =>
      exact ⟨fun _ _ _ => rfl, ⟨notSuccess, rfl⟩, fun _ failed => absurd failed notFailed,
        fun _ success => absurd success notSuccess⟩
  | true =>
      constructor
      case refused =>
        intro dbAdapterPtr success failed
        cases dbAdapterPtr with
        | none => rfl
        | some db =>
            cases answer : fails db with
            | true => exact absurd (by simp [checkedUpdate, answer]) failed
            | false => exact absurd (by simp [checkedUpdate, answer]) success
      case noAdapter => exact ⟨nullCode.1, rfl⟩
      case failed =>
        intro dbAdapterPtr failed
        cases dbAdapterPtr with
        | none => exact absurd failed nullCode.2
        | some db => rfl
      case succeeded =>
        intro dbAdapterPtr success
        cases dbAdapterPtr with
        | none => exact absurd success nullCode.1
        | some db => rfl

section Shapes
variable (key text : ρ → String) (same : String → ρ → Bool) {map : RecordMap ρ}

/-- The loop of an add saves every record, whatever the reads answer. -/
theorem map_foldl_addRecord (db : DbAnswers) (records : List (ρ × Nat)) (out : Batch ρ) :
    (records.foldl (addRecord key text same db) out).map =
      saveRecords key out.map (records.map Prod.fst) := by
  induction records generalizing out with
  | nil => rfl
  | cons record records ih =>
      have saved : (addRecord key text same db out record).map =
          out.map.insert (key record.1) record.1 := by
        unfold addRecord
        dsimp only
        split
        · split <;> rfl
        · rfl
      rw [List.foldl_cons, ih, saved]
      rfl

theorem addRecords_eq (records : List (Option ρ)) (dbAdapterPtr : Option DbAnswers) :
    addRecords key text same records dbAdapterPtr map =
      checkedUpdate (isHandledSize records) errDhFwkResourceResDbDataInvalid
        (saveRecords key map records.reduceOption)
        (fun db =>
          let out := records.reduceOption.zipIdx.foldl (addRecord key text same db) { map }
          !(out.keys.isEmpty || out.values.isEmpty) &&
            db.putDataBatch out.keys out.values != dhFwkSuccess) map dbAdapterPtr := by
  unfold addRecords checkedUpdate
  cases isHandledSize records with
  | false => rfl
  | true =>
      cases dbAdapterPtr with
      | none => rfl
      | some db =>
          have saved := map_foldl_addRecord key text same db records.reduceOption.zipIdx { map }
          rw [List.zipIdx_map_fst] at saved
          simp only [Bool.not_true, Bool.false_eq_true, if_false]
          rw [← saved]
          split
          · next empty => simp [empty]
          · next written =>
              by_cases answer : db.putDataBatch
                (records.reduceOption.zipIdx.foldl (addRecord key text same db) { map }).keys
                (records.reduceOption.zipIdx.foldl (addRecord key text same db) { map }).values =
                  dhFwkSuccess
              · simp [answer]
              · simp [written, answer]

theorem addRecords_memoryFirst (records : List (Option ρ)) :
    MemoryFirst (fun dbAdapterPtr => addRecords key text same records dbAdapterPtr map) map
      (saveRecords key map records.reduceOption) := by
  simp only [addRecords_eq]
  exact memoryFirst_checkedUpdate (by decide) (by decide)

theorem removeByKey_eq (removed : String) (dbAdapterPtr : Option DbAnswers) :
    removeByKey removed dbAdapterPtr map =
      checkedUpdate (isIdLengthValid removed) errDhFwkParaInvalid (map.erase removed)
        (fun db => db.removeDataByKey removed != dhFwkSuccess) map dbAdapterPtr := by
  unfold removeByKey checkedUpdate
  cases dbAdapterPtr with
  | none => rfl
  | some db => by_cases answer : db.removeDataByKey removed = dhFwkSuccess <;> simp [answer]

theorem removeByKey_memoryFirst (removed : String) :
    MemoryFirst (fun dbAdapterPtr => removeByKey removed dbAdapterPtr map) map
      (map.erase removed) := by
  simp only [removeByKey_eq]
  exact memoryFirst_checkedUpdate (by decide) (by decide)

end Shapes

theorem removeCapabilityInfoInDB_eq (deviceId : String) (dbAdapterPtr : Option DbAnswers)
    (map : CapabilityInfoMap) :
    removeCapabilityInfoInDB deviceId dbAdapterPtr map =
      checkedUpdate (isIdLengthValid deviceId) errDhFwkParaInvalid
        (map.filter (fun key _ => !isCapKeyMatchDeviceId key deviceId))
        (fun db => db.removeDeviceData deviceId != dhFwkSuccess) map dbAdapterPtr := by
  unfold removeCapabilityInfoInDB checkedUpdate
  cases dbAdapterPtr with
  | none => rfl
  | some db => by_cases answer : db.removeDeviceData deviceId = dhFwkSuccess <;> simp [answer]

/-- Under an adapter, whatever it answers, the capability updates are steps of the cache. -/
theorem update_cacheStep (parse : String → Option CJson)
    (printUnformatted : CJson → Option String) (db : DbAnswers) (map : CapabilityInfoMap) :
    (∀ resInfos, (addCapability parse printUnformatted resInfos (some db) map).2 =
      cacheStep parse (.addCapability resInfos) map) ∧
    (∀ deviceId, (removeCapabilityInfoInDB deviceId (some db) map).2 =
      cacheStep parse (.removeCapabilityInfoInDB deviceId) map) ∧
    ∀ key, (removeCapabilityInfoByKey key (some db) map).2 =
      cacheStep parse (.removeCapabilityInfoByKey key) map := by
  refine ⟨?_, ?_, ?_⟩
  · intro resInfos
    rw [addCapability, addRecords_eq, cacheStep, saveResInfos, checkedUpdate]
    cases isHandledSize resInfos <;> rfl
  · intro deviceId
    rw [removeCapabilityInfoInDB_eq, cacheStep, removeCapabilityInfoInMem, checkedUpdate]
    cases isIdLengthValid deviceId <;> rfl
  · intro key
    rw [removeCapabilityInfoByKey, removeByKey_eq, cacheStep, checkedUpdate]
    cases isIdLengthValid key <;> rfl

theorem removeCapabilityInfoInDB_memoryFirst (deviceId : String) (map : CapabilityInfoMap) :
    MemoryFirst (fun dbAdapterPtr => removeCapabilityInfoInDB deviceId dbAdapterPtr map) map
      (map.filter (fun key _ => !isCapKeyMatchDeviceId key deviceId)) := by
  simp only [removeCapabilityInfoInDB_eq]
  exact memoryFirst_checkedUpdate (by decide) (by decide)

/-- No update changes the map where a check refuses it or the adapter is missing; where the DB
fails, the map is the one that a successful update leaves. -/
theorem updates_memoryFirst (parse : String → Option CJson)
    (printUnformatted : CJson → Option String) (map : CapabilityInfoMap)
    (metaMap : MetaCapInfoMap) :
    (∀ resInfos, MemoryFirst
      (fun dbAdapterPtr => addCapability parse printUnformatted resInfos dbAdapterPtr map) map
      (saveRecords CapabilityInfo.getKey map resInfos.reduceOption)) ∧
    (∀ key, MemoryFirst (fun dbAdapterPtr => removeCapabilityInfoByKey key dbAdapterPtr map) map
      (map.erase key)) ∧
    (∀ deviceId, MemoryFirst
      (fun dbAdapterPtr => removeCapabilityInfoInDB deviceId dbAdapterPtr map) map
      (map.filter (fun key _ => !isCapKeyMatchDeviceId key deviceId))) ∧
    (∀ metaCapInfos, MemoryFirst
      (fun dbAdapterPtr => addMetaCapInfos printUnformatted metaCapInfos dbAdapterPtr metaMap)
      metaMap (saveRecords MetaCapabilityInfo.getKey metaMap metaCapInfos.reduceOption)) ∧
    ∀ key, MemoryFirst (fun dbAdapterPtr => removeMetaInfoByKey key dbAdapterPtr metaMap) metaMap
      (metaMap.erase key) :=
  ⟨addRecords_memoryFirst _ _ _, removeByKey_memoryFirst,
    fun deviceId => removeCapabilityInfoInDB_memoryFirst deviceId map,
    addRecords_memoryFirst _ _ _, removeByKey_memoryFirst⟩

/-- An adapter over a DB that refuses every write. -/
def refusing : DbAnswers where
  getDataByKey := fun _ _ => .error errDhFwkResourceKvStorageOperationFail
  putDataBatch := fun _ _ => errDhFwkResourceKvStorageOperationFail
  removeDeviceData := fun _ => errDhFwkResourceKvStorageOperationFail
  removeDataByKey := fun _ => errDhFwkResourceKvStorageOperationFail

private def failedCap : CapabilityInfo where
  dhId := "h"
  deviceId := "d"

private def failedMeta : MetaCapabilityInfo where
  dhId := "h"
  udidHash := "u"

/-- Each update changes the map although the DB refuses it: the adds keep their records, the
removals leave none. -/
theorem exists_failed_updates : ∃ (cap : CapabilityInfo) (metaCap : MetaCapabilityInfo),
    (∀ parse printUnformatted,
      (addCapability parse printUnformatted [some cap] (some refusing) ∅).1 =
        errDhFwkResourceDbAdapterOperationFail ∧
      cap.getKey ∈ (addCapability parse printUnformatted [some cap] (some refusing) ∅).2) ∧
    (∀ printUnformatted,
      (addMetaCapInfos printUnformatted [some metaCap] (some refusing) ∅).1 =
        errDhFwkResourceDbAdapterOperationFail ∧
      metaCap.getKey ∈ (addMetaCapInfos printUnformatted [some metaCap] (some refusing) ∅).2) ∧
    (∃ map : CapabilityInfoMap, cap.getKey ∈ map ∧
      (removeCapabilityInfoByKey cap.getKey (some refusing) map).1 =
        errDhFwkResourceDbAdapterOperationFail ∧
      cap.getKey ∉ (removeCapabilityInfoByKey cap.getKey (some refusing) map).2) ∧
    (∃ map : CapabilityInfoMap, cap.getKey ∈ map ∧
      (removeCapabilityInfoInDB cap.deviceId (some refusing) map).1 =
        errDhFwkResourceDbAdapterOperationFail ∧
      cap.getKey ∉ (removeCapabilityInfoInDB cap.deviceId (some refusing) map).2) ∧
    ∃ map : MetaCapInfoMap, metaCap.getKey ∈ map ∧
      (removeMetaInfoByKey metaCap.getKey (some refusing) map).1 =
        errDhFwkResourceDbAdapterOperationFail ∧
      metaCap.getKey ∉ (removeMetaInfoByKey metaCap.getKey (some refusing) map).2 := by
  have capKey : isIdLengthValid failedCap.getKey = true := by decide +kernel
  have metaKey : isIdLengthValid failedMeta.getKey = true := by decide +kernel
  have device : isIdLengthValid failedCap.deviceId = true := by decide +kernel
  have ofDevice : isCapKeyMatchDeviceId failedCap.getKey failedCap.deviceId = true := by
    decide +kernel
  have fails : ¬ errDhFwkResourceKvStorageOperationFail = dhFwkSuccess := by decide
  let caps := (∅ : CapabilityInfoMap).insert failedCap.getKey failedCap
  let metas := (∅ : MetaCapInfoMap).insert failedMeta.getKey failedMeta
  refine ⟨failedCap, failedMeta, ?_, ?_, ⟨caps, ?_⟩, ⟨caps, ?_⟩, ⟨metas, ?_⟩⟩
  · intro parse printUnformatted
    exact ⟨rfl, Std.TreeMap.mem_insert_self⟩
  · intro printUnformatted
    exact ⟨rfl, Std.TreeMap.mem_insert_self⟩
  · simp [removeCapabilityInfoByKey, removeByKey, capKey, refusing, fails, caps]
  · simp [removeCapabilityInfoInDB, device, refusing, fails, ofDevice, caps, Std.TreeMap.mem_filter]
  · simp [removeMetaInfoByKey, removeByKey, metaKey, refusing, fails, metas]

end FailingDb
end DistributedHardware
