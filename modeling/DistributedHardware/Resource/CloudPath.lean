import DistributedHardware.Resource.CacheFollows

/-!
The two notification paths of the capability and meta registries.

The cloud path looks the inserted and updated records up in the DB, and there it
does what the other path does. For a deleted key it builds an entry without a
value, which no handler can parse, so deletions do not get through.
-/

namespace DistributedHardware
variable {parse : String → Option CJson}

/-- The DB after a change: it has the saved records and no longer the deleted ones. -/
structure Reflects (db : String → Option String) (n : ChangeNotification) : Prop where
  insert : ∀ e ∈ n.insertEntries, db e.key = some e.value
  update : ∀ e ∈ n.updateEntries, db e.key = some e.value
  delete : ∀ e ∈ n.deleteEntries, db e.key = none

/-- The same cache and the same tasks. -/
def Agree {T : Type} (out out' : Outcome T) : Prop :=
  (∀ key : String, out.map[key]? = out'.map[key]?) ∧ out.created = out'.created

theorem getEntriesByKeys_of_reflects {db : String → Option String} {entries : List Entry}
    (found : ∀ e ∈ entries, db e.key = some e.value) :
    getEntriesByKeys db (entries.map Entry.key) =
      if isHandledSize entries then entries else [] := by
  have looked : (entries.map Entry.key).filterMap
      (fun key => (db key).map (fun value => ({ key, value } : Entry))) = entries := by
    induction entries with
    | nil => rfl
    | cons e entries ih =>
        rw [List.map_cons, List.filterMap_cons, found e List.mem_cons_self,
          ih (fun e' he' => found e' (List.mem_cons_of_mem _ he'))]
        rfl
  have sizes : isArrayLengthValid (entries.map Entry.key) = isHandledSize entries := by
    cases entries <;> simp [isArrayLengthValid, isHandledSize, maxArrSize, maxDbRecordSize]
  rw [getEntriesByKeys, sizes, looked]
  cases isHandledSize entries <;> rfl

section Deletes

/-- The task that the deletion of a record creates. -/
def deleteTask (parse : String → Option CJson) (turn : Turn) : Option CreatedTask :=
  match getCapabilityByValue parse turn.2.value with
  | .error _ => none
  | .ok cap => (peerOf turn.1 cap).map (changeTask .disable cap)

theorem deleteTask_eq_none_iff {turn : Turn} :
    deleteTask parse turn = none ↔
      ∀ cap, getCapabilityByValue parse turn.2.value = .ok cap → peerOf turn.1 cap = none := by
  unfold deleteTask
  cases getCapabilityByValue parse turn.2.value <;> simp

theorem created_foldl_deleteRecord (turns : List Turn) (out : Outcome CapabilityInfo) :
    (turns.foldl (deleteRecord parse) out).created =
      out.created ++ turns.filterMap (deleteTask parse) := by
  induction turns generalizing out with
  | nil => simp
  | cons turn turns ih =>
      rw [List.foldl_cons, ih]
      cases hcap : getCapabilityByValue parse turn.2.value with
      | error err => simp [deleteRecord, deleteTask, hcap]
      | ok cap =>
          cases hpeer : peerOf turn.1 cap with
          | none => simp [deleteRecord, deleteTask, hcap, hpeer]
          | some peer => simp [deleteRecord, deleteTask, hcap, hpeer]

theorem foldl_deleteRecord_of_no_task {turns : List Turn}
    (h : ∀ turn ∈ turns, deleteTask parse turn = none) (out : Outcome CapabilityInfo) :
    turns.foldl (deleteRecord parse) out = out := by
  induction turns generalizing out with
  | nil => rfl
  | cons turn turns ih =>
      have same : deleteRecord parse out turn = out := by
        have := h turn List.mem_cons_self
        cases hcap : getCapabilityByValue parse turn.2.value with
        | error err => simp [deleteRecord, hcap]
        | ok cap =>
            cases hpeer : peerOf turn.1 cap with
            | none => simp [deleteRecord, hcap, hpeer]
            | some peer => simp [deleteTask, hcap, hpeer] at this
      rw [List.foldl_cons, same, ih (fun t ht => h t (List.mem_cons_of_mem _ ht))]

/-- Deletions go unnoticed exactly where none of them creates a task. -/
theorem agree_foldl_deleteRecord_iff {turns : List Turn} {out : Outcome CapabilityInfo} :
    Agree (turns.foldl (deleteRecord parse) out) out ↔
      ∀ turn ∈ turns, deleteTask parse turn = none := by
  constructor
  · rintro ⟨-, created⟩
    rw [created_foldl_deleteRecord] at created
    exact List.filterMap_eq_nil_iff.mp (List.append_right_eq_self.mp created)
  · intro h
    rw [foldl_deleteRecord_of_no_task h]
    exact ⟨fun _ => rfl, rfl⟩

def deletedKey (parse : String → Option CJson) (turn : Turn) : Option String :=
  (getMetaCapabilityByValue parse turn.2.value).toOption.map MetaCapabilityInfo.getKey

theorem foldl_deleteMetaRecord (parse : String → Option CJson) (turns : List Turn)
    (out : Outcome MetaCapabilityInfo) :
    (fun key => (turns.foldl (deleteMetaRecord parse) out).map[key]?) =
        Writes.written (fun key => out.map[key]?)
          ((turns.filterMap (deletedKey parse)).map (fun key => (key, none))) ∧
      (turns.foldl (deleteMetaRecord parse) out).created = out.created := by
  induction turns generalizing out with
  | nil => exact ⟨rfl, rfl⟩
  | cons turn turns ih =>
      rw [List.foldl_cons, List.filterMap_cons]
      obtain ⟨map, created⟩ := ih (deleteMetaRecord parse out turn)
      rw [map, created]
      cases hcap : getMetaCapabilityByValue parse turn.2.value with
      | error err => simp [deleteMetaRecord, deletedKey, hcap, Except.toOption]
      | ok cap =>
          simp only [deleteMetaRecord, deletedKey, hcap, Except.toOption, Option.map_some,
            List.map_cons, Writes.written_cons, and_true, Writes.getElem?_erase]

theorem agree_foldl_deleteMetaRecord_iff {turns : List Turn} {out : Outcome MetaCapabilityInfo} :
    Agree (turns.foldl (deleteMetaRecord parse) out) out ↔
      ∀ turn ∈ turns, ∀ key, deletedKey parse turn = some key → key ∉ out.map := by
  obtain ⟨map, created⟩ := foldl_deleteMetaRecord parse turns out
  have reads (key : String) : (turns.foldl (deleteMetaRecord parse) out).map[key]? =
      if key ∈ turns.filterMap (deletedKey parse) then none else out.map[key]? := by
    rw [← Writes.written_removals]
    exact congrFun map key
  constructor
  · rintro ⟨same, -⟩ turn hturn key hkey hmem
    have := same key
    rw [reads, if_pos (List.mem_filterMap.mpr ⟨turn, hturn, hkey⟩)] at this
    exact absurd hmem ((Writes.getElem?_eq_none_iff _ _).mp this.symm)
  · intro h
    refine ⟨fun key => ?_, created⟩
    rw [reads]
    split
    case isTrue hmem =>
      obtain ⟨turn, hturn, hkey⟩ := List.mem_filterMap.mp hmem
      exact ((Writes.getElem?_eq_none_iff _ _).mpr (h turn hturn key hkey)).symm
    case isFalse => rfl

end Deletes

section Paths
variable {T : Type}

/-- A handled record leaves its key in the map. -/
def Puts (decode : String → Except Int T) (info : T → CapabilityInfo) (getKey : T → String)
    (skip : Shared → CapabilityInfo → Bool) (key : String) (turn : Turn) : Prop :=
  ∃ cap, decode turn.2.value = .ok cap ∧ (peerOf turn.1 (info cap)).isSome ∧
    skip turn.1 (info cap) = false ∧ getKey cap = key

theorem mem_foldl_saveRecord {decode : String → Except Int T} {info : T → CapabilityInfo}
    {getKey : T → String} {skip : Shared → CapabilityInfo → Bool} {turns : List Turn}
    {out : Outcome T} {key : String} :
    key ∈ (turns.foldl (saveRecord decode info getKey skip) out).map ↔
      key ∈ out.map ∨ ∃ turn ∈ turns, Puts decode info getKey skip key turn := by
  induction turns generalizing out with
  | nil => simp
  | cons turn turns ih =>
      have first : key ∈ (saveRecord decode info getKey skip out turn).map ↔
          key ∈ out.map ∨ Puts decode info getKey skip key turn := by
        unfold saveRecord
        cases hcap : decode turn.2.value with
        | error err => simp [Puts, hcap]
        | ok cap =>
            cases hpeer : peerOf turn.1 (info cap) with
            | none => simp [Puts, hcap, hpeer]
            | some peer =>
                cases hskip : skip turn.1 (info cap) with
                | true => simp [Puts, hcap, hpeer, hskip]
                | false => simp [Puts, hcap, hpeer, hskip, Std.TreeMap.mem_insert, or_comm]
      rw [List.foldl_cons, ih, first, or_assoc]
      simp only [List.mem_cons, exists_eq_or_imp]

/-- The map and the tasks once the inserted and updated records have been handled. -/
def savedBy (add : List Turn → Outcome T → Outcome T)
    (update : Shared → List Turn → Outcome T → Outcome T) (c : Changes) (out : Outcome T) :
    Outcome T :=
  let out := if isHandledSize c.insertEntries then add c.insertEntries out else out
  if isHandledSize c.updateEntries then update c.atUpdate c.updateEntries out else out

theorem onChange_eq (add : List Turn → Outcome T → Outcome T)
    (update delete : Shared → List Turn → Outcome T → Outcome T) (c : Changes) (out : Outcome T) :
    onChange add update delete c out =
      if isHandledSize c.deleteEntries then
        delete c.atDelete c.deleteEntries (savedBy add update c out)
      else savedBy add update c out := by
  simp only [onChange, savedBy]
  cases isHandledSize c.insertEntries <;> cases isHandledSize c.updateEntries <;>
    cases isHandledSize c.deleteEntries <;> rfl

variable {db : String → Option String} {n : ChangeNotification} {sh : Shared}

/-- Inserted and updated records come through the cloud path as they are. -/
theorem savedBy_cloudNotification (reflects : Reflects db n)
    (add : List Turn → Outcome T → Outcome T)
    (update : Shared → List Turn → Outcome T → Outcome T) (out : Outcome T) :
    savedBy add update ((cloudNotification db n.keys).during sh) out =
      savedBy add update (n.during sh) out := by
  simp only [savedBy, cloudNotification, ChangeNotification.keys, ChangeNotification.during,
    getEntriesByKeys_of_reflects reflects.insert, getEntriesByKeys_of_reflects reflects.update]
  have sizes (entries : List Entry) :
      isHandledSize (entries.map (fun e => (sh, e))) = isHandledSize entries := by
    simp [isHandledSize]
  have nothing : isHandledSize ([] : List Turn) = false := rfl
  cases hi : isHandledSize n.insertEntries <;> cases hu : isHandledSize n.updateEntries <;>
    simp [sizes, hi, hu, nothing]

end Paths

/-- No deleted record that the capability registry handles is of an online device. -/
def DeletesNothing (parse : String → Option CJson) (sh : Shared) (n : ChangeNotification) : Prop :=
  isHandledSize n.deleteEntries = true → sh.flagUnInit = false →
    ∀ e ∈ n.deleteEntries, ∀ cap, getCapabilityByValue parse e.value = .ok cap →
      peerOf sh cap = none

/-- A list of meta records puts one under the key. -/
def PutsMeta (parse : String → Option CJson) (sh : Shared)
    (skip : Shared → CapabilityInfo → Bool) (entries : List Entry) (key : String) : Prop :=
  isHandledSize entries = true ∧ ∃ e ∈ entries,
    Puts (getMetaCapabilityByValue parse) MetaCapabilityInfo.toCapabilityInfo
      MetaCapabilityInfo.getKey skip key (sh, e)

/-- No deleted record that the meta registry handles is in its map, or put there by the
same change. -/
def DeletesNoMeta (parse : String → Option CJson) (sh : Shared) (n : ChangeNotification)
    (map : MetaCapInfoMap) : Prop :=
  isHandledSize n.deleteEntries = true →
    ∀ e ∈ n.deleteEntries, ∀ cap, getMetaCapabilityByValue parse e.value = .ok cap →
      cap.getKey ∉ map ∧ ¬ PutsMeta parse sh (fun _ _ => false) n.insertEntries cap.getKey ∧
        ¬ PutsMeta parse sh isEnabledRecord n.updateEntries cap.getKey

section Agreement
variable {db : String → Option String} {n : ChangeNotification} {sh : Shared}

theorem handledSize_deletes (c : ChangeNotification) (sh : Shared) :
    isHandledSize (c.during sh).deleteEntries = isHandledSize c.deleteEntries := by
  simp [ChangeNotification.during, isHandledSize]

theorem handledSize_cloud (db : String → Option String) (n : ChangeNotification) :
    isHandledSize (cloudNotification db n.keys).deleteEntries = isHandledSize n.deleteEntries := by
  simp [cloudNotification, ChangeNotification.keys, isHandledSize]

/-- An entry without a value deletes nothing. -/
theorem deleteTask_cloud (parse : String → Option CJson) :
    ∀ turn ∈ ((cloudNotification db n.keys).during sh).deleteEntries,
      deleteTask parse turn = none := by
  simp [cloudNotification, ChangeNotification.during, deleteTask, getCapabilityByValue,
    getByValue_empty]

theorem deletedKey_cloud (parse : String → Option CJson) :
    ∀ turn ∈ ((cloudNotification db n.keys).during sh).deleteEntries,
      deletedKey parse turn = none := by
  simp [cloudNotification, ChangeNotification.during, deletedKey, getMetaCapabilityByValue,
    getByValue_empty, Except.toOption]

theorem capabilityCloudOnChange_eq (reflects : Reflects db n) (out : Outcome CapabilityInfo) :
    capabilityCloudOnChange parse sh db n.keys out =
      savedBy (handleCapabilityAddChange parse) (handleCapabilityUpdateChange parse)
        (n.during sh) out := by
  rw [capabilityCloudOnChange, capabilityOnChange, onChange_eq,
    savedBy_cloudNotification reflects, handledSize_deletes, handledSize_cloud]
  split
  · rw [handleCapabilityDeleteChange]
    split
    · rfl
    · exact foldl_deleteRecord_of_no_task (deleteTask_cloud parse) _
  · rfl

theorem capability_agrees_iff (reflects : Reflects db n) (out : Outcome CapabilityInfo) :
    Agree (capabilityOnChange parse (n.during sh) out)
        (capabilityCloudOnChange parse sh db n.keys out) ↔ DeletesNothing parse sh n := by
  rw [capabilityCloudOnChange_eq reflects, capabilityOnChange, onChange_eq, handledSize_deletes]
  cases hsize : isHandledSize n.deleteEntries with
  | false => exact iff_of_true ⟨fun _ => rfl, rfl⟩ (fun h => by simp [hsize] at h)
  | true =>
      have flag : (n.during sh).atDelete.flagUnInit = sh.flagUnInit := rfl
      rw [if_pos rfl, handleCapabilityDeleteChange, flag]
      cases hflag : sh.flagUnInit with
      | true => exact iff_of_true ⟨fun _ => rfl, rfl⟩ (fun _ h => by simp [hflag] at h)
      | false =>
          rw [if_neg Bool.false_ne_true, agree_foldl_deleteRecord_iff]
          simp [ChangeNotification.during, deleteTask_eq_none_iff, DeletesNothing, hsize, hflag]

theorem metaCloudOnChange_eq (parse : String → Option CJson) (sh : Shared)
    (reflects : Reflects db n) (out : Outcome MetaCapabilityInfo) :
    Agree (metaCloudOnChange parse sh db n.keys out)
      (savedBy (handleMetaCapabilityAddChange parse) (handleMetaCapabilityUpdateChange parse)
        (n.during sh) out) := by
  rw [metaCloudOnChange, metaOnChange, onChange_eq, savedBy_cloudNotification reflects]
  split
  · rw [handleMetaCapabilityDeleteChange, agree_foldl_deleteMetaRecord_iff]
    intro turn hturn key hkey
    rw [deletedKey_cloud parse turn hturn] at hkey
    cases hkey
  · exact ⟨fun _ => rfl, rfl⟩

theorem mem_savedBy_meta {out : Outcome MetaCapabilityInfo} {key : String} :
    key ∈ (savedBy (handleMetaCapabilityAddChange parse) (handleMetaCapabilityUpdateChange parse)
        (n.during sh) out).map ↔
      key ∈ out.map ∨ PutsMeta parse sh (fun _ _ => false) n.insertEntries key ∨
        PutsMeta parse sh isEnabledRecord n.updateEntries key := by
  have sizes (entries : List Entry) :
      isHandledSize (entries.map (fun e => (sh, e))) = isHandledSize entries := by
    simp [isHandledSize]
  have turns (skip : Shared → CapabilityInfo → Bool) (entries : List Entry) :
      (∃ turn ∈ entries.map (fun e => (sh, e)), Puts (getMetaCapabilityByValue parse)
        MetaCapabilityInfo.toCapabilityInfo MetaCapabilityInfo.getKey skip key turn) ↔
      ∃ e ∈ entries, Puts (getMetaCapabilityByValue parse) MetaCapabilityInfo.toCapabilityInfo
        MetaCapabilityInfo.getKey skip key (sh, e) := by
    simp
  simp only [savedBy, ChangeNotification.during, sizes, handleMetaCapabilityAddChange,
    handleMetaCapabilityUpdateChange, PutsMeta]
  cases isHandledSize n.insertEntries <;> cases isHandledSize n.updateEntries <;>
    simp only [Bool.false_eq_true, if_false, if_true, mem_foldl_saveRecord, turns, false_and,
      true_and, or_false, false_or, or_assoc]

theorem meta_agrees_iff (reflects : Reflects db n) (out : Outcome MetaCapabilityInfo) :
    Agree (metaOnChange parse (n.during sh) out) (metaCloudOnChange parse sh db n.keys out) ↔
      DeletesNoMeta parse sh n out.map := by
  obtain ⟨sameMap, sameCreated⟩ := metaCloudOnChange_eq parse sh reflects out
  have through : Agree (metaOnChange parse (n.during sh) out)
        (metaCloudOnChange parse sh db n.keys out) ↔
      Agree (metaOnChange parse (n.during sh) out)
        (savedBy (handleMetaCapabilityAddChange parse) (handleMetaCapabilityUpdateChange parse)
          (n.during sh) out) := by
    simp only [Agree, sameMap, sameCreated]
  rw [through, metaOnChange, onChange_eq, handledSize_deletes]
  cases hsize : isHandledSize n.deleteEntries with
  | false => exact iff_of_true ⟨fun _ => rfl, rfl⟩ (fun h => by simp [hsize] at h)
  | true =>
      rw [if_pos rfl, handleMetaCapabilityDeleteChange, agree_foldl_deleteMetaRecord_iff]
      constructor
      · intro h _ e he cap hcap
        have absent := h (sh, e) (List.mem_map_of_mem he) cap.getKey
          (by simp [deletedKey, hcap, Except.toOption])
        rw [mem_savedBy_meta] at absent
        tauto
      · intro h turn hturn key hkey
        obtain ⟨e, he, rfl⟩ := List.mem_map.mp hturn
        rw [mem_savedBy_meta]
        cases hcap : getMetaCapabilityByValue parse e.value with
        | error err => simp [deletedKey, hcap, Except.toOption] at hkey
        | ok cap =>
            obtain rfl : cap.getKey = key := by
              simpa [deletedKey, hcap, Except.toOption] using hkey
            have absent := h hsize e he cap hcap
            tauto

/-- The two paths of both registries agree exactly where no deletion has an effect. -/
theorem cloudOnChange_agrees_iff (reflects : Reflects db n) (out : Outcome CapabilityInfo)
    (metaOut : Outcome MetaCapabilityInfo) :
    (Agree (capabilityOnChange parse (n.during sh) out)
        (capabilityCloudOnChange parse sh db n.keys out) ↔ DeletesNothing parse sh n) ∧
    (Agree (metaOnChange parse (n.during sh) metaOut)
        (metaCloudOnChange parse sh db n.keys metaOut) ↔ DeletesNoMeta parse sh n metaOut.map) :=
  ⟨capability_agrees_iff reflects out, meta_agrees_iff reflects metaOut⟩

end Agreement

section Camera

/-- A DB that has the camera's record. -/
private def cameraDb (key : String) : Option String :=
  if key = cameraKey then some (cameraJson "hd") else none

theorem cloudOnChange_agrees_camera :
    Agree
      (capabilityOnChange sampleParse
        (({ insertEntries := [cameraEntry "hd"] } : ChangeNotification).during deviceAOnline)
        { map := ∅ })
      (capabilityCloudOnChange sampleParse deviceAOnline cameraDb { insert := [cameraKey] }
        { map := ∅ }) := by
  have reflects : Reflects cameraDb { insertEntries := [cameraEntry "hd"] } := by
    constructor
    case insert => simp [cameraEntry, cameraDb]
    case update | delete => simp
  refine (cloudOnChange_agrees_iff reflects { map := ∅ } { map := ∅ }).1.mpr ?_
  exact fun h => absurd h (by decide)

/-- The camera's record is deleted: the cloud path leaves it in the cache and creates
no `DisableTask`. -/
theorem exists_cloud_deletion_lost :
    ∃ (n : ChangeNotification) (db : String → Option String) (out : Outcome CapabilityInfo),
      Reflects db n ∧
      cacheOf (capabilityOnChange sampleParse (n.during deviceAOnline) out) cameraKey = none ∧
      cacheOf (capabilityCloudOnChange sampleParse deviceAOnline db n.keys out) cameraKey =
        some (cameraRecord "hd") ∧
      (capabilityOnChange sampleParse (n.during deviceAOnline) out).created =
        [(.disable, { deviceA with udid := "", dhId := "camera", dhType := DhType.camera })] ∧
      (capabilityCloudOnChange sampleParse deviceAOnline db n.keys out).created = [] := by
  refine ⟨{ deleteEntries := [cameraEntry "hd"] }, fun _ => none,
    { map := Std.TreeMap.empty.insert cameraKey (cameraRecord "hd") }, ?_, ?_⟩
  · constructor
    case insert | update => simp
    case delete => simp
  · decide +kernel

end Camera
end DistributedHardware
