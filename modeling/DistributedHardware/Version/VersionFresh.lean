import DistributedHardware.Library.ReadThrough
import DistributedHardware.Version.VersionManager

/-!
What `GetVersion` answers against the version records in the DB.

The cached versions are copies of the records. They follow a record only where its
change is handled while its device is online, and going offline drops none of them.
-/

namespace DistributedHardware

/-- The versions cached for a device. -/
def cachedVersions (s : VersionState) (uuid : String) : Option CompVersions :=
  (s.dhVersions.get uuid).map DHVersion.compVersions

section Records
variable (v : VersionSetting) (s : VersionState)

/-- The versions of the record that the DB has of a device. -/
def recordVersions (uuid : String) : Option CompVersions :=
  (getVersionInfoByDeviceId v s (getDeviceIdByUuid v.sha256 uuid)).toOption.map
    VersionInfo.compVersions

/-- The version of a component in that record. -/
def latestVersion (uuid : String) (dhType : DhType) (isSink : Bool) : Option String :=
  ((recordVersions v s uuid).bind (fun compVersions => compVersions.get dhType)).map
    (fun compVersion => compVersion.version isSink)

/-- For a device that is online `GetVersion` answers what the latest record says. -/
def VersionsFresh : Prop :=
  ∀ e ∈ s.devIdEntrySet, ∀ dhType isSink,
    (getVersion v s e.uuid dhType isSink).1.toOption = latestVersion v s e.uuid dhType isSink

end Records

inductive ChangeKind
  | save | delete
  deriving DecidableEq

/-- One changed record, and whether its list is handled. -/
structure RecordChange where
  kind : ChangeKind
  handled : Bool
  record : Entry

def recordChanges (changes : ChangeNotification) : List RecordChange :=
  changes.insertEntries.map (.mk .save (isHandledSize changes.insertEntries)) ++
  changes.updateEntries.map (.mk .save (isHandledSize changes.updateEntries)) ++
  changes.deleteEntries.map (.mk .delete (isHandledSize changes.deleteEntries))

section Changes
variable (v : VersionSetting)

/-- The versions a record's text gives. -/
def textVersions (value : String) : Option CompVersions :=
  (v.fromJsonString value).toOption.map VersionInfo.compVersions

/-- The online device that a record's text names. -/
def namedUuid (set : DeviceIdEntrySet) (value : String) : Option String :=
  match v.fromJsonString value with
  | .error _ => none
  | .ok versionInfo =>
      let uuid := getUuidByDeviceId versionInfo.deviceId set
      if isIdLengthValid uuid then some uuid else none

/-- The device whose cached versions the handling of a change sets or removes. -/
def RecordChange.target (set : DeviceIdEntrySet) (c : RecordChange) : Option String :=
  if c.handled then namedUuid v set c.record.value else none

/-- What a change leaves of a copy or of a record. -/
def RecordChange.versions (c : RecordChange) : Option CompVersions :=
  match c.kind with
  | .save => textVersions v c.record.value
  | .delete => none

def recordStep (s : VersionState) (c : RecordChange) : VersionState :=
  match c.kind with
  | .save =>
      { s with
        dhVersions :=
          if c.handled then saveVersion v s.devIdEntrySet s.dhVersions c.record else s.dhVersions
        db := s.db.insert c.record.key c.record.value }
  | .delete =>
      { s with
        dhVersions :=
          if c.handled then deleteVersion v s.devIdEntrySet s.dhVersions c.record
          else s.dhVersions
        db := s.db.erase c.record.key }

/-- A change of the record of a device with cached versions is handled for this device,
or saves a record with the versions that are cached. A record that is saved into the
cache is the record of the device it is cached for. -/
structure Followed (s : VersionState) (c : RecordChange) : Prop where
  cached : ∀ uuid compVersions, cachedVersions s uuid = some compVersions →
    getDeviceIdByUuid v.sha256 uuid = c.record.key →
      c.target v s.devIdEntrySet = some uuid ∨ c.versions v = some compVersions
  own : c.kind = .save → ∀ uuid ∈ c.target v s.devIdEntrySet,
    isIdLengthValid c.record.key = true ∧ getDeviceIdByUuid v.sha256 uuid = c.record.key

/-- Each change of a notification is followed when its turn comes. -/
def allFollowed (s : VersionState) : List RecordChange → Prop
  | [] => True
  | c :: changes => Followed v s c ∧ allFollowed (recordStep v s c) changes

def followsRecords (s : VersionState) : VersionEvent → Prop
  | .onChange changes => allFollowed v s (recordChanges changes)
  | _ => True

end Changes

section Steps
variable {v : VersionSetting} {s : VersionState}

theorem foldl_recordStep_save (handled : Bool) (entries : List Entry) (s : VersionState) :
    (entries.map (RecordChange.mk .save handled)).foldl (recordStep v) s =
      { s with
        dhVersions := if handled then entries.foldl (saveVersion v s.devIdEntrySet) s.dhVersions
          else s.dhVersions
        db := entries.foldl (fun db record => db.insert record.key record.value) s.db } := by
  induction entries generalizing s with
  | nil => cases handled <;> rfl
  | cons record entries ih =>
      rw [List.map_cons, List.foldl_cons, ih]
      cases handled <;> rfl

theorem foldl_recordStep_delete (handled : Bool) (entries : List Entry) (s : VersionState) :
    (entries.map (RecordChange.mk .delete handled)).foldl (recordStep v) s =
      { s with
        dhVersions := if handled then entries.foldl (deleteVersion v s.devIdEntrySet) s.dhVersions
          else s.dhVersions
        db := entries.foldl (fun db record => db.erase record.key) s.db } := by
  induction entries generalizing s with
  | nil => cases handled <;> rfl
  | cons record entries ih =>
      rw [List.map_cons, List.foldl_cons, ih]
      cases handled <;> rfl

/-- A notification is handled record by record. -/
theorem versionStep_onChange (changes : ChangeNotification) :
    versionStep v s (.onChange changes) = (recordChanges changes).foldl (recordStep v) s := by
  rw [recordChanges, List.foldl_append, List.foldl_append, foldl_recordStep_save,
    foldl_recordStep_save, foldl_recordStep_delete]
  simp only [versionStep, versionOnChange, handleVersionAddChange, handleVersionUpdateChange,
    handleVersionDeleteChange]
  cases isHandledSize changes.insertEntries <;> cases isHandledSize changes.updateEntries <;>
    cases isHandledSize changes.deleteEntries <;> rfl

/-- A version is added under a valid uuid only. -/
theorem get_addDHVersion {dhVersions : DHVersions} {uuid other : String} {dhVersion : DHVersion} :
    Store.get (dhVersions.addDHVersion uuid dhVersion).2 other =
      if isIdLengthValid uuid = true ∧ other = uuid then some dhVersion
      else Store.get dhVersions other := by
  cases valid : isIdLengthValid uuid with
  | true => simp [DHVersions.addDHVersion, valid]
  | false => simp [DHVersions.addDHVersion, valid]

theorem get_removeDHVersion {dhVersions : DHVersions} {uuid other : String} :
    Store.get (dhVersions.removeDHVersion uuid).2 other =
      if isIdLengthValid uuid = true ∧ other = uuid then none else Store.get dhVersions other := by
  cases valid : isIdLengthValid uuid with
  | false => simp [DHVersions.removeDHVersion, valid]
  | true =>
      cases hget : Store.get dhVersions uuid with
      | some dhVersion => simp [DHVersions.removeDHVersion, valid, hget]
      | none =>
          simp only [DHVersions.removeDHVersion, valid, hget, Option.isNone_none, Bool.not_true,
            Bool.false_eq_true, if_false, if_true, true_and]
          split
          case isTrue heq => rw [heq, hget]
          case isFalse => rfl

/-- A handler that writes under the uuid it has looked up, unless that is empty. -/
theorem get_underNamed {dhVersions handled : DHVersions} {named uuid : String}
    {copy : Option DHVersion}
    (reads : Store.get handled uuid =
      if isIdLengthValid named = true ∧ uuid = named then copy else Store.get dhVersions uuid) :
    (Store.get (if named = "" then dhVersions else handled) uuid).map DHVersion.compVersions =
      if (if isIdLengthValid named = true then some named else none) = some uuid then
        copy.map DHVersion.compVersions
      else (Store.get dhVersions uuid).map DHVersion.compVersions := by
  by_cases valid : isIdLengthValid named = true
  · rw [if_neg (ne_empty_of_isIdLengthValid valid), reads, if_pos valid]
    by_cases heq : uuid = named
    · simp [valid, heq]
    · simp [heq, Ne.symm heq]
  · rw [if_neg valid]
    simp only [reduceCtorEq, if_false]
    split
    case isTrue => rfl
    case isFalse => rw [reads, if_neg (fun h => valid h.1)]

theorem get_saveVersion {set : DeviceIdEntrySet} {dhVersions : DHVersions} {record : Entry}
    {uuid : String} :
    (Store.get (saveVersion v set dhVersions record) uuid).map DHVersion.compVersions =
      if namedUuid v set record.value = some uuid then textVersions v record.value
      else (Store.get dhVersions uuid).map DHVersion.compVersions := by
  cases hinfo : v.fromJsonString record.value with
  | error ret => simp [saveVersion, namedUuid, hinfo]
  | ok versionInfo =>
      simp only [saveVersion, updateVersionCache, namedUuid, textVersions, hinfo]
      exact get_underNamed get_addDHVersion

theorem get_deleteVersion {set : DeviceIdEntrySet} {dhVersions : DHVersions} {record : Entry}
    {uuid : String} :
    (Store.get (deleteVersion v set dhVersions record) uuid).map DHVersion.compVersions =
      if namedUuid v set record.value = some uuid then none
      else (Store.get dhVersions uuid).map DHVersion.compVersions := by
  cases hinfo : v.fromJsonString record.value with
  | error ret => simp [deleteVersion, namedUuid, hinfo]
  | ok versionInfo =>
      simp only [deleteVersion, namedUuid, hinfo]
      exact get_underNamed get_removeDHVersion

/-- The handling of a change sets or removes its target's copy. -/
theorem cachedVersions_recordStep (c : RecordChange) (uuid : String) :
    cachedVersions (recordStep v s c) uuid =
      if c.target v s.devIdEntrySet = some uuid then c.versions v else cachedVersions s uuid := by
  obtain ⟨kind, handled, record⟩ := c
  cases handled with
  | false => cases kind <;> rfl
  | true =>
      cases kind with
      | save => exact get_saveVersion
      | delete => exact get_deleteVersion

/-- The record of a device under another key stays. -/
theorem recordVersions_recordStep (c : RecordChange) (uuid : String) :
    recordVersions v (recordStep v s c) uuid =
      if getDeviceIdByUuid v.sha256 uuid = c.record.key ∧ isIdLengthValid c.record.key = true then
        c.versions v
      else recordVersions v s uuid := by
  have stored (key : String) : (recordStep v s c).db[key]? =
      if key = c.record.key then
        (match c.kind with
        | .save => some c.record.value
        | .delete => none)
      else s.db[key]? := by
    unfold recordStep
    cases c.kind with
    | save =>
        exact (congrFun (Writes.getElem?_insert s.db c.record.key c.record.value) key).trans
          (Function.update_apply _ _ _ _)
    | delete =>
        exact (congrFun (Writes.getElem?_erase s.db c.record.key) key).trans
          (Function.update_apply _ _ _ _)
  simp only [recordVersions, getVersionInfoByDeviceId, KvStore.getDataByKey, stored]
  generalize getDeviceIdByUuid v.sha256 uuid = deviceId
  by_cases hkey : deviceId = c.record.key
  · subst hkey
    cases valid : isIdLengthValid c.record.key with
    | false => simp
    | true =>
        cases hkind : c.kind with
        | save => simp [RecordChange.versions, hkind, textVersions]
        | delete => simp [RecordChange.versions, hkind, Except.toOption]
  · simp [hkey]

end Steps
section Agreement
variable {v : VersionSetting} {s : VersionState}

/-- A followed change leaves copies of the records. -/
theorem agrees_recordStep {c : RecordChange}
    (h : ReadThrough.Agrees (cachedVersions s) (recordVersions v s)) (followed : Followed v s c) :
    ReadThrough.Agrees (cachedVersions (recordStep v s c))
      (recordVersions v (recordStep v s c)) := by
  let others : String → Option CompVersions := fun uuid =>
    if c.target v s.devIdEntrySet = some uuid then none else cachedVersions s uuid
  have agrees : ReadThrough.Agrees others (recordVersions v s) := by
    apply h.of_le
    intro uuid compVersions hcached
    simp only [others] at hcached
    split at hcached
    case isTrue => cases hcached
    case isFalse => exact .inl hcached
  -- the copies that stay agree with the changed record
  have agrees' : ReadThrough.Agrees others (recordVersions v (recordStep v s c)) := by
    apply agrees.source
    intro uuid compVersions hcached
    rw [recordVersions_recordStep]
    simp only [others] at hcached
    split at hcached
    case isTrue => cases hcached
    case isFalse untouched =>
      split
      case isTrue changed =>
        exact .inr ((followed.cached uuid compVersions hcached changed.1).resolve_left untouched)
      case isFalse => exact .inl rfl
  apply agrees'.of_le
  intro uuid compVersions hcached
  rw [cachedVersions_recordStep] at hcached
  simp only [others]
  split at hcached
  case isFalse untouched =>
    rw [if_neg untouched]
    exact .inl hcached
  case isTrue target =>
    refine .inr ?_
    have hsave : c.kind = .save := by
      cases hkind : c.kind with
      | save => rfl
      | delete => simp [RecordChange.versions, hkind] at hcached
    obtain ⟨valid, hkey⟩ := followed.own hsave uuid target
    rw [recordVersions_recordStep, if_pos ⟨hkey, valid⟩]
    exact hcached

theorem agrees_foldl_recordStep {changes : List RecordChange}
    (h : ReadThrough.Agrees (cachedVersions s) (recordVersions v s))
    (followed : allFollowed v s changes) :
    ReadThrough.Agrees (cachedVersions (changes.foldl (recordStep v) s))
      (recordVersions v (changes.foldl (recordStep v) s)) := by
  induction changes generalizing s with
  | nil => exact h
  | cons c changes ih => exact ih (agrees_recordStep h followed.1) followed.2

/-- What `GetVersion` reads it leaves as a copy. -/
theorem agrees_getVersion (h : ReadThrough.Agrees (cachedVersions s) (recordVersions v s))
    (uuid : String) (dhType : DhType) (isSink : Bool) :
    ReadThrough.Agrees (cachedVersions (getVersion v s uuid dhType isSink).2)
      (recordVersions v (getVersion v s uuid dhType isSink).2) := by
  have filled : ReadThrough.Agrees
      (cachedVersions (getVersionFromVerInfoMgr v s uuid dhType isSink).2)
      (recordVersions v (getVersionFromVerInfoMgr v s uuid dhType isSink).2) := by
    unfold getVersionFromVerInfoMgr
    split
    · exact h
    · cases hinfo : getVersionInfoByDeviceId v s (getDeviceIdByUuid v.sha256 uuid) with
      | error ret => exact h
      | ok versionInfo =>
          simp only
          split
          · exact h
          · refine h.of_le (fun other compVersions hcached => ?_)
            simp only [cachedVersions, get_addDHVersion] at hcached
            split at hcached
            case isFalse => exact .inl hcached
            case isTrue added =>
              rw [added.2, recordVersions, hinfo]
              exact .inr hcached
  unfold getVersion
  split
  · exact h
  · split
    · split
      · exact h
      · exact filled
    · exact filled

/-- A version that `GetVersion` takes from the cache. -/
def cachedVersion (s : VersionState) (key : String × DhType × Bool) : Option String :=
  (((cachedVersions s key.1).bind (fun compVersions => compVersions.get key.2.1)).map
    (fun compVersion => compVersion.version key.2.2)).filter (fun version => version ≠ "")

theorem agrees_cachedVersion
    (h : ReadThrough.Agrees (cachedVersions s) (recordVersions v s)) :
    ReadThrough.Agrees (cachedVersion s)
      (fun key => latestVersion v s key.1 key.2.1 key.2.2) := by
  rintro ⟨uuid, dhType, isSink⟩ version hcached
  obtain ⟨hversion, -⟩ := Option.filter_eq_some_iff.mp hcached
  obtain ⟨compVersion, hcomp, hversion⟩ := Option.map_eq_some_iff.mp hversion
  obtain ⟨compVersions, hcompVersions, hget⟩ := Option.bind_eq_some_iff.mp hcomp
  simp only [latestVersion, h uuid compVersions hcompVersions, Option.bind_some, hget,
    Option.map_some, hversion]

theorem toOption_getVersionFromVerInfoMgr (uuid : String) (dhType : DhType) (isSink : Bool) :
    (getVersionFromVerInfoMgr v s uuid dhType isSink).1.toOption =
      latestVersion v s uuid dhType isSink := by
  cases valid : isIdLengthValid uuid with
  | false =>
      have empty : isIdLengthValid "" = false := rfl
      simp [getVersionFromVerInfoMgr, latestVersion, recordVersions, getVersionInfoByDeviceId,
        getDeviceIdByUuid, valid, empty, Except.toOption]
  | true =>
      simp only [getVersionFromVerInfoMgr, latestVersion, recordVersions, valid, Bool.not_true,
        Bool.false_eq_true, if_false]
      cases getVersionInfoByDeviceId v s (getDeviceIdByUuid v.sha256 uuid) with
      | error ret => rfl
      | ok versionInfo =>
          cases hget : versionInfo.compVersions.get dhType with
          | none => simp [Except.toOption, hget]
          | some compVersion => simp [Except.toOption, hget]

/-- The first part of `GetVersion` finds what is cached. -/
theorem toOption_getVersionFromVerMgr {uuid : String} (valid : isIdLengthValid uuid = true)
    (dhType : DhType) (isSink : Bool) :
    (getVersionFromVerMgr s uuid dhType isSink).toOption =
      ((cachedVersions s uuid).bind (fun compVersions => compVersions.get dhType)).map
        (fun compVersion => compVersion.version isSink) := by
  simp only [getVersionFromVerMgr, DHVersions.getCompVersion, DHVersions.getDHVersion,
    cachedVersions, valid, Bool.not_true, Bool.false_eq_true, if_false]
  cases Store.get s.dhVersions uuid with
  | none => rfl
  | some dhVersion =>
      cases hget : dhVersion.compVersions.get dhType with
      | none => simp [Except.toOption, hget]
      | some compVersion => simp [Except.toOption, hget]

/-- `GetVersion` reads through the cache. -/
theorem toOption_getVersion {uuid : String} (valid : isIdLengthValid uuid = true)
    (dhType : DhType) (isSink : Bool) :
    (getVersion v s uuid dhType isSink).1.toOption =
      ReadThrough.read (cachedVersion s) (fun key => latestVersion v s key.1 key.2.1 key.2.2)
        (uuid, dhType, isSink) := by
  have cached := toOption_getVersionFromVerMgr (s := s) valid dhType isSink
  simp only [getVersion, valid, Bool.not_true, Bool.false_eq_true, if_false]
  cases hversion : getVersionFromVerMgr s uuid dhType isSink with
  | error ret =>
      rw [hversion] at cached
      simp only [ReadThrough.read, cachedVersion, ← cached, toOption_getVersionFromVerInfoMgr]
      rfl
  | ok version =>
      rw [hversion] at cached
      simp only [ReadThrough.read, cachedVersion, ← cached]
      by_cases hempty : version = ""
      · rw [if_neg (not_not.mpr hempty), toOption_getVersionFromVerInfoMgr]
        simp [Except.toOption, Option.filter, hempty]
      · rw [if_pos hempty]
        simp [Except.toOption, Option.filter, hempty]

/-- Where the cache holds copies of the records, `GetVersion` answers what they say. -/
theorem versionsFresh_of_agrees
    (h : ReadThrough.Agrees (cachedVersions s) (recordVersions v s)) : VersionsFresh v s := by
  intro e _ dhType isSink
  cases valid : isIdLengthValid e.uuid with
  | true => rw [toOption_getVersion valid, (agrees_cachedVersion h).read_eq]
  | false =>
      have notFound := toOption_getVersionFromVerInfoMgr (v := v) (s := s) e.uuid dhType isSink
      rw [← notFound]
      simp [getVersion, getVersionFromVerInfoMgr, valid]

end Agreement
section Camera

private def deviceIdA : String :=
  "c965835a9a7187cd4dcd14805363f60cee6da56a4cadd5d74f07f47b40bbd40f"

private def recordText (version : String) : String :=
  "\x7b\"dev_id\":\"" ++ deviceIdA ++ "\",\"comp_ver\":[\x7b\"type\":1,\"sink_ver\":\"" ++
    version ++ "\"\x7d]\x7d"

private def recordJson (version : String) : CJson :=
  .object [("dev_id", .string deviceIdA),
    ("comp_ver", .array [.object [("type", .number 1), ("sink_ver", .string version)]])]

private def sampleSetting : VersionSetting where
  sha256 := fun text =>
    if text = "uA" then deviceIdA
    else "8ba8dcdbd62860b96080baec5954ecb41c72d847bec00fcd33a40f8dffb3e481"
  parse := fun text =>
    if text = recordText "1.0" then some (recordJson "1.0")
    else if text = recordText "2.0" then some (recordJson "2.0")
    else none

private def onLineA : VersionEvent := .onLine "dA" "uA" "nA"

private def insertedA : VersionEvent :=
  .onChange { insertEntries := [⟨deviceIdA, recordText "1.0"⟩] }

end Camera
end DistributedHardware
