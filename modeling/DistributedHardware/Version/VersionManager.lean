import DistributedHardware.Common.DhContext
import DistributedHardware.Library.Transition
import DistributedHardware.Resource.ChangeHandlers
import DistributedHardware.Resource.DbAdapter
import DistributedHardware.Version.VersionInfo

/-!
The versions of the devices' components: the cache of `VersionManager`, the DB of
`VersionInfoManager` in front of which it stands, and `ComponentManager::GetVersion`.

The local device's own entry, which `VersionManager::Init` adds, is left out.
-/

namespace DistributedHardware

abbrev DHVersions := Store String DHVersion

namespace DHVersions
variable (uuid : String) (dhVersions : DHVersions)

def addDHVersion (dhVersion : DHVersion) : Int × DHVersions :=
  if !isIdLengthValid uuid then (errDhFwkParaInvalid, dhVersions)
  else (dhFwkSuccess, dhVersions.set uuid dhVersion)

def removeDHVersion : Int × DHVersions :=
  if !isIdLengthValid uuid then (errDhFwkParaInvalid, dhVersions)
  else if (dhVersions.get uuid).isNone then (errDhFwkVersionDeviceIdNotExist, dhVersions)
  else (dhFwkSuccess, dhVersions.erase uuid)

def getDHVersion : Except Int DHVersion :=
  if !isIdLengthValid uuid then .error errDhFwkParaInvalid
  else
    match dhVersions.get uuid with
    | none => .error errDhFwkVersionDeviceIdNotExist
    | some dhVersion => .ok dhVersion

def getCompVersion (dhType : DhType) : Except Int CompVersion :=
  if !isIdLengthValid uuid then .error errDhFwkParaInvalid
  else
    match dhVersions.getDHVersion uuid with
    | .error ret => .error ret
    | .ok dhVersion =>
      match dhVersion.compVersions.get dhType with
      | none => .error errDhFwkTypeNotExist
      | some compVersion => .ok compVersion

end DHVersions

def CompVersion.version (compVersion : CompVersion) (isSink : Bool) : String :=
  if isSink then compVersion.sinkVersion else compVersion.sourceVersion

structure VersionState where
  devIdEntrySet : DeviceIdEntrySet := ∅
  dhVersions : DHVersions := ∅
  /-- The version records. -/
  db : KvStore := ∅

section Handlers
variable (v : VersionSetting) (set : DeviceIdEntrySet) (dhVersions : DHVersions)

/-- `VersionInfoManager::UpdateVersionCache`. -/
def updateVersionCache (versionInfo : VersionInfo) : DHVersions :=
  let uuid := getUuidByDeviceId versionInfo.deviceId set
  if uuid = "" then dhVersions
  else
    (dhVersions.addDHVersion uuid
      { uuid, dhVersion := versionInfo.dhVersion, compVersions := versionInfo.compVersions }).2

/-- One inserted or updated record. -/
def saveVersion (record : Entry) : DHVersions :=
  match v.fromJsonString record.value with
  | .error _ => dhVersions
  | .ok versionInfo => updateVersionCache set dhVersions versionInfo

/-- One deleted record. -/
def deleteVersion (record : Entry) : DHVersions :=
  match v.fromJsonString record.value with
  | .error _ => dhVersions
  | .ok versionInfo =>
      let uuid := getUuidByDeviceId versionInfo.deviceId set
      if uuid = "" then dhVersions else (dhVersions.removeDHVersion uuid).2

def handleVersionAddChange (insertRecords : List Entry) : DHVersions :=
  insertRecords.foldl (saveVersion v set) dhVersions

def handleVersionUpdateChange (updateRecords : List Entry) : DHVersions :=
  updateRecords.foldl (saveVersion v set) dhVersions

def handleVersionDeleteChange (deleteRecords : List Entry) : DHVersions :=
  deleteRecords.foldl (deleteVersion v set) dhVersions

/-- `VersionInfoManager::OnChange`. -/
def versionOnChange (changes : ChangeNotification) : DHVersions := Id.run do
  let mut dhVersions := dhVersions
  if isHandledSize changes.insertEntries then
    dhVersions := handleVersionAddChange v set dhVersions changes.insertEntries
  if isHandledSize changes.updateEntries then
    dhVersions := handleVersionUpdateChange v set dhVersions changes.updateEntries
  if isHandledSize changes.deleteEntries then
    dhVersions := handleVersionDeleteChange v set dhVersions changes.deleteEntries
  return dhVersions

end Handlers

section Lookup
variable (v : VersionSetting) (s : VersionState)

/-- `VersionInfoManager::GetVersionInfoByDeviceId`. -/
def getVersionInfoByDeviceId (deviceId : String) : Except Int VersionInfo :=
  if !isIdLengthValid deviceId then .error errDhFwkParaInvalid
  else
    match s.db.getDataByKey deviceId with
    | .error _ => .error errDhFwkResourceDbAdapterOperationFail
    | .ok data => v.fromJsonString data

def getVersionFromVerMgr (uuid : String) (dhType : DhType) (isSink : Bool) :
    Except Int String :=
  if !isIdLengthValid uuid then .error errDhFwkParaInvalid
  else
    match s.dhVersions.getCompVersion uuid dhType with
    | .error ret => .error ret
    | .ok compversion => .ok (compversion.version isSink)

/-- What it reads it leaves in the cache. -/
def getVersionFromVerInfoMgr (uuid : String) (dhType : DhType) (isSink : Bool) :
    Except Int String × VersionState :=
  if !isIdLengthValid uuid then (.error errDhFwkParaInvalid, s)
  else
    match getVersionInfoByDeviceId v s (getDeviceIdByUuid v.sha256 uuid) with
    | .error ret => (.error ret, s)
    | .ok versionInfo =>
      match versionInfo.compVersions.get dhType with
      | none => (.error errDhFwkComponentDhtypeNotFound, s)
      | some compVersion =>
        let dhVersion : DHVersion :=
          { uuid, dhVersion := versionInfo.dhVersion, compVersions := versionInfo.compVersions }
        (.ok (compVersion.version isSink),
          { s with dhVersions := (s.dhVersions.addDHVersion uuid dhVersion).2 })

/-- `ComponentManager::GetVersion`. An empty version counts as not found. -/
def getVersion (uuid : String) (dhType : DhType) (isSink : Bool) :
    Except Int String × VersionState :=
  if !isIdLengthValid uuid then (.error errDhFwkParaInvalid, s)
  else
    match getVersionFromVerMgr s uuid dhType isSink with
    | .ok version =>
        if version ≠ "" then (.ok version, s)
        else getVersionFromVerInfoMgr v s uuid dhType isSink
    | .error _ => getVersionFromVerInfoMgr v s uuid dhType isSink

end Lookup

/-- The DB after a notification's changes. -/
def changedRecords (changes : ChangeNotification) (db : KvStore) : KvStore :=
  let save (db : KvStore) (record : Entry) : KvStore := db.insert record.key record.value
  let db := changes.insertEntries.foldl save db
  let db := changes.updateEntries.foldl save db
  changes.deleteEntries.foldl (fun db record => db.erase record.key) db

inductive VersionEvent
  | onLine (udid uuid networkId : String)
  | offLine (networkId : String)
  | onChange (changes : ChangeNotification)
  | getVersion (uuid : String) (dhType : DhType) (isSink : Bool)

/-- A notification comes with the changes it tells of. -/
def versionStep (v : VersionSetting) (s : VersionState) : VersionEvent → VersionState
  | .onLine udid uuid networkId =>
      { s with devIdEntrySet := addOnlineDevice v.sha256 udid uuid networkId s.devIdEntrySet }
  | .offLine networkId =>
      { s with
        devIdEntrySet := removeOnlineDeviceIdEntryByNetworkId networkId s.devIdEntrySet }
  | .onChange changes =>
      { s with
        dhVersions := versionOnChange v s.devIdEntrySet s.dhVersions changes
        db := changedRecords changes s.db }
  | .getVersion uuid dhType isSink => (getVersion v s uuid dhType isSink).2

def versionSystem (v : VersionSetting) : TransitionSystem VersionState VersionEvent where
  init := fun s => s = {}
  step := fun s event => some (versionStep v s event)

end DistributedHardware
