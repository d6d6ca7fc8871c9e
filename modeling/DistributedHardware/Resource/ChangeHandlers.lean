import DistributedHardware.Library.Writes
import DistributedHardware.Task.Step

/-!
The change notifications of the capability and meta registries.

The two registries handle a list of inserted or updated records alike and differ
in what they check before it; they treat deleted records each in its own way. A
record is handled with the state of the service when its turn comes, so the
devices and the enabled hardware may change between two records of one list.
-/

namespace DistributedHardware

/-- `DistributedKv::Entry`. -/
structure Entry where
  key : String
  value : String := ""

/-- A task that a handler creates and pushes. -/
abbrev CreatedTask := ClientTask × TaskParam

/-- The record of an entry and the state its handling finds. -/
abbrev Turn := Shared × Entry

/-- The uuid and the network id of the device a record belongs to, while it is
online. -/
def peerOf (sh : Shared) (cap : CapabilityInfo) : Option (String × String) :=
  let uuid := getUuidByDeviceId cap.deviceId sh.devIdEntrySet
  if uuid = "" then none
  else
    let networkId := getNetworkIdByUuid uuid sh.devIdEntrySet
    if networkId = "" then none else some (uuid, networkId)

def changeTask (kind : ClientTask) (cap : CapabilityInfo) (peer : String × String) : CreatedTask :=
  (kind, { networkId := peer.2, uuid := peer.1, dhId := cap.dhId, dhType := cap.dhType })

def isEnabledRecord (sh : Shared) (cap : CapabilityInfo) : Bool :=
  sh.isEnabledDevice (getCapabilityKey cap.deviceId cap.dhId)

section Handlers
variable {T : Type}

/-- A registry's map and the tasks its handlers have created. -/
structure Outcome (T : Type) where
  map : Std.TreeMap String T compare
  created : List CreatedTask := []

/-- One inserted or updated record: it is skipped where its value does not parse,
its device is not online or the handler's own check says so. -/
def saveRecord (decode : String → Except Int T) (info : T → CapabilityInfo) (getKey : T → String)
    (skip : Shared → CapabilityInfo → Bool) (out : Outcome T) (turn : Turn) : Outcome T :=
  match decode turn.2.value with
  | .error _ => out
  | .ok cap =>
    match peerOf turn.1 (info cap) with
    | none => out
    | some peer =>
      if skip turn.1 (info cap) then out
      else
        { map := out.map.insert (getKey cap) cap
          created := out.created ++ [changeTask .enable (info cap) peer] }

/-- The three lists of a `ChangeNotification`, each record with its turn, and the
states in which the update and delete handlers look at the flag. -/
structure Changes where
  insertEntries : List Turn := []
  updateEntries : List Turn := []
  deleteEntries : List Turn := []
  atUpdate : Shared := {}
  atDelete : Shared := {}

/-- The sizes of lists that `OnChange` passes on. -/
def isHandledSize {α : Type} (entries : List α) : Bool :=
  0 < entries.length && entries.length ≤ maxDbRecordSize

/-- `OnChange(ChangeNotification)` of a registry with its three handlers. -/
def onChange (add : List Turn → Outcome T → Outcome T)
    (update delete : Shared → List Turn → Outcome T → Outcome T) (changes : Changes)
    (out : Outcome T) : Outcome T := Id.run do
  let mut out := out
  if isHandledSize changes.insertEntries then
    out := add changes.insertEntries out
  if isHandledSize changes.updateEntries then
    out := update changes.atUpdate changes.updateEntries out
  if isHandledSize changes.deleteEntries then
    out := delete changes.atDelete changes.deleteEntries out
  return out

end Handlers

section Capability
variable (parse : String → Option CJson)

def handleCapabilityAddChange (insertRecords : List Turn) (out : Outcome CapabilityInfo) :
    Outcome CapabilityInfo :=
  insertRecords.foldl
    (saveRecord (getCapabilityByValue parse) id CapabilityInfo.getKey (fun _ _ => false)) out

def handleCapabilityUpdateChange (sh : Shared) (updateRecords : List Turn)
    (out : Outcome CapabilityInfo) : Outcome CapabilityInfo :=
  if sh.flagUnInit then out
  else
    updateRecords.foldl
      (saveRecord (getCapabilityByValue parse) id CapabilityInfo.getKey isEnabledRecord) out

def deleteRecord (out : Outcome CapabilityInfo) (turn : Turn) : Outcome CapabilityInfo :=
  match getCapabilityByValue parse turn.2.value with
  | .error _ => out
  | .ok cap =>
    match peerOf turn.1 cap with
    | none => out
    | some peer =>
      { map := out.map.erase cap.getKey
        created := out.created ++ [changeTask .disable cap peer] }

def handleCapabilityDeleteChange (sh : Shared) (deleteRecords : List Turn)
    (out : Outcome CapabilityInfo) : Outcome CapabilityInfo :=
  if sh.flagUnInit then out else deleteRecords.foldl (deleteRecord parse) out

/-- `CapabilityInfoManager::OnChange(ChangeNotification)`. -/
def capabilityOnChange : Changes → Outcome CapabilityInfo → Outcome CapabilityInfo :=
  onChange (handleCapabilityAddChange parse) (handleCapabilityUpdateChange parse)
    (handleCapabilityDeleteChange parse)

end Capability

section Meta
variable (parse : String → Option CJson)

def handleMetaCapabilityAddChange (insertRecords : List Turn) (out : Outcome MetaCapabilityInfo) :
    Outcome MetaCapabilityInfo :=
  insertRecords.foldl
    (saveRecord (getMetaCapabilityByValue parse) MetaCapabilityInfo.toCapabilityInfo
      MetaCapabilityInfo.getKey (fun _ _ => false)) out

/-- Unlike the capability registry's handlers, those of the meta registry do not look
at the flag. -/
def handleMetaCapabilityUpdateChange (_ : Shared) (updateRecords : List Turn)
    (out : Outcome MetaCapabilityInfo) : Outcome MetaCapabilityInfo :=
  updateRecords.foldl
    (saveRecord (getMetaCapabilityByValue parse) MetaCapabilityInfo.toCapabilityInfo
      MetaCapabilityInfo.getKey isEnabledRecord) out

/-- A deleted record of any device goes, and no task is created. -/
def deleteMetaRecord (out : Outcome MetaCapabilityInfo) (turn : Turn) :
    Outcome MetaCapabilityInfo :=
  match getMetaCapabilityByValue parse turn.2.value with
  | .error _ => out
  | .ok cap => { out with map := out.map.erase cap.getKey }

def handleMetaCapabilityDeleteChange (_ : Shared) (deleteRecords : List Turn)
    (out : Outcome MetaCapabilityInfo) : Outcome MetaCapabilityInfo :=
  deleteRecords.foldl (deleteMetaRecord parse) out

/-- `MetaInfoManager::OnChange(ChangeNotification)`. -/
def metaOnChange : Changes → Outcome MetaCapabilityInfo → Outcome MetaCapabilityInfo :=
  onChange (handleMetaCapabilityAddChange parse) (handleMetaCapabilityUpdateChange parse)
    (handleMetaCapabilityDeleteChange parse)

end Meta

section Cloud

structure ChangeNotification where
  insertEntries : List Entry := []
  updateEntries : List Entry := []
  deleteEntries : List Entry := []

/-- A notification that is handled while the service is in one state. -/
def ChangeNotification.during (n : ChangeNotification) (sh : Shared) : Changes where
  insertEntries := n.insertEntries.map (fun e => (sh, e))
  updateEntries := n.updateEntries.map (fun e => (sh, e))
  deleteEntries := n.deleteEntries.map (fun e => (sh, e))
  atUpdate := sh
  atDelete := sh

/-- The keys a cloud notification lists under each `ChangeOp`. -/
structure Keys where
  insert : List String := []
  update : List String := []
  delete : List String := []

/-- `GetEntriesByKeys`, of the registries and the adapter: keys the DB does not have
are left out. -/
def getEntriesByKeys (db : String → Option String) (keys : List String) : List Entry :=
  if !isArrayLengthValid keys then []
  else keys.filterMap (fun key => (db key).map (fun value => { key, value }))

/-- The records `OnChange(DataOrigin, Keys)` gives to the handlers. A deleted key
becomes an entry without a value. -/
def cloudNotification (db : String → Option String) (keys : Keys) : ChangeNotification where
  insertEntries := getEntriesByKeys db keys.insert
  updateEntries := getEntriesByKeys db keys.update
  deleteEntries := keys.delete.map (fun key => { key })

def ChangeNotification.keys (n : ChangeNotification) : Keys where
  insert := n.insertEntries.map Entry.key
  update := n.updateEntries.map Entry.key
  delete := n.deleteEntries.map Entry.key

/-- `CapabilityInfoManager::OnChange(DataOrigin, Keys)`. -/
def capabilityCloudOnChange (parse : String → Option CJson) (sh : Shared)
    (db : String → Option String) (keys : Keys) :
    Outcome CapabilityInfo → Outcome CapabilityInfo :=
  capabilityOnChange parse ((cloudNotification db keys).during sh)

/-- `MetaInfoManager::OnChange(DataOrigin, Keys)`. -/
def metaCloudOnChange (parse : String → Option CJson) (sh : Shared)
    (db : String → Option String) (keys : Keys) :
    Outcome MetaCapabilityInfo → Outcome MetaCapabilityInfo :=
  metaOnChange parse ((cloudNotification db keys).during sh)

end Cloud
end DistributedHardware
