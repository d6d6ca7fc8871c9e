import Mathlib.Data.List.Infix
import Mathlib.Data.List.Sort
import Mathlib.Data.String.Basic
import DistributedHardware.Library.Transition
import DistributedHardware.Library.Store
import DistributedHardware.AvTransport.ControlCenter

/-!
`SoftbusChannelAdapter`: the servers, sessions and listeners of the AV channels.

The maps are keyed by a session name and a device with `_` between them. A listener is
called from detached threads, so a call that calls listeners leaves threads behind, which
run in any order. What softbus has open is kept beside the adapter's members: a session
that was opened with success, until it is shut down or softbus reports that it closed.
What the softbus answers is an argument of each call.
-/

namespace DistributedHardware

def errDhAvtTimeSyncFailed : Int := -80016
def errDhAvtSessionHasOpened : Int := -80025

def invalidSessionId : Int := -1
def dsoftbusInputMaxRecvDataLen : Nat := 104857600

def ownerNameDCamera : String := "ohos.dhardware.dcamera"
def ownerNameDScreen : String := "ohos.dhardware.dscreen"
def ownerNameDMic : String := "ohos.dhardware.daudio.dmic"
def ownerNameDSpeaker : String := "ohos.dhardware.daudio.dspeaker"
def ownerNameDVirmodemMic : String := "ohos.dhardware.dcall.dmic"
def ownerNameDVirmodemSpeaker : String := "ohos.dhardware.dcall.dspeaker"

def senderControlSessionNameSuffix : String := "sender.avtrans.control"
def receiverControlSessionNameSuffix : String := "receiver.avtrans.control"
def senderDataSessionNameSuffix : String := "sender.avtrans.data"
def receiverDataSessionNameSuffix : String := "receiver.avtrans.data"

/-- The session names of an owner, each with its peer's, for a pair of suffixes. -/
def sessionNamePairs (sender receiver owner : String) : List (String × String) :=
  [(owner ++ "_" ++ sender, owner ++ "_" ++ receiver),
    (owner ++ "_" ++ receiver, owner ++ "_" ++ sender)]

def localToPeerSessionNameMap : List (String × String) :=
  let owners := [ownerNameDMic, ownerNameDSpeaker, ownerNameDScreen, ownerNameDVirmodemMic,
    ownerNameDVirmodemSpeaker]
  owners.flatMap
      (sessionNamePairs senderControlSessionNameSuffix receiverControlSessionNameSuffix) ++
    [(avSyncSenderControlSessionName, avSyncReceiverControlSessionName),
      (avSyncReceiverControlSessionName, avSyncSenderControlSessionName)] ++
    owners.flatMap (sessionNamePairs senderDataSessionNameSuffix receiverDataSessionNameSuffix)

def findSessNameByPeerSessName (peerSessionName : String) : String :=
  ((localToPeerSessionNameMap.find? (·.1 = peerSessionName)).map (·.2)).getD ""

/-- The part before the first `_`. -/
def getOwnerFromSessName (sessName : String) : String :=
  if '_' ∈ sessName.toList then String.ofList (sessName.toList.takeWhile (· ≠ '_'))
  else if sessName = avSyncSenderControlSessionName ∨ sessName = avSyncReceiverControlSessionName
    then sessName
  else ""

/-- The key of a session name and a device. -/
def channelKey (sessName peerDevId : String) : String := sessName ++ "_" ++ peerDevId

/-- The part of a key after the last `_`. -/
def deviceOfKey (key : String) : String :=
  String.ofList (key.toList.reverse.takeWhile (· ≠ '_')).reverse

/-- `key.find(sessName)` finds it. -/
def Finds (key sessName : String) : Prop := sessName.toList <:+: key.toList

instance (key sessName : String) : Decidable (Finds key sessName) :=
  inferInstanceAs (Decidable (_ <:+: _))

/-- A thread that was detached to call the listener under a key. `origins` are the devices
whose session the event is about; the thread does not know them. -/
structure ChannelEventThread where
  sessName : String
  event : AVTransEvent
  origins : List String

structure SoftbusSession where
  sessName : String
  peerDevId : String
  sessionId : Int
  deriving DecidableEq

structure SoftbusAdapter (L : Type) where
  serverMap : Store String Int := ∅
  devId2SessIdMap : Store String Int := ∅
  listenerMap : Store String (Option L) := ∅
  timeSyncSessNames : List String := []
  /-- The threads that have not run yet. -/
  threads : List ChannelEventThread := []
  /-- What softbus has open. -/
  sessions : List SoftbusSession := []

namespace SoftbusAdapter
variable {L : Type} (s : SoftbusAdapter L)

/-- `Shutdown`. -/
def shutdown (sessionId : Int) : SoftbusAdapter L :=
  { s with sessions := s.sessions.filter (fun session => session.sessionId ≠ sessionId) }

def opened (sessName peerDevId : String) (sessionId : Int) : SoftbusAdapter L :=
  { s with sessions := { sessName, peerDevId, sessionId } :: s.sessions }

/-- The devices with which the session is open. -/
def peersOf (sessionId : Int) : List String :=
  (s.sessions.filter (·.sessionId = sessionId)).map SoftbusSession.peerDevId

def createChannelServer (pkgName sessName : String) (socket : Int) (listen : Bool) :
    Int × SoftbusAdapter L :=
  if pkgName = "" then (errDhAvtInvalidParam, s)
  else if sessName = "" then (errDhAvtInvalidParam, s)
  else if (s.serverMap.get (channelKey pkgName sessName)).isSome then (dhAvtSuccess, s)
  else if socket < 0 then (errDhAvtSessionError, s)
  else if !listen then (errDhAvtSessionError, s)
  else (dhAvtSuccess, { s with serverMap := s.serverMap.set (channelKey pkgName sessName) socket })

/-- The first key of the map in which the name is found. -/
def firstKey (map : Store String Int) (name : String) : Option String :=
  (map.keys.filter (Finds · name)).min?

/-- The id under that key, and the map without it. -/
def takeFirst (map : Store String Int) (name : String) : Int × Store String Int :=
  match firstKey map name with
  | some key => ((map.get key).getD invalidSessionId, map.erase key)
  | none => (invalidSessionId, map)

def removeChannelServer (pkgName sessName : String) : Int × SoftbusAdapter L :=
  if pkgName = "" then (errDhAvtInvalidParam, s)
  else if sessName = "" then (errDhAvtInvalidParam, s)
  else
    let (serverSocketId, serverMap) := takeFirst s.serverMap (channelKey pkgName sessName)
    let (sessionId, devId2SessIdMap) := takeFirst s.devId2SessIdMap sessName
    let s := { s with serverMap, devId2SessIdMap }
    (dhAvtSuccess, (s.shutdown serverSocketId).shutdown sessionId)

def getSessIdBySessName (sessName peerDevId : String) : Int :=
  (s.devId2SessIdMap.get (channelKey sessName peerDevId)).getD (-1)

/-- The keys under which a listener that is not null is registered and in which the session
name is found. -/
def listenerKeys (mySessName : String) : List String :=
  s.listenerMap.keys.filter (fun key =>
    decide (Finds key mySessName) && (s.listenerMap.get key).join.isSome)

/-- A thread for each of those listeners. -/
def sendEvents (mySessName : String) (event : AVTransEvent) : List ChannelEventThread :=
  (s.listenerKeys mySessName).map (fun sessName =>
    { sessName, event, origins := [event.peerDevId] })

def sendEventChannelOpened (mySessName peerDevId : String) : SoftbusAdapter L :=
  { s with
    threads := s.threads ++
      s.sendEvents mySessName { type := .channelOpened, content := mySessName, peerDevId } }

/-- `insert` leaves an entry that exists. -/
def insertSessId (map : Store String Int) (key : String) (sessionId : Int) : Store String Int :=
  if (map.get key).isSome then map else map.set key sessionId

def openSoftbusChannel (mySessName peerSessName peerDevId : String) (socket : Int) (bind : Bool) :
    Int × SoftbusAdapter L :=
  if mySessName = "" then (errDhAvtInvalidParam, s)
  else if peerSessName = "" then (errDhAvtInvalidParam, s)
  else if peerDevId = "" then (errDhAvtInvalidParam, s)
  else if s.getSessIdBySessName mySessName peerDevId > 0 then (errDhAvtSessionHasOpened, s)
  else if socket < 0 then (errDhAvtSessionError, s)
  else if !bind then (errDhAvtSessionError, s)
  else
    let s := s.opened mySessName peerDevId socket
    let key := channelKey mySessName peerDevId
    let s := { s with devId2SessIdMap := insertSessId s.devId2SessIdMap key socket }
    (dhAvtSuccess, s.sendEventChannelOpened mySessName peerDevId)

def closeSoftbusChannel (sessName peerDevId : String) : Int × SoftbusAdapter L :=
  if sessName = "" then (errDhAvtInvalidParam, s)
  else if peerDevId = "" then (errDhAvtInvalidParam, s)
  else
    let s := s.shutdown (s.getSessIdBySessName sessName peerDevId)
    (dhAvtSuccess,
      { s with devId2SessIdMap := s.devId2SessIdMap.erase (channelKey sessName peerDevId) })

def registerChannelListener (sessName peerDevId : String) (listener : Option L) :
    Int × SoftbusAdapter L :=
  if sessName = "" then (errDhAvtInvalidParam, s)
  else if peerDevId = "" then (errDhAvtInvalidParam, s)
  else if listener.isNone then (errDhAvtInvalidParam, s)
  else
    (dhAvtSuccess,
      { s with listenerMap := s.listenerMap.set (channelKey sessName peerDevId) listener })

def unRegisterChannelListener (sessName peerDevId : String) : Int × SoftbusAdapter L :=
  if sessName = "" then (errDhAvtInvalidParam, s)
  else if peerDevId = "" then (errDhAvtInvalidParam, s)
  else
    (dhAvtSuccess, { s with listenerMap := s.listenerMap.erase (channelKey sessName peerDevId) })

def startDeviceTimeSync (sessName peerDevId : String) (started : Bool) : Int × SoftbusAdapter L :=
  if peerDevId = "" then (errDhAvtInvalidParam, s)
  else if !started then (errDhAvtTimeSyncFailed, s)
  else
    (dhAvtSuccess,
      { s with timeSyncSessNames := s.timeSyncSessNames.insert (channelKey sessName peerDevId) })

def stopDeviceTimeSync (sessName peerDevId : String) (stopped : Bool) : Int × SoftbusAdapter L :=
  if peerDevId = "" then (errDhAvtInvalidParam, s)
  else if !stopped then (errDhAvtTimeSyncFailed, s)
  else
    (dhAvtSuccess,
      { s with timeSyncSessNames := s.timeSyncSessNames.erase (channelKey sessName peerDevId) })

/-- The session map after an open event: every listener in whose key the session name is
found has its entry overwritten. -/
def openedEntries (mySessionName peerDevId : String) (sessionId : Int) : Store String Int :=
  let map := (s.listenerKeys mySessionName).foldl (fun map key => map.set key sessionId)
    s.devId2SessIdMap
  insertSessId map (channelKey mySessionName peerDevId) sessionId

def onSoftbusChannelOpened (peerSessionName : String) (sessionId : Int) (peerDevId : String)
    (result : Int) : Int × SoftbusAdapter L :=
  let mySessionName := findSessNameByPeerSessName peerSessionName
  if peerSessionName = "" then (errDhAvtInvalidParam, s)
  else if peerDevId = "" then (errDhAvtInvalidParam, s)
  else if mySessionName = "" then (errDhAvtInvalidParam, s)
  else
    let type := if result = 0 then .channelOpened else .channelOpenFail
    let t := { s with
      threads := s.threads ++
        s.sendEvents mySessionName { type, content := mySessionName, peerDevId }
      devId2SessIdMap := s.openedEntries mySessionName peerDevId sessionId }
    (dhAvtSuccess, if result = 0 then t.opened mySessionName peerDevId sessionId else t)

/-- The keys whose entry is the session. -/
def keysOf (sessionId : Int) : List String :=
  s.devId2SessIdMap.keys.filter (fun key => s.devId2SessIdMap.get key = some sessionId)

/-- The device in the first key of the session that names a device. -/
def getPeerDevIdBySessId (sessionId : Int) : String :=
  (((s.keysOf sessionId).filter (fun key =>
    decide ('_' ∈ key.toList) && deviceOfKey key != avTransSpecialDeviceId)).min?.map
      deviceOfKey).getD ""

/-- A thread for every key of the session. -/
def sendToSession (sessionId : Int) (event : String → AVTransEvent) : List ChannelEventThread :=
  (s.keysOf sessionId).map (fun sessName =>
    { sessName, event := event sessName, origins := s.peersOf sessionId })

def onSoftbusChannelClosed (sessionId : Int) : SoftbusAdapter L :=
  let peerDevId := s.getPeerDevIdBySessId sessionId
  { s.shutdown sessionId with
    threads := s.threads ++ s.sendToSession sessionId (fun key =>
      { type := .channelClosed, content := getOwnerFromSessName key, peerDevId })
    devId2SessIdMap := (s.keysOf sessionId).foldl (fun map key => map.erase key)
      s.devId2SessIdMap }

/-- A null pointer is `none`. -/
def onSoftbusBytesReceived (sessionId : Int) (data : Option String) : SoftbusAdapter L :=
  match data with
  | none => s
  | some data =>
      if data.utf8ByteSize = 0 then s
      else if data.utf8ByteSize > dsoftbusInputMaxRecvDataLen then s
      else
        let peerDevId := s.getPeerDevIdBySessId sessionId
        { s with
          threads := s.threads ++ s.sendToSession sessionId (fun _ =>
            { type := .dataReceived, content := data, peerDevId }) }

/-- `listenerMap_[key]`: what it yields, and the map, in which it leaves an entry. -/
def listenerAt (key : String) : Option L × SoftbusAdapter L :=
  match s.listenerMap.get key with
  | some listener => (listener, s)
  | none => (none, { s with listenerMap := s.listenerMap.set key none })

/-- The listeners that are given the stream; the first that is null ends the loop. -/
def streamListeners : List String → SoftbusAdapter L → List L × SoftbusAdapter L
  | [], s => ([], s)
  | key :: keys, s =>
      match s.listenerAt key with
      | (none, s) => ([], s)
      | (some listener, s) =>
          let (listeners, s) := streamListeners keys s
          (listener :: listeners, s)

/-- `data` and `ext` say whether these are not null. -/
def onSoftbusStreamReceived (sessionId : Int) (data ext : Bool) : List L × SoftbusAdapter L :=
  if !data then ([], s)
  else if !ext then ([], s)
  else streamListeners ((s.keysOf sessionId).mergeSort (· ≤ ·)) s

/-- The listeners that are called at once; one that is null is passed over. -/
def timeSyncListeners : List String → SoftbusAdapter L → List L × SoftbusAdapter L
  | [], s => ([], s)
  | key :: keys, s =>
      let (listener, s) := s.listenerAt key
      let (listeners, s) := timeSyncListeners keys s
      (listener.toList ++ listeners, s)

/-- `info` is the target's network id and the milliseconds. The calls it makes. -/
def onSoftbusTimeSyncResult (info : Option (String × Int)) (result : Int) :
    List (L × AVTransEvent) × SoftbusAdapter L :=
  if result = 0 then ([], s)
  else
    match info with
    | none => ([], s)
    | some (peerDevId, millisecond) =>
        let event := { type := .timeSyncResult, content := toString millisecond, peerDevId }
        let (listeners, s) := timeSyncListeners (s.timeSyncSessNames.mergeSort (· ≤ ·)) s
        (listeners.map (·, event), s)

/-- What a thread runs: the call it makes. -/
def sendChannelEvent (sessName : String) (event : AVTransEvent) :
    Option (L × AVTransEvent) × SoftbusAdapter L :=
  let (listener, s) := s.listenerAt sessName
  (listener.map (·, event), s)

/-- The keys whose entry an open event for the name and the device writes. -/
def writtenKeys (mySessName peerDevId : String) : List String :=
  let key := channelKey mySessName peerDevId
  s.listenerKeys mySessName ++ if s.devId2SessIdMap.get key = none then [key] else []

section Specs
variable {s : SoftbusAdapter L}

theorem mem_keysOf {sessionId : Int} {key : String} :
    key ∈ s.keysOf sessionId ↔ s.devId2SessIdMap.get key = some sessionId := by
  rw [keysOf, List.mem_filter, decide_eq_true_eq, Store.mem_keys_iff, and_iff_right_iff_imp]
  exact fun h => ⟨_, h⟩

theorem get_insertSessId (map : Store String Int) (key key' : String) (sessionId : Int) :
    (insertSessId map key sessionId).get key' =
      if key' = key ∧ map.get key = none then some sessionId else map.get key' := by
  unfold insertSessId
  cases hget : map.get key with
  | none => simp
  | some id => simp

theorem get_openedEntries (mySessionName peerDevId : String) (sessionId : Int) (key : String) :
    (s.openedEntries mySessionName peerDevId sessionId).get key =
      if key ∈ s.writtenKeys mySessionName peerDevId then some sessionId
      else s.devId2SessIdMap.get key := by
  simp only [openedEntries, get_insertSessId, Store.get_foldl_set, writtenKeys, List.mem_append]
  by_cases found : key ∈ s.listenerKeys mySessionName
  · simp [found]
  · by_cases own : key = channelKey mySessionName peerDevId
    · subst own
      simp only [found, if_false, true_and, false_or]
      split
      · rw [if_pos List.mem_cons_self]
      · rw [if_neg List.not_mem_nil]
    · simp only [found, own, if_false, false_and, false_or]
      split
      · rw [if_neg (by simpa using own)]
      · rw [if_neg List.not_mem_nil]

section Opened

theorem onSoftbusChannelOpened_eq (peerSessionName peerDevId : String) (sessionId result : Int) :
    (s.onSoftbusChannelOpened peerSessionName sessionId peerDevId result).2 = s ∨
      (findSessNameByPeerSessName peerSessionName ≠ "" ∧ peerDevId ≠ "") ∧
        (s.onSoftbusChannelOpened peerSessionName sessionId peerDevId result).2 =
          { s with
            devId2SessIdMap :=
              s.openedEntries (findSessNameByPeerSessName peerSessionName) peerDevId sessionId
            threads := s.threads ++ s.sendEvents (findSessNameByPeerSessName peerSessionName)
              { type := if result = 0 then .channelOpened else .channelOpenFail
                content := findSessNameByPeerSessName peerSessionName, peerDevId }
            sessions :=
              if result = 0 then
                { sessName := findSessNameByPeerSessName peerSessionName, peerDevId, sessionId } ::
                  s.sessions
              else s.sessions } := by
  by_cases empty : peerSessionName = ""
  · exact .inl (congrArg Prod.snd (if_pos empty))
  by_cases device : peerDevId = ""
  · left
    rw [onSoftbusChannelOpened, if_neg empty, if_pos device]
  by_cases named : findSessNameByPeerSessName peerSessionName = ""
  · left
    simp only [onSoftbusChannelOpened, empty, device, named, if_true, if_false]
  · refine .inr ⟨⟨named, device⟩, ?_⟩
    simp only [onSoftbusChannelOpened, empty, device, named, if_false]
    split
    · rfl
    · rfl

end Opened

section Closing

theorem openSoftbusChannel_eq (mySessName peerSessName peerDevId : String) (socket : Int)
    (bind : Bool) :
    (s.openSoftbusChannel mySessName peerSessName peerDevId socket bind).2 = s ∨
      (bind = true ∧ 0 ≤ socket ∧ s.getSessIdBySessName mySessName peerDevId ≤ 0) ∧
        (s.openSoftbusChannel mySessName peerSessName peerDevId socket bind).2 =
          { s with
            devId2SessIdMap :=
              insertSessId s.devId2SessIdMap (channelKey mySessName peerDevId) socket
            threads := s.threads ++ s.sendEvents mySessName
              { type := .channelOpened, content := mySessName, peerDevId }
            sessions := { sessName := mySessName, peerDevId, sessionId := socket } ::
              s.sessions } := by
  unfold openSoftbusChannel
  split_ifs with _ _ _ present invalid unbound
  · exact .inl rfl
  · exact .inl rfl
  · exact .inl rfl
  · exact .inl rfl
  · exact .inl rfl
  · exact .inl rfl
  · refine .inr ⟨⟨?_, Int.not_lt.mp invalid, Int.not_lt.mp present⟩, rfl⟩
    simpa only [Bool.not_eq_true', Bool.not_eq_false] using unbound

theorem closeSoftbusChannel_eq (sessName peerDevId : String) :
    (s.closeSoftbusChannel sessName peerDevId).2 = s ∨
      (sessName ≠ "" ∧ peerDevId ≠ "") ∧
        (s.closeSoftbusChannel sessName peerDevId).2 =
          { s.shutdown (s.getSessIdBySessName sessName peerDevId) with
            devId2SessIdMap := s.devId2SessIdMap.erase (channelKey sessName peerDevId) } := by
  unfold closeSoftbusChannel
  split_ifs with named device
  · exact .inl rfl
  · exact .inl rfl
  · exact .inr ⟨⟨named, device⟩, rfl⟩

theorem removeChannelServer_eq (pkgName sessName : String) :
    (s.removeChannelServer pkgName sessName).2 = s ∨
      (pkgName ≠ "" ∧ sessName ≠ "") ∧
        (s.removeChannelServer pkgName sessName).2 =
          ({ s with
            serverMap := (takeFirst s.serverMap (channelKey pkgName sessName)).2
            devId2SessIdMap := (takeFirst s.devId2SessIdMap sessName).2 }.shutdown
              (takeFirst s.serverMap (channelKey pkgName sessName)).1).shutdown
                (takeFirst s.devId2SessIdMap sessName).1 := by
  unfold removeChannelServer
  split_ifs with package named
  · exact .inl rfl
  · exact .inl rfl
  · exact .inr ⟨⟨package, named⟩, rfl⟩

theorem get_takeFirst (map : Store String Int) (name key : String) :
    (takeFirst map name).2.get key =
      if some key = firstKey map name then none else map.get key := by
  unfold takeFirst
  cases hfirst : firstKey map name with
  | none => simp
  | some first => simp

end Closing

section Listeners

/-- Reading a listener changes none. -/
theorem listenerAt_eq (s : SoftbusAdapter L) (key : String) :
    ∃ map, s.listenerAt key = ((s.listenerMap.get key).join, { s with listenerMap := map }) ∧
      ∀ key', (map.get key').join = (s.listenerMap.get key').join := by
  unfold listenerAt
  cases hget : s.listenerMap.get key with
  | some listener => exact ⟨s.listenerMap, rfl, fun _ => rfl⟩
  | none =>
      refine ⟨s.listenerMap.set key none, rfl, ?_⟩
      intro key'
      rw [Store.get_set]
      split
      case isTrue same => rw [same, hget]; rfl
      case isFalse => rfl

theorem streamListeners_eq (keys : List String) (s : SoftbusAdapter L) :
    ∃ map, (streamListeners keys s).2 = { s with listenerMap := map } ∧
      ∀ key, (map.get key).join = (s.listenerMap.get key).join := by
  induction keys generalizing s with
  | nil => exact ⟨s.listenerMap, rfl, fun _ => rfl⟩
  | cons key keys ih =>
      obtain ⟨map, heq, same⟩ := s.listenerAt_eq key
      unfold streamListeners
      rw [heq]
      cases (s.listenerMap.get key).join with
      | none => exact ⟨map, rfl, same⟩
      | some listener =>
          obtain ⟨map', heq', same'⟩ := ih { s with listenerMap := map }
          exact ⟨map', heq', fun key' => (same' key').trans (same key')⟩

theorem timeSyncListeners_eq (keys : List String) (s : SoftbusAdapter L) :
    ∃ map, (timeSyncListeners keys s).2 = { s with listenerMap := map } ∧
      ∀ key, (map.get key).join = (s.listenerMap.get key).join := by
  induction keys generalizing s with
  | nil => exact ⟨s.listenerMap, rfl, fun _ => rfl⟩
  | cons key keys ih =>
      obtain ⟨map, heq, same⟩ := s.listenerAt_eq key
      obtain ⟨map', heq', same'⟩ := ih { s with listenerMap := map }
      unfold timeSyncListeners
      rw [heq]
      exact ⟨map', heq', fun key' => (same' key').trans (same key')⟩

end Listeners

end Specs
end SoftbusAdapter
end DistributedHardware
