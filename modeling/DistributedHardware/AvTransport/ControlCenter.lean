import Mathlib.Data.Finset.Basic
import DistributedHardware.Library.Transition
import DistributedHardware.Library.Store
import DistributedHardware.Common.Ids

/-!
`AVTransControlCenter` and what it keeps in `SoftbusChannelAdapter`.

Of the adapter's maps the state holds the keys under which the control center is
registered. Which control channels are open is what the events and the center's own
closing say: a channel opens with its open event and closes with its close event or
with `CloseSoftbusChannel`.
-/

namespace DistributedHardware

def dhAvtSuccess : Int := 0
def errDhAvtInvalidParam : Int := -80001
def errDhAvtCreateChannelFailed : Int := -80010
def errDhAvtChannelAlreadyCreated : Int := -80011
def errDhAvtInvalidParamValue : Int := -81000
def errDhAvtSessionError : Int := -81011

def baseEngineId : Int := 1000
def invalidEngineId : Int := -1

def pkgNameDhFwk : String := "ohos.dhardware"
def avSyncSenderControlSessionName : String := "ohos.dhardware.av.sync.sender.control"
def avSyncReceiverControlSessionName : String := "ohos.dhardware.av.sync.receiver.control"
def avTransSpecialDeviceId : String := "av.trans.special.device.id"

inductive TransRole
  | avSender | avReceiver | unknown
  deriving DecidableEq

inductive EventType
  | channelOpened | channelOpenFail | channelClosed | dataReceived | timeSyncResult | other
  deriving DecidableEq

structure AVTransEvent where
  type : EventType
  content : String
  peerDevId : String

/-- The outcomes of `OpenSoftbusChannel` on arguments that are not empty. -/
inductive OpenResult
  | success | sessionHasOpened | sessionError
  deriving DecidableEq

/-- What the softbus answers. -/
structure CenterChoice where
  serverCreated : Bool := true
  opened : OpenResult := .success
  timeSync : Bool := true

structure CenterState where
  initialized : Bool := false
  transRole : TransRole := .unknown
  rootEngineId : Int := baseEngineId
  sessionName : String := ""
  connectedDevIds : List String := []
  engine2DevIdMap : Store Int String := ∅
  callbackMap : Store Int Nat := ∅
  /-- `SoftbusChannelAdapter`. -/
  serverMap : Finset String := ∅
  listenerMap : Finset String := ∅
  timeSyncSessNames : Finset String := ∅
  /-- The open control channels, by session name and peer. -/
  openChannels : Finset (String × String) := ∅
  /-- The engine ids given out and not released. -/
  liveEngines : Finset Int := ∅

namespace CenterState

def mapKey (sessName peerDevId : String) : String := sessName ++ "_" ++ peerDevId

def senderListener : String := mapKey avSyncSenderControlSessionName avTransSpecialDeviceId
def receiverListener : String := mapKey avSyncReceiverControlSessionName avTransSpecialDeviceId

section Adapter
variable (s : CenterState)

/-- A server that exists is not created again. -/
def createChannelServer (ch : CenterChoice) (pkgName sessName : String) : Int × CenterState :=
  if mapKey pkgName sessName ∈ s.serverMap then (dhAvtSuccess, s)
  else if !ch.serverCreated then (errDhAvtSessionError, s)
  else (dhAvtSuccess, { s with serverMap := insert (mapKey pkgName sessName) s.serverMap })

def registerChannelListener (sessName peerDevId : String) : CenterState :=
  { s with listenerMap := insert (mapKey sessName peerDevId) s.listenerMap }

def unRegisterChannelListener (sessName peerDevId : String) : CenterState :=
  { s with listenerMap := s.listenerMap.erase (mapKey sessName peerDevId) }

def startDeviceTimeSync (ch : CenterChoice) (sessName peerDevId : String) : CenterState :=
  if peerDevId = "" || !ch.timeSync then s
  else { s with timeSyncSessNames := insert (mapKey sessName peerDevId) s.timeSyncSessNames }

def stopDeviceTimeSync (ch : CenterChoice) (sessName peerDevId : String) : CenterState :=
  if peerDevId = "" || !ch.timeSync then s
  else { s with timeSyncSessNames := s.timeSyncSessNames.erase (mapKey sessName peerDevId) }

def closeSoftbusChannel (sessName peerDevId : String) : CenterState :=
  if sessName = "" || peerDevId = "" then s
  else { s with openChannels := s.openChannels.erase (sessName, peerDevId) }

end Adapter

section Center
variable (s : CenterState)

def isInvalidEngineId (engineId : Int) : Bool :=
  engineId < baseEngineId || engineId > s.rootEngineId

/-- The next engine id. -/
def giveEngineId : Int × CenterState :=
  (s.rootEngineId,
    { s with
      rootEngineId := s.rootEngineId + 1
      liveEngines := insert s.rootEngineId s.liveEngines })

/-- `InitializeAVCenter`: the result, the engine id and the new state. The server and
its listener are set up by the first call that succeeds. -/
def initializeAVCenter (ch : CenterChoice) (transRole : TransRole) : Int × Int × CenterState :=
  if transRole ≠ .avSender ∧ transRole ≠ .avReceiver then
    (errDhAvtInvalidParamValue, invalidEngineId, s)
  else if s.initialized then (dhAvtSuccess, s.giveEngineId)
  else
    let (ret, s) := s.createChannelServer ch pkgNameDhFwk avSyncReceiverControlSessionName
    if ret ≠ dhAvtSuccess then (ret, invalidEngineId, s)
    else
      let s := s.registerChannelListener avSyncReceiverControlSessionName avTransSpecialDeviceId
      (dhAvtSuccess, { s with initialized := true, transRole }.giveEngineId)

def isDevIdUsedByOthers (peerDevId : String) : Bool :=
  s.engine2DevIdMap.keys.any (fun engineId => s.engine2DevIdMap.get engineId = some peerDevId)

/-- The engine is forgotten. -/
def forgetEngine (engineId : Int) : CenterState :=
  { s with
    callbackMap := s.callbackMap.erase engineId
    engine2DevIdMap := s.engine2DevIdMap.erase engineId
    liveEngines := s.liveEngines.erase engineId }

/-- The last part of `ReleaseAVCenter`, for a peer that no engine uses any more. -/
def releasePeer (ch : CenterChoice) (peerDevId : String) : CenterState :=
  let s := { s with connectedDevIds := s.connectedDevIds.erase peerDevId }
  let s := s.stopDeviceTimeSync ch s.sessionName peerDevId
  let s := s.closeSoftbusChannel s.sessionName peerDevId
  let s := s.unRegisterChannelListener avSyncSenderControlSessionName avTransSpecialDeviceId
  s.unRegisterChannelListener avSyncReceiverControlSessionName avTransSpecialDeviceId

def releaseAVCenter (ch : CenterChoice) (engineId : Int) : Int × CenterState :=
  if s.isInvalidEngineId engineId then (errDhAvtInvalidParamValue, s)
  else
    match s.engine2DevIdMap.get engineId with
    | none => (dhAvtSuccess, s.forgetEngine engineId)
    | some peerDevId =>
        let s := s.forgetEngine engineId
        if s.isDevIdUsedByOthers peerDevId then (dhAvtSuccess, s)
        else if peerDevId ∉ s.connectedDevIds then (dhAvtSuccess, s)
        else (dhAvtSuccess, s.releasePeer ch peerDevId)

/-- `std::map::insert`: an engine keeps the peer it has. -/
def setPeer (engineId : Int) (peerDevId : String) : CenterState :=
  if (s.engine2DevIdMap.get engineId).isSome then s
  else { s with engine2DevIdMap := s.engine2DevIdMap.set engineId peerDevId }

def createControlChannel (ch : CenterChoice) (engineId : Int) (peerDevId : String) :
    Int × CenterState :=
  if s.isInvalidEngineId engineId then (errDhAvtInvalidParamValue, s)
  else if !s.initialized then (errDhAvtCreateChannelFailed, s)
  else if peerDevId ∈ s.connectedDevIds then
    (errDhAvtChannelAlreadyCreated, s.setPeer engineId peerDevId)
  else
    let s := s.registerChannelListener avSyncSenderControlSessionName avTransSpecialDeviceId
    if peerDevId = "" then (errDhAvtInvalidParam, s)
    else
      match ch.opened with
      | .sessionError => (errDhAvtSessionError, s)
      | .success | .sessionHasOpened => (dhAvtSuccess, s.setPeer engineId peerDevId)

/-- A null pointer is `none`. -/
def registerCtlCenterCallback (engineId : Int) (callback : Option Nat) : Int × CenterState :=
  if s.isInvalidEngineId engineId then (errDhAvtInvalidParamValue, s)
  else
    match callback with
    | none => (errDhAvtInvalidParamValue, s)
    | some callback =>
        if (s.callbackMap.get engineId).isSome then (dhAvtSuccess, s)
        else (dhAvtSuccess, { s with callbackMap := s.callbackMap.set engineId callback })

def handleChannelEvent (ch : CenterChoice) (event : AVTransEvent) : CenterState :=
  match event.type with
  | .channelOpened =>
      let s := { s with sessionName := event.content }
      let s := if s.sessionName = avSyncReceiverControlSessionName then
        s.startDeviceTimeSync ch s.sessionName event.peerDevId else s
      { s with connectedDevIds := s.connectedDevIds ++ [event.peerDevId] }
  | _ => s

/-- Received data goes on to the sync manager, and the result of the time sync to the
engines; the center itself stays as it is. -/
def onChannelEvent (ch : CenterChoice) (event : AVTransEvent) : CenterState :=
  match event.type with
  | .channelOpened | .channelClosed | .channelOpenFail => s.handleChannelEvent ch event
  | .dataReceived | .timeSyncResult | .other => s

/-- What an event says about the channel it is about. -/
def noteEvent (event : AVTransEvent) : CenterState :=
  match event.type with
  | .channelOpened =>
      { s with openChannels := insert (event.content, event.peerDevId) s.openChannels }
  | .channelClosed =>
      { s with openChannels := s.openChannels.erase (event.content, event.peerDevId) }
  | _ => s

end Center

section Release
variable (s : CenterState) (engineId : Int)

/-- The peer whose channel a release closes: that of an engine that has one which no
other engine uses, once it is connected. -/
def releasedPeer : Option String :=
  if s.isInvalidEngineId engineId then none
  else
    match s.engine2DevIdMap.get engineId with
    | none => none
    | some peerDevId =>
        if (s.forgetEngine engineId).isDevIdUsedByOthers peerDevId ||
          peerDevId ∉ s.connectedDevIds then none
        else some peerDevId

variable {s} {engineId}

theorem releaseAVCenter_of_none (ch : CenterChoice) (h : s.releasedPeer engineId = none) :
    (s.releaseAVCenter ch engineId).2 = s ∧ s.isInvalidEngineId engineId = true ∨
      (s.releaseAVCenter ch engineId).2 = s.forgetEngine engineId := by
  unfold releasedPeer at h
  unfold releaseAVCenter
  split at h
  case isTrue invalid => exact .inl (by simp [invalid])
  case isFalse valid =>
    rw [if_neg valid]
    cases hpeer : s.engine2DevIdMap.get engineId with
    | none => exact .inr rfl
    | some peerDevId =>
        simp only [hpeer] at h ⊢
        split at h
        case isFalse => cases h
        case isTrue kept =>
          refine .inr ?_
          rw [Bool.or_eq_true, decide_eq_true_eq] at kept
          obtain used | apart := kept
          · rw [if_pos used]
          · have apart : peerDevId ∉ (s.forgetEngine engineId).connectedDevIds := apart
            rw [if_pos apart]
            split <;> rfl

theorem releaseAVCenter_of_some (ch : CenterChoice) {peerDevId : String}
    (h : s.releasedPeer engineId = some peerDevId) :
    (s.releaseAVCenter ch engineId).2 = (s.forgetEngine engineId).releasePeer ch peerDevId ∧
      peerDevId ∈ s.connectedDevIds := by
  unfold releasedPeer at h
  unfold releaseAVCenter
  split at h
  case isTrue => cases h
  case isFalse valid =>
    rw [if_neg valid]
    cases hpeer : s.engine2DevIdMap.get engineId with
    | none => simp [hpeer] at h
    | some peer =>
        simp only [hpeer] at h ⊢
        split at h
        case isTrue => cases h
        case isFalse gone =>
          obtain rfl := Option.some.inj h
          rw [Bool.or_eq_true, decide_eq_true_eq, not_or, not_not] at gone
          have mem : peer ∈ (s.forgetEngine engineId).connectedDevIds := gone.2
          rw [if_neg gone.1, if_neg (not_not.mpr mem)]
          exact ⟨rfl, gone.2⟩

end Release

section Fields
variable (s : CenterState) (ch : CenterChoice) (sessName peerDevId : String)

theorem createChannelServer_eq (pkgName : String) : ∃ servers,
    (s.createChannelServer ch pkgName sessName).2 = { s with serverMap := servers } := by
  unfold createChannelServer
  split
  · exact ⟨s.serverMap, rfl⟩
  · split
    · exact ⟨s.serverMap, rfl⟩
    · exact ⟨_, rfl⟩

theorem startDeviceTimeSync_eq : ∃ names,
    s.startDeviceTimeSync ch sessName peerDevId = { s with timeSyncSessNames := names } := by
  unfold startDeviceTimeSync
  split
  · exact ⟨s.timeSyncSessNames, rfl⟩
  · exact ⟨_, rfl⟩

theorem stopDeviceTimeSync_eq : ∃ names,
    s.stopDeviceTimeSync ch sessName peerDevId = { s with timeSyncSessNames := names } := by
  unfold stopDeviceTimeSync
  split
  · exact ⟨s.timeSyncSessNames, rfl⟩
  · exact ⟨_, rfl⟩

theorem closeSoftbusChannel_eq : s.closeSoftbusChannel sessName peerDevId =
    { s with openChannels := (s.closeSoftbusChannel sessName peerDevId).openChannels } := by
  unfold closeSoftbusChannel
  split <;> rfl

/-- What the closing of a peer's channel changes. -/
theorem releasePeer_eq : ∃ names, s.releasePeer ch peerDevId =
    { s with
      connectedDevIds := s.connectedDevIds.erase peerDevId
      timeSyncSessNames := names
      openChannels := (s.closeSoftbusChannel s.sessionName peerDevId).openChannels
      listenerMap := (s.listenerMap.erase senderListener).erase receiverListener } := by
  obtain ⟨names, hstop⟩ := stopDeviceTimeSync_eq
    { s with connectedDevIds := s.connectedDevIds.erase peerDevId } ch s.sessionName peerDevId
  refine ⟨names, ?_⟩
  simp only [releasePeer, hstop]
  rw [closeSoftbusChannel_eq]
  simp only [unRegisterChannelListener, closeSoftbusChannel]
  split <;> rfl

theorem setPeer_eq (engineId : Int) : ∃ peers,
    s.setPeer engineId peerDevId = { s with engine2DevIdMap := peers } := by
  unfold setPeer
  split
  · exact ⟨s.engine2DevIdMap, rfl⟩
  · exact ⟨_, rfl⟩

theorem createControlChannel_eq (engineId : Int) : ∃ listeners peers,
    (s.createControlChannel ch engineId peerDevId).2 =
      { s with listenerMap := listeners, engine2DevIdMap := peers } := by
  unfold createControlChannel
  split
  · exact ⟨s.listenerMap, s.engine2DevIdMap, rfl⟩
  · split
    · exact ⟨s.listenerMap, s.engine2DevIdMap, rfl⟩
    · split
      · obtain ⟨peers, heq⟩ := s.setPeer_eq peerDevId engineId
        exact ⟨s.listenerMap, peers, heq⟩
      · obtain ⟨peers, heq⟩ := (s.registerChannelListener avSyncSenderControlSessionName
          avTransSpecialDeviceId).setPeer_eq peerDevId engineId
        simp only
        split
        · exact ⟨_, s.engine2DevIdMap, rfl⟩
        · split
          · exact ⟨_, s.engine2DevIdMap, rfl⟩
          · exact ⟨_, peers, heq⟩
          · exact ⟨_, peers, heq⟩

/-- What an initialization changes. Each id that is handed out advances the counter. -/
theorem initializeAVCenter_cases (transRole : TransRole) :
    let r := s.initializeAVCenter ch transRole
    ∃ initialized role root servers listeners engines,
      r.2.2 =
        { s with
          initialized, transRole := role, rootEngineId := root, serverMap := servers
          listenerMap := listeners, liveEngines := engines } ∧
      (r.1 ≠ dhAvtSuccess ∧ root = s.rootEngineId ∨
        r.1 = dhAvtSuccess ∧ r.2.1 = s.rootEngineId ∧ root = s.rootEngineId + 1) := by
  unfold initializeAVCenter
  split
  · exact ⟨_, _, _, _, _, _, rfl, .inl ⟨by simp [errDhAvtInvalidParamValue, dhAvtSuccess], rfl⟩⟩
  · split
    · exact ⟨_, _, _, _, _, _, rfl, .inr ⟨rfl, rfl, rfl⟩⟩
    · obtain ⟨servers, hserver⟩ :=
        s.createChannelServer_eq ch avSyncReceiverControlSessionName pkgNameDhFwk
      generalize s.createChannelServer ch pkgNameDhFwk avSyncReceiverControlSessionName = created
        at hserver ⊢
      obtain ⟨ret, s'⟩ := created
      subst hserver
      simp only
      split
      case isTrue failed => exact ⟨_, _, _, _, _, _, rfl, .inl ⟨failed, rfl⟩⟩
      case isFalse => exact ⟨_, _, _, _, _, _, rfl, .inr ⟨rfl, rfl, rfl⟩⟩

theorem registerCtlCenterCallback_eq (engineId : Int) (callback : Option Nat) : ∃ callbacks,
    (s.registerCtlCenterCallback engineId callback).2 = { s with callbackMap := callbacks } := by
  unfold registerCtlCenterCallback
  split
  · exact ⟨s.callbackMap, rfl⟩
  · split
    · exact ⟨s.callbackMap, rfl⟩
    · split
      · exact ⟨s.callbackMap, rfl⟩
      · exact ⟨_, rfl⟩

theorem onChannelEvent_eq (event : AVTransEvent) : ∃ name names devIds,
    s.onChannelEvent ch event =
      { s with sessionName := name, timeSyncSessNames := names, connectedDevIds := devIds } := by
  unfold onChannelEvent handleChannelEvent
  cases event.type with
  | channelOpened =>
      obtain ⟨names, heq⟩ :=
        { s with sessionName := event.content }.startDeviceTimeSync_eq ch event.content
          event.peerDevId
      simp only
      split
      · rw [heq]
        exact ⟨_, _, _, rfl⟩
      · exact ⟨_, _, _, rfl⟩
  | _ => exact ⟨s.sessionName, s.timeSyncSessNames, s.connectedDevIds, rfl⟩

theorem initializeAVCenter_counter (transRole : TransRole) :
    let r := s.initializeAVCenter ch transRole
    r.1 ≠ dhAvtSuccess ∧ r.2.2.rootEngineId = s.rootEngineId ∨
      r.1 = dhAvtSuccess ∧ r.2.1 = s.rootEngineId ∧ r.2.2.rootEngineId = s.rootEngineId + 1 := by
  obtain ⟨_, _, _, _, _, _, heq, counter⟩ := s.initializeAVCenter_cases ch transRole
  simp only [heq]
  exact counter

/-- A release leaves the session name and the counter as they are. -/
theorem releaseAVCenter_eq (engineId : Int) :
    ∃ callbacks peers engines devIds names channels listeners,
      (s.releaseAVCenter ch engineId).2 =
        { s with
          callbackMap := callbacks, engine2DevIdMap := peers, liveEngines := engines
          connectedDevIds := devIds, timeSyncSessNames := names, openChannels := channels
          listenerMap := listeners } := by
  cases hpeer : s.releasedPeer engineId with
  | none =>
      obtain ⟨heq, -⟩ | heq := releaseAVCenter_of_none ch hpeer
      · exact ⟨_, _, _, _, _, _, _, heq⟩
      · exact ⟨_, _, _, _, _, _, _, heq⟩
  | some peerDevId =>
      obtain ⟨names, hrelease⟩ := (s.forgetEngine engineId).releasePeer_eq ch peerDevId
      rw [(releaseAVCenter_of_some ch hpeer).1, hrelease]
      exact ⟨_, _, _, _, _, _, _, rfl⟩

theorem rootEngineId_releaseAVCenter (engineId : Int) :
    (s.releaseAVCenter ch engineId).2.rootEngineId = s.rootEngineId := by
  obtain ⟨_, _, _, _, _, _, _, heq⟩ := s.releaseAVCenter_eq ch engineId
  rw [heq]

end Fields
end CenterState

inductive CenterCall
  | initializeAVCenter (transRole : TransRole)
  | releaseAVCenter (engineId : Int)
  | createControlChannel (engineId : Int) (peerDevId : String)
  | registerCtlCenterCallback (engineId : Int) (callback : Option Nat)
  | channelEvent (event : AVTransEvent)

def centerStep (s : CenterState) (call : CenterCall × CenterChoice) : CenterState :=
  match call.1 with
  | .initializeAVCenter transRole => (s.initializeAVCenter call.2 transRole).2.2
  | .releaseAVCenter engineId => (s.releaseAVCenter call.2 engineId).2
  | .createControlChannel engineId peerDevId =>
      (s.createControlChannel call.2 engineId peerDevId).2
  | .registerCtlCenterCallback engineId callback =>
      (s.registerCtlCenterCallback engineId callback).2
  | .channelEvent event => (s.onChannelEvent call.2 event).noteEvent event

/-- The counter of the engine ids does not go back. -/
theorem rootEngineId_le_centerStep (s : CenterState) (call : CenterCall × CenterChoice) :
    s.rootEngineId ≤ (centerStep s call).rootEngineId := by
  obtain ⟨call, ch⟩ := call
  cases call with
  | initializeAVCenter transRole =>
      obtain ⟨-, kept⟩ | ⟨-, -, advanced⟩ := s.initializeAVCenter_counter ch transRole
      · exact kept.ge
      · exact Int.le_of_lt (Int.lt_iff_add_one_le.mpr advanced.ge)
  | releaseAVCenter engineId => exact (s.rootEngineId_releaseAVCenter ch engineId).ge
  | createControlChannel engineId peerDevId =>
      obtain ⟨listeners, peers, heq⟩ := s.createControlChannel_eq ch peerDevId engineId
      simp only [centerStep, heq]
      exact Int.le_refl _
  | registerCtlCenterCallback engineId callback =>
      obtain ⟨callbacks, heq⟩ := s.registerCtlCenterCallback_eq engineId callback
      simp only [centerStep, heq]
      exact Int.le_refl _
  | channelEvent event =>
      obtain ⟨name, names, devIds, heq⟩ := s.onChannelEvent_eq ch event
      simp only [centerStep, heq, CenterState.noteEvent]
      split <;> exact Int.le_refl _

def centerSystem : TransitionSystem CenterState (CenterCall × CenterChoice) where
  init := fun s => s = {}
  step := fun s call => some (centerStep s call)

end DistributedHardware
