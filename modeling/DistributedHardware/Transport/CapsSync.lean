import Mathlib.Data.Finset.Insert
import DistributedHardware.Library.Transition
import DistributedHardware.Resource.ChangeHandlers

/-!
The exchange of full capabilities between two devices: `DHCommTool` over `DHTransport`.

A device has one socket recorded for the other, whichever side opened its session. Each
session has an end at either side, under the same number here; it delivers in order what
is sent on it as long as the receiving end is open. Messages arrive as they were sent:
packing and unpacking are left out, and so are the tasks that a response creates.
-/

namespace DistributedHardware

/-- The two devices. -/
inductive Side
  | a | b
  deriving DecidableEq

def Side.peer : Side → Side
  | .a => .b
  | .b => .a

@[simp] theorem Side.peer_peer (side : Side) : side.peer.peer = side := by
  cases side <;> rfl

/-- `CommMsg`, unpacked. Its network id is the sender's, which is the peer's. -/
inductive CommMsg
  | reqFullCaps
  | rspFullCaps (caps : List CapabilityInfo)
  deriving DecidableEq

structure CapsSyncState where
  /-- Who has opened each session. -/
  openers : List Side := []
  /-- The sessions that the other side has not accepted. -/
  unbound : Finset Nat := ∅
  openAt : Finset (Side × Nat) := ∅
  inbox : Side × Nat → List CommMsg := fun _ => []
  remoteDevSocketIds : Side → Option Nat := fun _ => none
  /-- The calls of `TriggerReqFullDHCaps` between `StartSocket` and `Send`. -/
  starting : Side → Nat := fun _ => 0
  /-- The event handler's queue. -/
  events : Side → List CommMsg := fun _ => []
  /-- The map of `LocalCapabilityInfoManager`. -/
  globalCapInfoMap : Side → CapabilityInfoMap := fun _ => ∅
  /-- What was sent to a side on a session, what `HandleReceiveMessage` got of it, and
  what `StopSocket` shut down. -/
  sent : List (Side × Nat × CommMsg) := []
  handed : List (Side × Nat × CommMsg) := []
  stopped : List (Side × Nat) := []

namespace CapsSyncState
variable (s : CapsSyncState) (side : Side)

def onSocketOpened (socketId : Nat) : CapsSyncState :=
  { s with remoteDevSocketIds := Function.update s.remoteDevSocketIds side (some socketId) }

def onSocketClosed (socketId : Nat) : CapsSyncState :=
  if s.remoteDevSocketIds side = some socketId then
    { s with remoteDevSocketIds := Function.update s.remoteDevSocketIds side none }
  else s

def handleReceiveMessage (socketId : Nat) (msg : CommMsg) : CapsSyncState :=
  { s with
    events := Function.update s.events side (s.events side ++ [msg])
    handed := s.handed ++ [(side, socketId, msg)] }

/-- Bytes of a socket that is not recorded are dropped. -/
def onBytesReceived (socketId : Nat) (msg : CommMsg) : CapsSyncState :=
  if s.remoteDevSocketIds side = some socketId then s.handleReceiveMessage side socketId msg
  else s

def shutdown (socketId : Nat) : CapsSyncState :=
  { s with openAt := s.openAt.erase (side, socketId) }

/-- A recorded socket is taken, whoever has opened it. -/
def startSocket : CapsSyncState :=
  if (s.remoteDevSocketIds side).isSome then s
  else
    let socket := s.openers.length
    { s with
      openers := s.openers ++ [side]
      unbound := insert socket s.unbound
      openAt := insert (side, socket) s.openAt }.onSocketOpened side socket

def stopSocket : CapsSyncState :=
  match s.remoteDevSocketIds side with
  | none => s
  | some socketId =>
      { s.shutdown side socketId with
        remoteDevSocketIds := Function.update s.remoteDevSocketIds side none
        stopped := s.stopped ++ [(side, socketId)] }

/-- `DHTransport::Send`, with whether the softbus takes the bytes. -/
def send (taken : Bool) (msg : CommMsg) : CapsSyncState :=
  match s.remoteDevSocketIds side with
  | none => s
  | some socketId =>
      if taken then
        { s with
          inbox := Function.update s.inbox (side.peer, socketId)
            (s.inbox (side.peer, socketId) ++ [msg])
          sent := s.sent ++ [(side.peer, socketId, msg)] }
      else s

def parseAndSaveRemoteDHCaps (caps : List CapabilityInfo) : CapsSyncState :=
  if isHandledSize caps then
    { s with
      globalCapInfoMap := Function.update s.globalCapInfoMap side
        (saveRecords CapabilityInfo.getKey (s.globalCapInfoMap side) caps) }
  else s

def processFullCapsRsp (caps : List CapabilityInfo) : CapsSyncState :=
  if caps.isEmpty then s else s.stopSocket side

/-- One event of the queue. A request is answered with the records of the device. -/
def processEvent (taken : Bool) (resInfos : List CapabilityInfo) (msg : CommMsg) :
    CapsSyncState :=
  match msg with
  | .reqFullCaps => s.send side taken (.rspFullCaps resInfos)
  | .rspFullCaps caps => (s.parseAndSaveRemoteDHCaps side caps).processFullCapsRsp side caps

theorem startSocket_cases :
    (∃ socketId, s.remoteDevSocketIds side = some socketId ∧ s.startSocket side = s) ∨
      (s.remoteDevSocketIds side = none ∧ s.startSocket side = { s with
        openers := s.openers ++ [side]
        unbound := insert s.openers.length s.unbound
        openAt := insert (side, s.openers.length) s.openAt
        remoteDevSocketIds :=
          Function.update s.remoteDevSocketIds side (some s.openers.length) }) := by
  cases hslot : s.remoteDevSocketIds side with
  | none =>
      refine .inr ⟨rfl, ?_⟩
      simp only [startSocket, hslot, Option.isSome_none, Bool.false_eq_true, if_false,
        onSocketOpened]
  | some socketId =>
      refine .inl ⟨socketId, rfl, ?_⟩
      simp only [startSocket, hslot, Option.isSome_some, if_true]

theorem onSocketClosed_cases (socketId : Nat) :
    (s.remoteDevSocketIds side = some socketId ∧
      (s.shutdown side socketId).onSocketClosed side socketId = { s with
        openAt := s.openAt.erase (side, socketId)
        remoteDevSocketIds := Function.update s.remoteDevSocketIds side none }) ∨
    (s.remoteDevSocketIds side ≠ some socketId ∧
      (s.shutdown side socketId).onSocketClosed side socketId = { s with
        openAt := s.openAt.erase (side, socketId) }) := by
  have slots : (s.shutdown side socketId).remoteDevSocketIds = s.remoteDevSocketIds := rfl
  by_cases hslot : s.remoteDevSocketIds side = some socketId
  · refine .inl ⟨hslot, ?_⟩
    rw [onSocketClosed, slots, if_pos hslot, shutdown]
  · refine .inr ⟨hslot, ?_⟩
    rw [onSocketClosed, slots, if_neg hslot, shutdown]

section Send
variable (taken : Bool) (msg : CommMsg)

theorem send_cases :
    ((taken = false ∨ s.remoteDevSocketIds side = none) ∧ s.send side taken msg = s) ∨
      ∃ socketId, taken = true ∧ s.remoteDevSocketIds side = some socketId ∧
        s.send side taken msg = { s with
          inbox := Function.update s.inbox (side.peer, socketId)
            (s.inbox (side.peer, socketId) ++ [msg])
          sent := s.sent ++ [(side.peer, socketId, msg)] } := by
  cases hslot : s.remoteDevSocketIds side with
  | none => exact .inl ⟨.inr rfl, by simp only [send, hslot]⟩
  | some socketId =>
      cases taken with
      | false => exact .inl ⟨.inl rfl, by simp only [send, hslot, Bool.false_eq_true, if_false]⟩
      | true => exact .inr ⟨socketId, rfl, rfl, by simp only [send, hslot, if_true]⟩

@[simp] theorem send_openers : (s.send side taken msg).openers = s.openers := by
  obtain ⟨_, heq⟩ | ⟨_, _, _, heq⟩ := s.send_cases side taken msg <;> rw [heq]

@[simp] theorem send_handed : (s.send side taken msg).handed = s.handed := by
  obtain ⟨_, heq⟩ | ⟨_, _, _, heq⟩ := s.send_cases side taken msg <;> rw [heq]

@[simp] theorem send_events : (s.send side taken msg).events = s.events := by
  obtain ⟨_, heq⟩ | ⟨_, _, _, heq⟩ := s.send_cases side taken msg <;> rw [heq]

@[simp] theorem send_globalCapInfoMap :
    (s.send side taken msg).globalCapInfoMap = s.globalCapInfoMap := by
  obtain ⟨_, heq⟩ | ⟨_, _, _, heq⟩ := s.send_cases side taken msg <;> rw [heq]

@[simp] theorem send_stopped : (s.send side taken msg).stopped = s.stopped := by
  obtain ⟨_, heq⟩ | ⟨_, _, _, heq⟩ := s.send_cases side taken msg <;> rw [heq]

end Send

theorem stopSocket_cases :
    (s.remoteDevSocketIds side = none ∧ s.stopSocket side = s) ∨ ∃ socketId,
      s.remoteDevSocketIds side = some socketId ∧ s.stopSocket side = { s with
        openAt := s.openAt.erase (side, socketId)
        remoteDevSocketIds := Function.update s.remoteDevSocketIds side none
        stopped := s.stopped ++ [(side, socketId)] } := by
  cases hslot : s.remoteDevSocketIds side with
  | none => exact .inl ⟨rfl, by simp only [stopSocket, hslot]⟩
  | some socketId =>
      exact .inr ⟨socketId, rfl, by simp only [stopSocket, hslot, shutdown]⟩

theorem parseAndSaveRemoteDHCaps_of_fits {caps : List CapabilityInfo}
    (hsize : caps.length ≤ maxDbRecordSize) : s.parseAndSaveRemoteDHCaps side caps = { s with
      globalCapInfoMap := Function.update s.globalCapInfoMap side
        (saveRecords CapabilityInfo.getKey (s.globalCapInfoMap side) caps) } := by
  cases caps with
  | nil =>
      have same : Function.update s.globalCapInfoMap side (s.globalCapInfoMap side) =
          s.globalCapInfoMap := Function.update_eq_self _ _
      simp only [parseAndSaveRemoteDHCaps, saveRecords, List.foldl_nil, same]
      exact ite_self _
  | cons cap caps =>
      have handled : isHandledSize (cap :: caps) = true := by
        simpa [isHandledSize] using hsize
      rw [parseAndSaveRemoteDHCaps, if_pos handled]

end CapsSyncState

inductive CapsSyncEvent
  | startSocket (side : Side)
  | sendRequest (side : Side) (taken : Bool)
  | onBind (side : Side) (socketId : Nat)
  | onBytes (side : Side) (socketId : Nat)
  | onShutdown (side : Side) (socketId : Nat)
  | processEvent (side : Side) (taken : Bool) (resInfos : List CapabilityInfo)

def capsSyncStep (s : CapsSyncState) : CapsSyncEvent → Option CapsSyncState
  | .startSocket side =>
      some { s.startSocket side with
        starting := Function.update s.starting side (s.starting side + 1) }
  | .sendRequest side taken =>
      if s.starting side = 0 then none
      else
        some ({ s with starting := Function.update s.starting side (s.starting side - 1) }.send side
          taken .reqFullCaps)
  | .onBind side socketId =>
      if s.openers[socketId]? = some side.peer ∧ socketId ∈ s.unbound then
        some ({ s with
          unbound := s.unbound.erase socketId
          openAt := insert (side, socketId) s.openAt }.onSocketOpened side socketId)
      else none
  | .onBytes side socketId =>
      if (side, socketId) ∈ s.openAt then
        match s.inbox (side, socketId) with
        | [] => none
        | msg :: rest =>
            some ({ s with inbox := Function.update s.inbox (side, socketId) rest }.onBytesReceived
              side socketId msg)
      else none
  | .onShutdown side socketId =>
      if (side, socketId) ∈ s.openAt then
        some ((s.shutdown side socketId).onSocketClosed side socketId)
      else none
  | .processEvent side taken resInfos =>
      match s.events side with
      | [] => none
      | msg :: rest =>
          some ({ s with events := Function.update s.events side rest }.processEvent side taken
            resInfos msg)

def capsSyncSystem : TransitionSystem CapsSyncState CapsSyncEvent where
  init := fun s => s = {}
  step := capsSyncStep

end DistributedHardware
