import DistributedHardware.AvTransport.SoftbusAdapter

/-!
The socket ids that `SoftbusChannelAdapter` obtains, and where it records them.

Here a call is cut where it holds no lock, so that other calls and softbus events come
between the creation of a socket and its entry in a map. A call in progress is what is left
of it, with the socket id that it has in hand.
-/

namespace DistributedHardware

inductive SocketCall
  | createSocket (pkgName sessName : String)
  | createListen (pkgName sessName : String) (socketId : Int)
  | createInsert (pkgName sessName : String) (socketId : Int)
  | removeShutdownServer (sessName : String) (serverSocketId : Int)
  | removeTakeSession (sessName : String)
  | removeShutdownSession (sessionId : Int)
  | openSocket (mySessName peerDevId : String)
  | openBind (mySessName peerDevId : String) (socketId : Int)
  | openInsert (mySessName peerDevId : String) (socketId : Int)
  | closeShutdown (sessName peerDevId : String) (sessionId : Int)
  | closeErase (sessName peerDevId : String)
  deriving DecidableEq

/-- The id in the hand of a call. -/
def SocketCall.held : SocketCall → Option Int
  | .createListen _ _ id | .createInsert _ _ id | .removeShutdownServer _ id
  | .removeShutdownSession id | .openBind _ _ id | .openInsert _ _ id
  | .closeShutdown _ _ id => some id
  | .createSocket .. | .removeTakeSession _ | .openSocket .. | .closeErase .. => none

inductive SocketOp
  | createChannelServer (pkgName sessName : String)
  | removeChannelServer (pkgName sessName : String)
  | openSoftbusChannel (mySessName peerSessName peerDevId : String)
  | closeSoftbusChannel (sessName peerDevId : String)

structure SocketState (L : Type) where
  adapter : SoftbusAdapter L := {}
  /-- The ids obtained from `Socket` that were neither shut down nor closed by softbus. -/
  sockets : List Int := []
  calls : List SocketCall := []

inductive SocketAct (L : Type)
  | start (op : SocketOp)
  /-- A call goes on; `answer` is what `Socket`, `Listen` or `Bind` returns. -/
  | proceed (call : SocketCall) (answer : Int)
  | channelOpened (peerSessionName : String) (sessionId : Int) (peerDevId : String) (result : Int)
  | channelClosed (sessionId : Int)
  | registerChannelListener (sessName peerDevId : String) (listener : Option L)
  | unRegisterChannelListener (sessName peerDevId : String)

namespace SocketState
open SoftbusAdapter
variable {L : Type}

def push (s : SocketState L) (call : SocketCall) : SocketState L :=
  { s with calls := call :: s.calls }

def shutdown (s : SocketState L) (id : Int) : SocketState L :=
  { s with adapter := s.adapter.shutdown id, sockets := s.sockets.filter (· ≠ id) }

def obtain (s : SocketState L) (id : Int) : SocketState L :=
  { s with sockets := id :: s.sockets }

/-- A call up to the place where it first holds no lock. -/
def start (s : SocketState L) : SocketOp → SocketState L
  | .createChannelServer pkgName sessName =>
      if pkgName = "" then s
      else if sessName = "" then s
      else if (s.adapter.serverMap.get (channelKey pkgName sessName)).isSome then s
      else s.push (.createSocket pkgName sessName)
  | .removeChannelServer pkgName sessName =>
      if pkgName = "" then s
      else if sessName = "" then s
      else
        let (serverSocketId, serverMap) :=
          takeFirst s.adapter.serverMap (channelKey pkgName sessName)
        { s with adapter := { s.adapter with serverMap } }.push
          (.removeShutdownServer sessName serverSocketId)
  | .openSoftbusChannel mySessName peerSessName peerDevId =>
      if mySessName = "" then s
      else if peerSessName = "" then s
      else if peerDevId = "" then s
      else if s.adapter.getSessIdBySessName mySessName peerDevId > 0 then s
      else s.push (.openSocket mySessName peerDevId)
  | .closeSoftbusChannel sessName peerDevId =>
      if sessName = "" then s
      else if peerDevId = "" then s
      else
        s.push (.closeShutdown sessName peerDevId
          (s.adapter.getSessIdBySessName sessName peerDevId))

/-- The next part of a call, which is no longer among the calls of `s`. -/
def proceed (s : SocketState L) (answer : Int) : SocketCall → SocketState L
  | .createSocket pkgName sessName =>
      if answer < 0 then s
      else (s.obtain answer).push (.createListen pkgName sessName answer)
  | .createListen pkgName sessName id =>
      if answer ≠ 0 then s else s.push (.createInsert pkgName sessName id)
  | .createInsert pkgName sessName id =>
      { s with adapter := { s.adapter with
          serverMap := insertSessId s.adapter.serverMap (channelKey pkgName sessName) id } }
  | .removeShutdownServer sessName id => (s.shutdown id).push (.removeTakeSession sessName)
  | .removeTakeSession sessName =>
      let (sessionId, devId2SessIdMap) := takeFirst s.adapter.devId2SessIdMap sessName
      { s with adapter := { s.adapter with devId2SessIdMap } }.push
        (.removeShutdownSession sessionId)
  | .removeShutdownSession id => s.shutdown id
  | .openSocket mySessName peerDevId =>
      if answer < 0 then s
      else (s.obtain answer).push (.openBind mySessName peerDevId answer)
  | .openBind mySessName peerDevId id =>
      if answer ≠ 0 then s else s.push (.openInsert mySessName peerDevId id)
  | .openInsert mySessName peerDevId id =>
      let adapter := s.adapter.opened mySessName peerDevId id
      let key := channelKey mySessName peerDevId
      let adapter := { adapter with
        devId2SessIdMap := insertSessId adapter.devId2SessIdMap key id }
      { s with adapter := adapter.sendEventChannelOpened mySessName peerDevId }
  | .closeShutdown sessName peerDevId id =>
      (s.shutdown id).push (.closeErase sessName peerDevId)
  | .closeErase sessName peerDevId =>
      { s with adapter := { s.adapter with
          devId2SessIdMap := s.adapter.devId2SessIdMap.erase (channelKey sessName peerDevId) } }

def step (s : SocketState L) : SocketAct L → Option (SocketState L)
  | .start op => some (s.start op)
  | .proceed call answer =>
      if call ∈ s.calls then
        some ({ s with calls := s.calls.erase call }.proceed answer call)
      else none
  | .channelOpened peerSessionName sessionId peerDevId result =>
      some { s with
        adapter :=
          (s.adapter.onSoftbusChannelOpened peerSessionName sessionId peerDevId result).2 }
  | .channelClosed sessionId =>
      some { s with
        adapter := s.adapter.onSoftbusChannelClosed sessionId
        sockets := s.sockets.filter (· ≠ sessionId) }
  | .registerChannelListener sessName peerDevId listener =>
      some { s with adapter := (s.adapter.registerChannelListener sessName peerDevId listener).2 }
  | .unRegisterChannelListener sessName peerDevId =>
      some { s with adapter := (s.adapter.unRegisterChannelListener sessName peerDevId).2 }

end SocketState

/-- An adapter that was just constructed, and the calls on it. -/
def socketSystem (L : Type) : TransitionSystem (SocketState L) (SocketAct L) where
  init s := s = {}
  step := SocketState.step

section Alone
open SoftbusAdapter
variable {L : Type}

/-- The calls in progress go on, the first of them first, while there are answers. -/
def SocketState.finish (s : SocketState L) : List Int → SocketState L
  | [] => s
  | answer :: answers =>
      match s.calls with
      | [] => s
      | call :: calls => ({ s with calls }.proceed answer call).finish answers

/-- Without an interruption the parts of a call do what the whole call does. -/
theorem finish_start (a : SoftbusAdapter L) (op : SocketOp) (socket ret : Int) :
    ((({ adapter := a } : SocketState L).start op).finish [socket, ret, 0, 0]).adapter =
      match op with
      | .createChannelServer pkgName sessName =>
          (a.createChannelServer pkgName sessName socket (ret = 0)).2
      | .removeChannelServer pkgName sessName => (a.removeChannelServer pkgName sessName).2
      | .openSoftbusChannel mySessName peerSessName peerDevId =>
          (a.openSoftbusChannel mySessName peerSessName peerDevId socket (ret = 0)).2
      | .closeSoftbusChannel sessName peerDevId =>
          (a.closeSoftbusChannel sessName peerDevId).2 := by
  cases op with
  | createChannelServer pkgName sessName =>
      simp only [SocketState.start, SoftbusAdapter.createChannelServer]
      split_ifs with h1 h2 h3 h4 h5 <;>
        simp [SocketState.finish, SocketState.push, SocketState.proceed, SocketState.obtain,
          insertSessId, *] <;> simp_all
  | removeChannelServer pkgName sessName =>
      simp only [SocketState.start, SoftbusAdapter.removeChannelServer]
      split_ifs <;> rfl
  | openSoftbusChannel mySessName peerSessName peerDevId =>
      simp only [SocketState.start, SoftbusAdapter.openSoftbusChannel]
      split_ifs <;>
        simp [SocketState.finish, SocketState.push, SocketState.proceed, SocketState.obtain, *] <;>
        simp_all
  | closeSoftbusChannel sessName peerDevId =>
      simp only [SocketState.start, SoftbusAdapter.closeSoftbusChannel]
      split_ifs <;> rfl

end Alone

/-- An entry of `serverMap_` or `devId2SessIdMap_` has the id. -/
def SocketRecorded {L : Type} (a : SoftbusAdapter L) (id : Int) : Prop :=
  (∃ key ∈ a.serverMap.keys, a.serverMap.get key = some id) ∨
    ∃ key ∈ a.devId2SessIdMap.keys, a.devId2SessIdMap.get key = some id

instance {L : Type} (a : SoftbusAdapter L) (id : Int) : Decidable (SocketRecorded a id) :=
  inferInstanceAs (Decidable (_ ∨ _))

def HeldBy (calls : List SocketCall) (id : Int) : Prop := ∃ call ∈ calls, call.held = some id

instance (calls : List SocketCall) (id : Int) : Decidable (HeldBy calls id) :=
  inferInstanceAs (Decidable (∃ call ∈ calls, _))

namespace SocketState
open SoftbusAdapter
variable {L : Type} {s t : SocketState L}

/-- Every open socket is recorded, or in the hand of a call in progress. -/
def NoneLost (s : SocketState L) : Prop :=
  ∀ id ∈ s.sockets, SocketRecorded s.adapter id ∨ HeldBy s.calls id

/-- The socket is not open, or is known elsewhere than to that call. -/
def KnownWithout (s : SocketState L) (call : SocketCall) (id : Int) : Prop :=
  id ∈ s.sockets → SocketRecorded s.adapter id ∨ HeldBy (s.calls.erase call) id

/-- The id is in the server map, under another key of the session map, or in hand. -/
def KnownOutside (s : SocketState L) (keys : List String) (id : Int) : Prop :=
  (∃ key ∈ s.adapter.serverMap.keys, s.adapter.serverMap.get key = some id) ∨
    (∃ key ∈ s.adapter.devId2SessIdMap.keys, key ∉ keys ∧
      s.adapter.devId2SessIdMap.get key = some id) ∨
    HeldBy s.calls id

/-- The open sockets that the entries of these keys have are known elsewhere, or are the
one that replaces them. -/
def KnownWithoutKeys (s : SocketState L) (keys : List String) (new : Option Int) : Prop :=
  ∀ key ∈ keys, ∀ id ∈ s.adapter.devId2SessIdMap.get key,
    id ∈ s.sockets → new ≠ some id → s.KnownOutside keys id

/-- The keys that an open event overwrites: those of the listeners in which it finds the
session name. -/
def overwrittenKeys (s : SocketState L) (peerSessionName peerDevId : String) : List String :=
  if findSessNameByPeerSessName peerSessionName = "" ∨ peerDevId = "" then []
  else s.adapter.listenerKeys (findSessNameByPeerSessName peerSessionName)

/-- When an action loses no socket: `Listen` and `Bind` succeed, what is inserted finds its
key free, and the entries that are erased or overwritten have no open socket; or the socket
is known elsewhere. -/
def LosesNone (s : SocketState L) : SocketAct L → Prop
  | .proceed (.createListen pkgName sessName id) answer =>
      answer = 0 ∨ s.KnownWithout (.createListen pkgName sessName id) id
  | .proceed (.createInsert pkgName sessName id) _ =>
      s.adapter.serverMap.get (channelKey pkgName sessName) = none ∨
        s.KnownWithout (.createInsert pkgName sessName id) id
  | .proceed (.openBind mySessName peerDevId id) answer =>
      answer = 0 ∨ s.KnownWithout (.openBind mySessName peerDevId id) id
  | .proceed (.openInsert mySessName peerDevId id) _ =>
      s.adapter.devId2SessIdMap.get (channelKey mySessName peerDevId) = none ∨
        s.KnownWithout (.openInsert mySessName peerDevId id) id
  | .proceed (.closeErase sessName peerDevId) _ =>
      s.KnownWithoutKeys [channelKey sessName peerDevId] none
  | .channelOpened peerSessionName sessionId peerDevId _ =>
      s.KnownWithoutKeys (s.overwrittenKeys peerSessionName peerDevId) (some sessionId)
  | _ => True

instance (s : SocketState L) (call : SocketCall) (id : Int) : Decidable (s.KnownWithout call id) :=
  inferInstanceAs (Decidable (_ → _))

instance (s : SocketState L) (keys : List String) (id : Int) :
    Decidable (s.KnownOutside keys id) :=
  inferInstanceAs (Decidable (_ ∨ _ ∨ _))

instance (s : SocketState L) (keys : List String) (new : Option Int) :
    Decidable (s.KnownWithoutKeys keys new) :=
  inferInstanceAs (Decidable (∀ key ∈ keys, ∀ id ∈ s.adapter.devId2SessIdMap.get key, _))

instance (s : SocketState L) (a : SocketAct L) : Decidable (s.LosesNone a) := by
  unfold LosesNone
  split <;> infer_instance

theorem socketRecorded_iff {a : SoftbusAdapter L} {id : Int} :
    SocketRecorded a id ↔ (∃ key, a.serverMap.get key = some id) ∨
      ∃ key, a.devId2SessIdMap.get key = some id := by
  have key (map : Store String Int) :
      (∃ key ∈ map.keys, map.get key = some id) ↔ ∃ key, map.get key = some id := by
    constructor
    · intro ⟨key, _, h⟩
      exact ⟨key, h⟩
    · intro ⟨key, h⟩
      exact ⟨key, (Store.mem_keys_iff map key).mpr ⟨id, h⟩, h⟩
  exact or_congr (key _) (key _)

theorem heldBy_erase {calls : List SocketCall} {call : SocketCall} (h : call ∈ calls) (id : Int) :
    HeldBy calls id ↔ call.held = some id ∨ HeldBy (calls.erase call) id := by
  have perm := List.perm_cons_erase h
  constructor
  · intro ⟨c, hc, held⟩
    rcases List.mem_cons.mp (perm.mem_iff.mp hc) with same | other
    · exact .inl (same ▸ held)
    · exact .inr ⟨c, other, held⟩
  · rintro (held | ⟨c, hc, held⟩)
    · exact ⟨call, h, held⟩
    · exact ⟨c, List.mem_of_mem_erase hc, held⟩

theorem heldBy_cons {calls : List SocketCall} {call : SocketCall} {id : Int} :
    HeldBy (call :: calls) id ↔ call.held = some id ∨ HeldBy calls id := by
  simp [HeldBy]

/-- A call that drops the id in its hand loses it unless it is known without that call. -/
theorem noneLost_drop_iff {call : SocketCall} {id : Int} (h : NoneLost s) (mem : call ∈ s.calls)
    (held : call.held = some id) :
    NoneLost { s with calls := s.calls.erase call } ↔ s.KnownWithout call id := by
  constructor
  · intro none
    exact none id
  · intro known other hother
    rcases h other hother with recorded | holds
    · exact .inl recorded
    · rcases (heldBy_erase mem other).mp holds with same | elsewhere
      · have heq : id = other := Option.some.inj (held.symm.trans same)
        exact heq ▸ known (heq ▸ hother)
      · exact .inr elsewhere

theorem NoneLost.push (h : NoneLost s) (call : SocketCall) : NoneLost (s.push call) := by
  intro id hid
  exact (h id hid).imp_right (fun held => heldBy_cons.mpr (.inr held))

theorem noneLost_shutdown {call : SocketCall} {id : Int} (h : NoneLost s) (mem : call ∈ s.calls)
    (held : call.held = some id) :
    NoneLost ({ s with calls := s.calls.erase call }.shutdown id) := by
  intro other hother
  obtain ⟨old, ne⟩ := List.mem_filter.mp hother
  rcases h other old with recorded | holds
  · exact .inl recorded
  · rcases (heldBy_erase mem other).mp holds with same | elsewhere
    · have heq : id = other := Option.some.inj (held.symm.trans same)
      simp [heq] at ne
    · exact .inr elsewhere

theorem noneLost_erase {call : SocketCall} (h : NoneLost s) (mem : call ∈ s.calls)
    (held : call.held = none) : NoneLost { s with calls := s.calls.erase call } := by
  intro id hid
  refine (h id hid).imp_right ?_
  intro holds
  refine ((heldBy_erase mem id).mp holds).resolve_left ?_
  rw [held]
  exact Option.some_ne_none id |>.symm

theorem noneLost_obtain {call next : SocketCall} {id : Int} (h : NoneLost s)
    (mem : call ∈ s.calls) (held : call.held = none) (takes : next.held = some id) :
    NoneLost (({ s with calls := s.calls.erase call }.obtain id).push next) := by
  intro other hother
  rcases List.mem_cons.mp hother with rfl | old
  · exact .inr (heldBy_cons.mpr (.inl takes))
  · exact ((noneLost_erase h mem held).push next) other old

/-- The id goes from the hand of one part of a call into that of the next. -/
theorem noneLost_pass {call next : SocketCall} (h : NoneLost s) (mem : call ∈ s.calls)
    (passes : next.held = call.held) :
    NoneLost ({ s with calls := s.calls.erase call }.push next) := by
  intro id hid
  refine (h id hid).imp_right ?_
  intro holds
  rw [push, heldBy_cons, passes]
  exact (heldBy_erase mem id).mp holds

/-- What asks for a socket keeps all, whether it gets one or not. -/
theorem noneLost_asked {call next : SocketCall} {answer : Int} (h : NoneLost s)
    (mem : call ∈ s.calls) (held : call.held = none) (takes : next.held = some answer) :
    NoneLost (if answer < 0 then { s with calls := s.calls.erase call }
      else ({ s with calls := s.calls.erase call }.obtain answer).push next) := by
  split
  · exact noneLost_erase h mem held
  · exact noneLost_obtain h mem held takes

/-- What has an id goes on with it or, where it fails, drops it. -/
theorem noneLost_answered_iff {call next : SocketCall} {id answer : Int} (h : NoneLost s)
    (mem : call ∈ s.calls) (held : call.held = some id) (passes : next.held = call.held) :
    NoneLost (if answer ≠ 0 then { s with calls := s.calls.erase call }
      else { s with calls := s.calls.erase call }.push next) ↔
      answer = 0 ∨ s.KnownWithout call id := by
  by_cases failed : answer = 0
  · rw [if_neg (not_not.mpr failed)]
    exact iff_of_true (noneLost_pass h mem passes) (.inl failed)
  · rw [if_pos failed, or_iff_right failed]
    exact noneLost_drop_iff h mem held

theorem get_takeFirst_or (map : Store String Int) (name : String) {key : String} {id : Int}
    (h : map.get key = some id) :
    (takeFirst map name).2.get key = some id ∨ (takeFirst map name).1 = id := by
  rw [get_takeFirst]
  split
  case isTrue first =>
    refine .inr ?_
    rw [takeFirst, ← first]
    simp [h]
  case isFalse => exact .inl h

/-- What is taken out of a map goes into the hand of the next part of the call. -/
theorem noneLost_takeServer (h : NoneLost s) (name sessName : String) :
    NoneLost ({ s with adapter := { s.adapter with
      serverMap := (takeFirst s.adapter.serverMap name).2 } }.push
        (.removeShutdownServer sessName (takeFirst s.adapter.serverMap name).1)) := by
  intro id hid
  rcases h id hid with recorded | holds
  · rcases socketRecorded_iff.mp recorded with ⟨key, hkey⟩ | session
    · rcases get_takeFirst_or s.adapter.serverMap name hkey with kept | taken
      · exact .inl (socketRecorded_iff.mpr (.inl ⟨key, kept⟩))
      · exact .inr (heldBy_cons.mpr (.inl (congrArg some taken)))
    · exact .inl (socketRecorded_iff.mpr (.inr session))
  · exact .inr (heldBy_cons.mpr (.inr holds))

theorem noneLost_takeSession (h : NoneLost s) (name : String) :
    NoneLost ({ s with adapter := { s.adapter with
      devId2SessIdMap := (takeFirst s.adapter.devId2SessIdMap name).2 } }.push
        (.removeShutdownSession (takeFirst s.adapter.devId2SessIdMap name).1)) := by
  intro id hid
  rcases h id hid with recorded | holds
  · rcases socketRecorded_iff.mp recorded with server | ⟨key, hkey⟩
    · exact .inl (socketRecorded_iff.mpr (.inl server))
    · rcases get_takeFirst_or s.adapter.devId2SessIdMap name hkey with kept | taken
      · exact .inl (socketRecorded_iff.mpr (.inr ⟨key, kept⟩))
      · exact .inr (heldBy_cons.mpr (.inl (congrArg some taken)))
  · exact .inr (heldBy_cons.mpr (.inr holds))

theorem noneLost_start (h : NoneLost s) (op : SocketOp) : NoneLost (s.start op) := by
  cases op with
  | createChannelServer pkgName sessName =>
      rw [start]
      split_ifs
      · exact h
      · exact h
      · exact h
      · exact h.push _
  | removeChannelServer pkgName sessName =>
      rw [start]
      split_ifs
      · exact h
      · exact h
      · exact noneLost_takeServer h _ sessName
  | openSoftbusChannel mySessName peerSessName peerDevId =>
      rw [start]
      split_ifs
      · exact h
      · exact h
      · exact h
      · exact h
      · exact h.push _
  | closeSoftbusChannel sessName peerDevId =>
      rw [start]
      split_ifs
      · exact h
      · exact h
      · exact h.push _

/-- Inserting an id records it, or drops it where the key has an entry. -/
theorem noneLost_insert_iff {call : SocketCall} {id : Int} {a : SoftbusAdapter L} {free : Prop}
    (h : NoneLost s) (mem : call ∈ s.calls) (held : call.held = some id)
    (records : ∀ other,
      SocketRecorded a other ↔ SocketRecorded s.adapter other ∨ (free ∧ other = id)) :
    NoneLost { s with adapter := a, calls := s.calls.erase call } ↔
      free ∨ s.KnownWithout call id := by
  by_cases isFree : free
  · refine iff_of_true ?_ (.inl isFree)
    intro other hother
    rcases h other hother with recorded | holds
    · exact .inl ((records other).mpr (.inl recorded))
    · rcases (heldBy_erase mem other).mp holds with same | elsewhere
      · have heq : id = other := Option.some.inj (held.symm.trans same)
        exact .inl ((records other).mpr (.inr ⟨isFree, heq.symm⟩))
      · exact .inr elsewhere
  · rw [or_iff_right isFree, ← noneLost_drop_iff h mem held]
    refine forall₂_congr (fun other _ => or_congr_left ?_)
    rw [records other]
    exact or_iff_left (fun inserted => isFree inserted.1)

theorem entry_insertSessId (map : Store String Int) (key : String) (id other : Int) :
    (∃ k, (insertSessId map key id).get k = some other) ↔
      (∃ k, map.get k = some other) ∨ (map.get key = none ∧ other = id) := by
  constructor
  · intro ⟨k, hk⟩
    rw [get_insertSessId] at hk
    split at hk
    case isTrue free => exact .inr ⟨free.2, (Option.some.inj hk).symm⟩
    case isFalse => exact .inl ⟨k, hk⟩
  · rintro (⟨k, hk⟩ | ⟨free, rfl⟩)
    · refine ⟨k, ?_⟩
      rw [get_insertSessId, if_neg, hk]
      rintro ⟨rfl, free⟩
      rw [free] at hk
      cases hk
    · refine ⟨key, ?_⟩
      rw [get_insertSessId, if_pos ⟨rfl, free⟩]

theorem noneLost_createInsert_iff (h : NoneLost s) {pkgName sessName : String} {id answer : Int}
    (mem : .createInsert pkgName sessName id ∈ s.calls) :
    NoneLost ({ s with calls := s.calls.erase (.createInsert pkgName sessName id) }.proceed answer
        (.createInsert pkgName sessName id)) ↔
      s.adapter.serverMap.get (channelKey pkgName sessName) = none ∨
        s.KnownWithout (.createInsert pkgName sessName id) id := by
  refine noneLost_insert_iff h mem rfl ?_
  intro other
  rw [socketRecorded_iff, socketRecorded_iff, entry_insertSessId]
  tauto

theorem noneLost_openInsert_iff (h : NoneLost s) {mySessName peerDevId : String} {id answer : Int}
    (mem : .openInsert mySessName peerDevId id ∈ s.calls) :
    NoneLost ({ s with calls := s.calls.erase (.openInsert mySessName peerDevId id) }.proceed answer
        (.openInsert mySessName peerDevId id)) ↔
      s.adapter.devId2SessIdMap.get (channelKey mySessName peerDevId) = none ∨
        s.KnownWithout (.openInsert mySessName peerDevId id) id := by
  refine noneLost_insert_iff h mem rfl ?_
  intro other
  rw [socketRecorded_iff, socketRecorded_iff]
  change (_ ∨ ∃ k, (insertSessId s.adapter.devId2SessIdMap (channelKey mySessName peerDevId)
    id).get k = some other) ↔ _
  rw [entry_insertSessId]
  tauto

/-- Entries that are erased, or replaced by `new`, under the keys. -/
theorem noneLost_keys_iff {a : SoftbusAdapter L} {calls : List SocketCall} {keys : List String}
    {new : Option Int} (written : Prop) (h : NoneLost s)
    (server : a.serverMap = s.adapter.serverMap)
    (held : ∀ id, HeldBy calls id ↔ HeldBy s.calls id)
    (replaced : ∀ key ∈ keys, ∀ id, new = some id → written)
    (entries : ∀ id, (∃ key, a.devId2SessIdMap.get key = some id) ↔
      (∃ key, key ∉ keys ∧ s.adapter.devId2SessIdMap.get key = some id) ∨
        (written ∧ new = some id)) :
    NoneLost { s with adapter := a, calls := calls } ↔ s.KnownWithoutKeys keys new := by
  constructor
  · intro none key mem id hkey hid other
    rcases none id hid with recorded | holds
    · rcases socketRecorded_iff.mp recorded with ⟨k, hk⟩ | session
      · rw [server] at hk
        exact .inl ⟨k, (Store.mem_keys_iff _ k).mpr ⟨id, hk⟩, hk⟩
      · rcases (entries id).mp session with ⟨k, out, hk⟩ | new
        · exact .inr (.inl ⟨k, (Store.mem_keys_iff _ k).mpr ⟨id, hk⟩, out, hk⟩)
        · exact absurd new.2 other
    · exact .inr (.inr ((held id).mp holds))
  · intro known id hid
    rcases h id hid with recorded | holds
    · rcases socketRecorded_iff.mp recorded with ⟨k, hk⟩ | ⟨key, hkey⟩
      · exact .inl (socketRecorded_iff.mpr (.inl ⟨k, server ▸ hk⟩))
      · by_cases mem : key ∈ keys
        · by_cases same : new = some id
          · exact .inl (socketRecorded_iff.mpr (.inr
              ((entries id).mpr (.inr ⟨replaced key mem id same, same⟩))))
          · rcases known key mem id hkey hid same with ⟨k, -, hk⟩ | ⟨k, -, out, hk⟩ | holds
            · exact .inl (socketRecorded_iff.mpr (.inl ⟨k, server ▸ hk⟩))
            · exact .inl (socketRecorded_iff.mpr (.inr ((entries id).mpr (.inl ⟨k, out, hk⟩))))
            · exact .inr ((held id).mpr holds)
        · exact .inl (socketRecorded_iff.mpr (.inr ((entries id).mpr (.inl ⟨key, mem, hkey⟩))))
    · exact .inr ((held id).mpr holds)

theorem noneLost_closeErase_iff (h : NoneLost s) {sessName peerDevId : String} {answer : Int}
    (mem : .closeErase sessName peerDevId ∈ s.calls) :
    NoneLost ({ s with calls := s.calls.erase (.closeErase sessName peerDevId) }.proceed answer
        (.closeErase sessName peerDevId)) ↔
      s.KnownWithoutKeys [channelKey sessName peerDevId] none := by
  refine noneLost_keys_iff False h rfl ?_ ?_ ?_
  · intro id
    rw [heldBy_erase mem id]
    exact (or_iff_right (by simp [SocketCall.held])).symm
  · intro _ _ _ hnone
    cases hnone
  · intro id
    simp only [Store.get_erase, List.mem_singleton, false_and, or_false]
    refine exists_congr (fun key => ?_)
    split
    case isTrue same => simp [same]
    case isFalse other => simp [other]

theorem findSessNameByPeerSessName_empty : findSessNameByPeerSessName "" = "" := by
  decide +kernel

theorem maps_onSoftbusChannelOpened (a : SoftbusAdapter L) {peerSessionName peerDevId : String}
    (sessionId result : Int) (named : findSessNameByPeerSessName peerSessionName ≠ "")
    (device : peerDevId ≠ "") :
    (a.onSoftbusChannelOpened peerSessionName sessionId peerDevId result).2.serverMap =
        a.serverMap ∧
      (a.onSoftbusChannelOpened peerSessionName sessionId peerDevId result).2.devId2SessIdMap =
        a.openedEntries (findSessNameByPeerSessName peerSessionName) peerDevId sessionId := by
  have notEmpty : peerSessionName ≠ "" := by
    intro empty
    exact named (empty ▸ findSessNameByPeerSessName_empty)
  simp only [onSoftbusChannelOpened, notEmpty, device, named, if_false]
  split <;> exact ⟨rfl, rfl⟩

theorem entry_openedEntries (a : SoftbusAdapter L) (mySessName peerDevId : String)
    (sessionId id : Int) :
    (∃ key, (a.openedEntries mySessName peerDevId sessionId).get key = some id) ↔
      (∃ key, key ∉ a.listenerKeys mySessName ∧ a.devId2SessIdMap.get key = some id) ∨
        ((∃ key, key ∈ a.writtenKeys mySessName peerDevId) ∧ some sessionId = some id) := by
  constructor
  · intro ⟨key, hkey⟩
    rw [get_openedEntries] at hkey
    split at hkey
    case isTrue mem => exact .inr ⟨⟨key, mem⟩, hkey⟩
    case isFalse out =>
      refine .inl ⟨key, ?_, hkey⟩
      intro mem
      exact out (List.mem_append_left _ mem)
  · rintro (⟨key, out, hkey⟩ | ⟨⟨key, mem⟩, same⟩)
    · refine ⟨key, ?_⟩
      rw [get_openedEntries, if_neg, hkey]
      intro mem
      rcases List.mem_append.mp mem with listener | own
      · exact out listener
      · split at own
        case isTrue free =>
          rw [List.mem_singleton.mp own, free] at hkey
          cases hkey
        case isFalse => cases own
    · exact ⟨key, by rw [get_openedEntries, if_pos mem, same]⟩

theorem noneLost_channelOpened_iff (h : NoneLost s) (peerSessionName peerDevId : String)
    (sessionId result : Int) :
    NoneLost { s with
        adapter :=
          (s.adapter.onSoftbusChannelOpened peerSessionName sessionId peerDevId result).2 } ↔
      s.KnownWithoutKeys (s.overwrittenKeys peerSessionName peerDevId) (some sessionId) := by
  by_cases refused : findSessNameByPeerSessName peerSessionName = "" ∨ peerDevId = ""
  · have same : (s.adapter.onSoftbusChannelOpened peerSessionName sessionId peerDevId result).2 =
        s.adapter := by
      rcases s.adapter.onSoftbusChannelOpened_eq peerSessionName peerDevId sessionId result with
        same | ⟨accepted, -⟩
      · exact same
      · exact absurd refused (not_or.mpr accepted)
    rw [same, overwrittenKeys, if_pos refused]
    refine iff_of_true h ?_
    intro key mem
    cases mem
  · obtain ⟨named, device⟩ := not_or.mp refused
    obtain ⟨server, entries⟩ :=
      maps_onSoftbusChannelOpened s.adapter sessionId result named device
    rw [overwrittenKeys, if_neg refused]
    refine noneLost_keys_iff (∃ key, key ∈ s.adapter.writtenKeys
      (findSessNameByPeerSessName peerSessionName) peerDevId) h server (fun _ => Iff.rfl) ?_ ?_
    · intro key mem _ _
      exact ⟨key, List.mem_append_left _ mem⟩
    · intro id
      rw [entries]
      exact entry_openedEntries s.adapter _ peerDevId sessionId id

theorem noneLost_channelClosed (h : NoneLost s) (sessionId : Int) :
    NoneLost { s with
      adapter := s.adapter.onSoftbusChannelClosed sessionId
      sockets := s.sockets.filter (· ≠ sessionId) } := by
  intro id hid
  obtain ⟨old, ne⟩ := List.mem_filter.mp hid
  rcases h id old with recorded | holds
  · refine .inl (socketRecorded_iff.mpr ((socketRecorded_iff.mp recorded).imp_right ?_))
    intro ⟨key, hkey⟩
    refine ⟨key, ?_⟩
    change ((s.adapter.keysOf sessionId).foldl (fun map key => map.erase key)
      s.adapter.devId2SessIdMap).get key = some id
    rw [Store.get_foldl_erase, if_neg, hkey]
    rw [mem_keysOf, hkey]
    simpa using ne
  · exact .inr holds

/-- Of the parts of a call, those that lose no socket are those that meet the condition. -/
theorem noneLost_proceed_iff (h : NoneLost s) {call : SocketCall} (mem : call ∈ s.calls)
    (answer : Int) :
    NoneLost ({ s with calls := s.calls.erase call }.proceed answer call) ↔
      s.LosesNone (.proceed call answer) := by
  cases call with
  | createSocket pkgName sessName => exact iff_of_true (noneLost_asked h mem rfl rfl) trivial
  | createListen pkgName sessName id => exact noneLost_answered_iff h mem rfl rfl
  | createInsert pkgName sessName id => exact noneLost_createInsert_iff h mem
  | removeShutdownServer sessName id =>
      exact iff_of_true ((noneLost_shutdown h mem rfl).push _) trivial
  | removeTakeSession sessName =>
      exact iff_of_true (noneLost_takeSession (noneLost_erase h mem rfl) sessName) trivial
  | removeShutdownSession id => exact iff_of_true (noneLost_shutdown h mem rfl) trivial
  | openSocket mySessName peerDevId => exact iff_of_true (noneLost_asked h mem rfl rfl) trivial
  | openBind mySessName peerDevId id => exact noneLost_answered_iff h mem rfl rfl
  | openInsert mySessName peerDevId id => exact noneLost_openInsert_iff h mem
  | closeShutdown sessName peerDevId id =>
      exact iff_of_true ((noneLost_shutdown h mem rfl).push _) trivial
  | closeErase sessName peerDevId => exact noneLost_closeErase_iff h mem

theorem noneLost_step_iff (h : NoneLost s) {a : SocketAct L} (hs : s.step a = some t) :
    NoneLost t ↔ s.LosesNone a := by
  cases a with
  | start op =>
      cases hs
      exact iff_of_true (noneLost_start h op) trivial
  | proceed call answer =>
      simp only [step] at hs
      split at hs
      case isTrue mem =>
        cases hs
        exact noneLost_proceed_iff h mem answer
      case isFalse => cases hs
  | channelOpened peerSessionName sessionId peerDevId result =>
      cases hs
      exact noneLost_channelOpened_iff h peerSessionName peerDevId sessionId result
  | channelClosed sessionId =>
      cases hs
      exact iff_of_true (noneLost_channelClosed h sessionId) trivial
  | registerChannelListener sessName peerDevId listener =>
      cases hs
      refine iff_of_true ?_ trivial
      unfold registerChannelListener
      split_ifs <;> exact h
  | unRegisterChannelListener sessName peerDevId =>
      cases hs
      refine iff_of_true ?_ trivial
      unfold unRegisterChannelListener
      split_ifs <;> exact h

theorem noneLost_init (hi : (socketSystem L).init s) : NoneLost s := by
  cases hi
  intro id hid
  cases hid

/-- In every run the sockets stay known exactly as long as no step loses one, and where no
call is in progress, known means recorded. -/
theorem socketsRecorded_run_iff {acts : List (SocketAct L)} :
    ((socketSystem L).RunIn NoneLost acts s ↔ (socketSystem L).Run LosesNone acts s) ∧
      ((socketSystem L).Run LosesNone acts s → s.calls = [] →
        ∀ id ∈ s.sockets, SocketRecorded s.adapter id) := by
  have runs : (socketSystem L).RunIn NoneLost acts s ↔ (socketSystem L).Run LosesNone acts s :=
    TransitionSystem.runIn_iff_run (fun _ => noneLost_init)
      (fun _ _ _ _ good hs => noneLost_step_iff good hs)
  refine ⟨runs, ?_⟩
  intro run idle id hid
  rcases (runs.mpr run).good (fun _ => noneLost_init) id hid with recorded | ⟨call, mem, -⟩
  · exact recorded
  · rw [idle] at mem
    cases mem

/-- A channel that was opened: its socket is in the session map. -/
theorem socketsRecorded_run_open : ∃ s : SocketState Unit,
    s.sockets = [3] ∧ ∀ id ∈ s.sockets, SocketRecorded s.adapter id := by
  have replayed : ∃ s ∈ (socketSystem Unit).replay LosesNone {}
      [.start (.openSoftbusChannel "mic" "speaker" "peer"), .proceed (.openSocket "mic" "peer") 3,
        .proceed (.openBind "mic" "peer" 3) 0, .proceed (.openInsert "mic" "peer" 3) 0],
      s.calls = [] ∧ s.sockets = [3] := by
    decide +kernel
  obtain ⟨s, hs, idle, sockets⟩ := replayed
  exact ⟨s, sockets, socketsRecorded_run_iff.2 (TransitionSystem.run_of_replay rfl hs) idle⟩

/-- A socket whose `Listen` or `Bind` fails is forgotten. -/
theorem exists_socket_lost :
    (∃ s, (socketSystem Unit).Reachable s ∧ s.calls = [] ∧
      ∃ id ∈ s.sockets, ¬ SocketRecorded s.adapter id) := by
  have replayed : ∃ s ∈ (socketSystem Unit).replay (fun _ _ => True) {}
      [.start (.createChannelServer "ohos.dhardware.daudio" "dmic"),
        .proceed (.createSocket "ohos.dhardware.daudio" "dmic") 7,
        .proceed (.createListen "ohos.dhardware.daudio" "dmic" 7) (-1)],
      s.calls = [] ∧ ∃ id ∈ s.sockets, ¬ SocketRecorded s.adapter id := by
    decide +kernel
  obtain ⟨s, hs, lost⟩ := replayed
  exact ⟨s, (TransitionSystem.run_of_replay rfl hs).reachable, lost⟩

end SocketState
end DistributedHardware
