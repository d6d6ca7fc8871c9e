import DistributedHardware.AvTransport.EventDispatch
import DistributedHardware.AvTransport.TransEngine

/-!
Sender and receiver engines over one adapter, each bound to a peer.

An engine takes every event that the adapter gives it, without a look at the peer. So an
event stays with the engines of its peer exactly as far as the adapter keeps the keys
apart: every key that an event goes to is the session's own, and an engine is registered
under no other key than its own.
-/

namespace DistributedHardware

/-- An engine, or another user of the adapter. -/
inductive ChannelListener
  | engine (id : Nat)
  | other (id : Nat)
  deriving DecidableEq

structure EnginesState where
  adapter : SoftbusAdapter ChannelListener := {}
  engines : Store Nat TransEngine := ∅

inductive EnginesAct
  | create (id : Nat) (kind : EngineKind) (ownerName peerDevId : String)
  | op (id : Nat) (o : EngineOp)
  /-- A call of softbus or of another user, or a thread of the adapter. -/
  | adapter (a : AdapterAct ChannelListener)

/-- The event goes to the engine that the adapter calls. -/
def deliver (engines : Store Nat TransEngine) (call : ChannelListener × AVTransEvent) :
    Store Nat TransEngine :=
  match call.1 with
  | .engine id => engines.modify id (·.onChannelEvent call.2)
  | .other _ => engines

/-- Other users register listeners of their own. -/
def registersOther : AdapterAct ChannelListener → Bool
  | .registerChannelListener _ _ (some (.engine _)) => false
  | _ => true

namespace EnginesState

def step (s : EnginesState) : EnginesAct → Option EnginesState
  | .create id kind ownerName peerDevId =>
      if (s.engines.get id).isSome then none
      else some { s with engines := s.engines.set id { kind, ownerName, peerDevId } }
  | .op id o =>
      (s.engines.get id).map (fun e =>
        let (e, adapter) := e.run (ChannelListener.engine id) s.adapter o
        { adapter, engines := s.engines.set id e })
  | .adapter a =>
      if registersOther a then
        (s.adapter.act a).map (fun (calls, adapter) =>
          { adapter, engines := calls.foldl deliver s.engines })
      else none

end EnginesState

def enginesSystem : TransitionSystem EnginesState EnginesAct where
  init s := s = {}
  step := EnginesState.step

/-- What an engine can be bound to: an id without `_`, not the special one. -/
def IsDevice (peerDevId : String) : Prop :=
  '_' ∉ peerDevId.toList ∧ peerDevId ≠ avTransSpecialDeviceId

instance (peerDevId : String) : Decidable (IsDevice peerDevId) :=
  inferInstanceAs (Decidable (_ ∧ _))

namespace EnginesState
variable (s : EnginesState)

/-- The engine is enabled. -/
def Enabled (id : Nat) : Prop := ∃ e ∈ s.engines.get id, e.Enabled

instance (id : Nat) : Decidable (s.Enabled id) := inferInstanceAs (Decidable (∃ e ∈ _, _))

/-- The engine that a listener is. -/
def engineOf : ChannelListener → Option TransEngine
  | .engine id => s.engines.get id
  | .other _ => none

/-- The engine that a thread finds under its key. -/
def calledBy (thread : ChannelEventThread) : Option TransEngine :=
  (s.adapter.listenerMap.get thread.sessName).join.bind s.engineOf

/-- No key has the engine as its listener. -/
def Unregistered (id : Nat) : Prop :=
  ∀ key ∈ s.adapter.listenerMap.keys,
    s.adapter.listenerMap.get key ≠ some (some (.engine id))

instance (id : Nat) : Decidable (s.Unregistered id) := inferInstanceAs (Decidable (∀ key ∈ _, _))

/-- The call ends the streaming of the engine: a stop, a release, or the close of the
channel it is registered for. -/
def Ends (id : Nat) : EnginesAct → Prop
  | .op id' (.stop ..) => id' = id
  | .op id' .release => id' = id
  | .adapter (.sendChannelEvent index) =>
      ∃ thread ∈ s.adapter.threads[index]?, ∃ e ∈ s.engines.get id,
        thread.event.type = .channelClosed ∧
          thread.sessName = channelKey e.sessionName e.peerDevId ∧ e.peerDevId ∈ thread.origins
  | _ => False

/-- Where a call of the adapter changes an engine, it is a thread's, with an event of a
session with the engine's peer. -/
def Isolated (a : EnginesAct) (t : EnginesState) : Prop :=
  ∀ a', a = .adapter a' → ∀ id e, s.engines.get id = some e → t.engines.get id ≠ some e →
    ∃ index thread, a' = .sendChannelEvent index ∧ s.adapter.threads[index]? = some thread ∧
      e.peerDevId ∈ thread.origins

/-- Opening a channel for the engine keeps the map and finds no listener but its own. -/
def opensOwn (e : TransEngine) (id : Nat) (peerDevId : String) (socket : Int) (bind : Bool) :
    Prop :=
  let adapter := (s.adapter.registerChannelListener e.sessionName peerDevId (some (.engine id))).2
  let opens : AdapterAct ChannelListener :=
    .openSoftbusChannel e.sessionName e.peerSessName peerDevId socket bind
  keepsSessions adapter opens ∧ dispatchesOwn adapter opens

instance (e : TransEngine) (id : Nat) (peerDevId : String) (socket : Int) (bind : Bool) :
    Decidable (s.opensOwn e id peerDevId socket bind) :=
  inferInstanceAs (Decidable (keepsSessions _ _ ∧ dispatchesOwn _ _))

/-- An open event of the engine's own peer does not come late, to an engine that streams
already. -/
def arrivesInTime : AdapterAct ChannelListener → Prop
  | .sendChannelEvent index =>
      ∀ thread ∈ s.adapter.threads[index]?, ∀ e ∈ s.calledBy thread,
        e.peerDevId ∈ thread.origins → e.Enabled → e.callback = true →
          thread.event.type ≠ .channelOpened ∧ thread.event.type ≠ .channelOpenFail
  | _ => True

end EnginesState

/-- Engines are bound to devices, are registered for no other peer when they are bound to
one, and are not initialized anew while they stream; the adapter keeps its sessions and
finds a session's name in the session's own keys only. -/
def keepsPeers (s : EnginesState) : EnginesAct → Prop
  | .create _ _ _ peerDevId => IsDevice peerDevId
  | .op id (.initializeEngine _) =>
      ∀ e ∈ s.engines.get id, e.isInitialized = false → ¬ e.Enabled
  | .op id (.createControlChannel (peerDevId :: _) socket bind) =>
      ∀ e ∈ s.engines.get id, IsDevice peerDevId ∧
        (peerDevId = e.peerDevId ∨ s.Unregistered id) ∧
        (peerDevId ≠ "" → s.opensOwn e id peerDevId socket bind)
  | .op id .release =>
      ∀ e ∈ s.engines.get id, ¬ (e.kind = .receiver ∧ e.currentState = .idle) →
        keepsSessions s.adapter (.closeSoftbusChannel e.sessionName e.peerDevId)
  | .adapter a => keepsSessions s.adapter a ∧ dispatchesOwn s.adapter a ∧ s.arrivesInTime a
  | _ => True

instance (s : EnginesState) (a : AdapterAct ChannelListener) : Decidable (s.arrivesInTime a) := by
  unfold EnginesState.arrivesInTime
  split <;> infer_instance

instance (s : EnginesState) (a : EnginesAct) : Decidable (keepsPeers s a) := by
  unfold keepsPeers
  split <;> infer_instance

instance (s : EnginesState) (id : Nat) (a : EnginesAct) : Decidable (s.Ends id a) := by
  unfold EnginesState.Ends
  split <;> infer_instance

/-- What holds throughout such runs. -/
structure PeersKept (s : EnginesState) : Prop where
  tracked : Tracked s.adapter
  threads : ThreadsOwn s.adapter
  devices : ∀ id e, s.engines.get id = some e → IsDevice e.peerDevId
  registered : ∀ key id, s.adapter.listenerMap.get key = some (some (.engine id)) →
    ∃ e, s.engines.get id = some e ∧ key = channelKey e.sessionName e.peerDevId

section Calls
variable {s t : EnginesState}

/-- An engine that a thread calls is the session's own. -/
theorem PeersKept.calledBy (kept : PeersKept s) {thread : ChannelEventThread}
    (mem : thread ∈ s.adapter.threads) {id : Nat}
    (hget : s.adapter.listenerMap.get thread.sessName = some (some (.engine id))) :
    ∃ e, s.engines.get id = some e ∧ thread.sessName = channelKey e.sessionName e.peerDevId ∧
      e.peerDevId ∈ thread.origins := by
  obtain ⟨e, he, hkey⟩ := kept.registered _ id hget
  obtain ⟨plain, notSpecial⟩ := kept.devices id e he
  obtain ⟨sessName, peerDevId, origin, own⟩ := kept.threads thread mem
  rw [hkey] at own
  obtain ⟨-, rfl | special⟩ := own.names plain
  · exact ⟨e, he, hkey, origin⟩
  · exact absurd special notSpecial

/-- Events that are no channel events leave the engines. -/
theorem get_deliver_timeSync {calls : List (ChannelListener × AVTransEvent)}
    (quiet : ∀ call ∈ calls, call.2.type = .timeSyncResult) (engines : Store Nat TransEngine)
    (id : Nat) : (calls.foldl deliver engines).get id = engines.get id := by
  induction calls generalizing engines with
  | nil => rfl
  | cons call calls ih =>
      rw [List.foldl_cons, ih (fun call mem => quiet call (List.mem_cons_of_mem _ mem))]
      have same (e : TransEngine) : e.onChannelEvent call.2 = e := by
        simp [TransEngine.onChannelEvent, quiet call List.mem_cons_self]
      unfold deliver
      cases call.1 with
      | other _ => rfl
      | engine id' =>
          rw [Store.get_modify]
          split
          case isTrue heq =>
            subst heq
            cases engines.get id with
            | none => rfl
            | some e => exact congrArg some (same e)
          case isFalse => rfl

/-- What a call of the adapter does to the engines: nothing, or a thread gives its event to
the engine under its key. -/
theorem engines_of_adapter {a : AdapterAct ChannelListener} (hs : s.step (.adapter a) = some t) :
    registersOther a = true ∧ s.adapter.step a = some t.adapter ∧
      ((∀ id, t.engines.get id = s.engines.get id) ∨
        ∃ index thread id, a = .sendChannelEvent index ∧
          s.adapter.threads[index]? = some thread ∧
          s.adapter.listenerMap.get thread.sessName = some (some (.engine id)) ∧
          ∀ id', t.engines.get id' =
            if id' = id then (s.engines.get id).map (·.onChannelEvent thread.event)
            else s.engines.get id') := by
  simp only [EnginesState.step] at hs
  split at hs
  case isFalse => cases hs
  case isTrue others =>
    obtain ⟨⟨calls, adapter⟩, hact, rfl⟩ := Option.map_eq_some_iff.mp hs
    refine ⟨others, Option.map_eq_some_iff.mpr ⟨_, hact, rfl⟩, ?_⟩
    by_cases noThread : ∀ index, a ≠ .sendChannelEvent index
    · exact .inl (get_deliver_timeSync (calls_of_act noThread hact) s.engines)
    · push Not at noThread
      obtain ⟨index, rfl⟩ := noThread
      obtain ⟨thread, hthread, rfl⟩ := act_sendChannelEvent hact
      cases hlistener : (s.adapter.listenerMap.get thread.sessName).join with
      | none => exact .inl (fun _ => rfl)
      | some listener =>
          cases listener with
          | other _ => exact .inl (fun _ => rfl)
          | engine id =>
              refine .inr ⟨index, thread, id, rfl, hthread, ?_, ?_⟩
              · exact Option.join_eq_some_iff.mp hlistener
              · intro id'
                exact Store.get_modify _ _ _ _

theorem engines_of_op {id : Nat} {o : EngineOp} (hs : s.step (.op id o) = some t) :
    ∃ e, s.engines.get id = some e ∧ t.adapter = (e.run (.engine id) s.adapter o).2 ∧
      ∀ id', t.engines.get id' =
        if id' = id then some (e.run (.engine id) s.adapter o).1 else s.engines.get id' := by
  obtain ⟨e, he, rfl⟩ := Option.map_eq_some_iff.mp hs
  exact ⟨e, he, rfl, fun id' => Store.get_set _ _ _ _⟩

end Calls

section Kept
variable {s t : EnginesState}

/-- The adapter stays right, and its listeners are those of before or registered now. -/
theorem adapter_of_step {a a' : SoftbusAdapter ChannelListener}
    (act : AdapterAct ChannelListener) (tracked : Tracked a) (own : ThreadsOwn a)
    (keeps : keepsSessions a act) (dispatched : dispatchesOwn a act) (hs : a.step act = some a') :
    Tracked a' ∧ ThreadsOwn a' :=
  ⟨tracked.step keeps hs, own.step tracked dispatched hs⟩

theorem listener_of_register {a : SoftbusAdapter ChannelListener} {sessName peerDevId key : String}
    {this listener : ChannelListener}
    (hget : (a.registerChannelListener sessName peerDevId (some this)).2.listenerMap.get key =
      some (some listener)) :
    a.listenerMap.get key = some (some listener) ∨
      listener = this ∧ key = channelKey sessName peerDevId := by
  have hs : a.step (.registerChannelListener sessName peerDevId (some this)) =
      some (a.registerChannelListener sessName peerDevId (some this)).2 := rfl
  obtain old | ⟨_, _, heq, hkey⟩ := listener_of_step hs hget
  · exact .inl old
  · cases heq
    exact .inr ⟨rfl, hkey⟩

/-- A call on an engine keeps the adapter right. -/
theorem adapter_of_run (kept : PeersKept s) {id : Nat} {e : TransEngine} {o : EngineOp}
    (he : s.engines.get id = some e) (keeps : keepsPeers s (.op id o)) :
    Tracked (e.run (ChannelListener.engine id) s.adapter o).2 ∧
      ThreadsOwn (e.run (ChannelListener.engine id) s.adapter o).2 := by
  have register (sessName peerDevId : String) :
      Tracked (s.adapter.registerChannelListener sessName peerDevId (some (.engine id))).2 ∧
        ThreadsOwn (s.adapter.registerChannelListener sessName peerDevId (some (.engine id))).2 :=
    adapter_of_step (.registerChannelListener sessName peerDevId (some (.engine id)))
      kept.tracked kept.threads trivial trivial rfl
  obtain same | ⟨ch, rfl, registered⟩ | ⟨peerDevId, rest, socket, bind, rfl, opened⟩ |
      ⟨rfl, released, closed⟩ := run_adapter (ChannelListener.engine id) e s.adapter o
  · rw [same]
    exact ⟨kept.tracked, kept.threads⟩
  · rw [registered]
    exact register _ _
  · obtain registered | ⟨named, opened⟩ := opened
    · rw [registered]
      exact register _ _
    · rw [opened]
      obtain ⟨tracked, own⟩ := register e.sessionName peerDevId
      obtain ⟨keepsOpen, dispatchedOpen⟩ := (keeps e he).2.2 named
      exact adapter_of_step _ tracked own keepsOpen dispatchedOpen rfl
  · rw [closed]
    obtain ⟨tracked, own⟩ := adapter_of_step _ kept.tracked kept.threads
      (keeps e he released) trivial rfl
    exact adapter_of_step (.unRegisterChannelListener e.sessionName e.peerDevId)
      tracked own trivial trivial rfl

/-- A call registers its engine only, for the peer to which it is then bound. -/
theorem listener_of_run {id : Nat} {e : TransEngine} {o : EngineOp} {key : String}
    {listener : ChannelListener}
    (hget : (e.run (ChannelListener.engine id) s.adapter o).2.listenerMap.get key =
      some (some listener)) :
    s.adapter.listenerMap.get key = some (some listener) ∨
      listener = .engine id ∧
        key = channelKey (e.run (ChannelListener.engine id) s.adapter o).1.sessionName
          (e.run (ChannelListener.engine id) s.adapter o).1.peerDevId := by
  obtain same | ⟨ch, rfl, registered⟩ | ⟨peerDevId, rest, socket, bind, rfl, opened⟩ |
      ⟨rfl, released, closed⟩ :=
    run_adapter (ChannelListener.engine id) e s.adapter o
  · rw [same] at hget
    exact .inl hget
  · rw [registered] at hget
    have binding := (e.initializeEngine_spec (.engine id) ch s.adapter).1
    refine (listener_of_register hget).imp_right ?_
    rintro ⟨rfl, rfl⟩
    refine ⟨rfl, ?_⟩
    simp only [TransEngine.run]
    rw [binding.sessionName, binding.peerDevId]
  · have bound : (e.run (ChannelListener.engine id) s.adapter
        (.createControlChannel (peerDevId :: rest) socket bind)).1 = { e with peerDevId } := by
      obtain heq | ⟨-, heq⟩ :=
        e.createControlChannel_cons (.engine id) peerDevId rest socket bind s.adapter
      · exact congrArg Prod.fst heq
      · exact congrArg Prod.fst heq
    rw [bound]
    have hget : (s.adapter.registerChannelListener e.sessionName peerDevId
        (some (.engine id))).2.listenerMap.get key = some (some listener) := by
      obtain registered | ⟨-, opened⟩ := opened
      · rwa [registered] at hget
      · rw [opened] at hget
        have hs (a : SoftbusAdapter ChannelListener) :
            a.step (.openSoftbusChannel e.sessionName e.peerSessName peerDevId socket bind) =
              some (a.openSoftbusChannel e.sessionName e.peerSessName peerDevId socket bind).2 :=
          rfl
        obtain old | ⟨_, _, heq, _⟩ := listener_of_step (hs _) hget
        · exact old
        · cases heq
    exact listener_of_register hget
  · rw [closed] at hget
    left
    have unregistered : (s.adapter.closeSoftbusChannel e.sessionName e.peerDevId).2.step
        (.unRegisterChannelListener e.sessionName e.peerDevId) = some _ := rfl
    have closed : s.adapter.step (.closeSoftbusChannel e.sessionName e.peerDevId) = some _ := rfl
    obtain old | ⟨_, _, heq, _⟩ := listener_of_step unregistered hget
    · obtain old | ⟨_, _, heq, _⟩ := listener_of_step closed old
      · exact old
      · cases heq
    · cases heq

theorem PeersKept.op (kept : PeersKept s) {id : Nat} {o : EngineOp}
    (keeps : keepsPeers s (.op id o)) (hs : s.step (.op id o) = some t) : PeersKept t := by
  obtain ⟨e, he, adapter, engines⟩ := engines_of_op hs
  obtain ⟨tracked, threads⟩ := adapter_of_run kept he keeps
  -- The engine keeps its key, or has none and is bound to a device.
  have binding : SameBinding e (e.run (ChannelListener.engine id) s.adapter o).1 ∨
      s.Unregistered id ∧ IsDevice (e.run (ChannelListener.engine id) s.adapter o).1.peerDevId := by
    obtain same | ⟨peerDevId, rest, socket, bind, rfl, heq⟩ :=
      run_binding (ChannelListener.engine id) e s.adapter o
    · exact .inl same
    · obtain ⟨device, rfl | unregistered, -⟩ := keeps e he
      · left
        rw [heq]
        exact .refl e
      · right
        rw [heq]
        exact ⟨unregistered, device⟩
  constructor
  case tracked =>
    rw [adapter]
    exact tracked
  case threads =>
    rw [adapter]
    exact threads
  case devices =>
    intro id' e' he'
    rw [engines] at he'
    split at he'
    case isTrue =>
      obtain rfl := Option.some.inj he'
      obtain same | ⟨-, device⟩ := binding
      · rw [same.peerDevId]
        exact kept.devices id e he
      · exact device
    case isFalse => exact kept.devices id' e' he'
  case registered =>
    intro key id' hget
    rw [adapter] at hget
    obtain old | ⟨heq, hkey⟩ := listener_of_run hget
    · obtain ⟨e', he', hkey⟩ := kept.registered key id' old
      by_cases same : id' = id
      · subst same
        obtain rfl := Option.some.inj (he.symm.trans he')
        obtain binding | ⟨unregistered, -⟩ := binding
        · refine ⟨_, (engines id').trans (if_pos rfl), ?_⟩
          rw [binding.sessionName, binding.peerDevId]
          exact hkey
        · exact absurd old (unregistered key ((Store.mem_keys_iff _ _).mpr ⟨_, old⟩))
      · exact ⟨e', (engines id').trans ((if_neg same).trans he'), hkey⟩
    · cases heq
      exact ⟨_, (engines id).trans (if_pos rfl), hkey⟩

theorem PeersKept.adapter (kept : PeersKept s) {a : AdapterAct ChannelListener}
    (keeps : keepsPeers s (.adapter a)) (hs : s.step (.adapter a) = some t) : PeersKept t := by
  obtain ⟨others, hadapter, hengines⟩ := engines_of_adapter hs
  obtain ⟨tracked, threads⟩ :=
    adapter_of_step a kept.tracked kept.threads keeps.1 keeps.2.1 hadapter
  -- An event leaves every engine where it was bound.
  have bound (id : Nat) (e : TransEngine) (he : s.engines.get id = some e) :
      ∃ e', t.engines.get id = some e' ∧ SameBinding e e' := by
    obtain same | ⟨_, thread, id', -, -, -, modified⟩ := hengines
    · exact ⟨e, (same id).trans he, .refl e⟩
    · by_cases heq : id = id'
      · subst heq
        refine ⟨_, (modified id).trans ?_, e.onChannelEvent_keeps thread.event⟩
        rw [if_pos rfl, he, Option.map_some]
      · exact ⟨e, (modified id).trans ((if_neg heq).trans he), .refl e⟩
  have engineBefore (id : Nat) (e' : TransEngine) (he' : t.engines.get id = some e') :
      ∃ e, s.engines.get id = some e := by
    obtain same | ⟨_, _, id', -, -, -, modified⟩ := hengines
    · exact ⟨e', (same id).symm.trans he'⟩
    · rw [modified] at he'
      split at he'
      case isTrue heq =>
        obtain ⟨e, he, -⟩ := Option.map_eq_some_iff.mp he'
        exact ⟨e, heq ▸ he⟩
      case isFalse => exact ⟨e', he'⟩
  refine ⟨tracked, threads, ?_, ?_⟩
  · intro id e' he'
    obtain ⟨e, he⟩ := engineBefore id e' he'
    obtain ⟨e'', he'', binding⟩ := bound id e he
    obtain rfl := Option.some.inj (he'.symm.trans he'')
    rw [binding.peerDevId]
    exact kept.devices id e he
  · intro key id hget
    obtain old | ⟨_, _, rfl, -⟩ := listener_of_step hadapter hget
    · obtain ⟨e, he, hkey⟩ := kept.registered key id old
      obtain ⟨e', he', binding⟩ := bound id e he
      refine ⟨e', he', ?_⟩
      rw [binding.sessionName, binding.peerDevId]
      exact hkey
    · exact absurd others Bool.false_ne_true

theorem PeersKept.step (kept : PeersKept s) {a : EnginesAct} (keeps : keepsPeers s a)
    (hs : s.step a = some t) : PeersKept t := by
  cases a with
  | create id kind ownerName peerDevId =>
      simp only [EnginesState.step] at hs
      split at hs
      case isTrue => cases hs
      case isFalse unused =>
        obtain rfl := Option.some.inj hs
        have fresh : s.engines.get id = none := by simpa using unused
        refine ⟨kept.tracked, kept.threads, ?_, ?_⟩
        · intro id' e he
          rw [Store.get_set] at he
          split at he
          case isTrue =>
            obtain rfl := Option.some.inj he
            exact keeps
          case isFalse => exact kept.devices id' e he
        · intro key id' hget
          obtain ⟨e, he, hkey⟩ := kept.registered key id' hget
          refine ⟨e, ?_, hkey⟩
          rw [Store.get_set, if_neg]
          · exact he
          · rintro rfl
            exact absurd (fresh.symm.trans he) (by simp)
  | op id o => exact kept.op keeps hs
  | adapter a => exact kept.adapter keeps hs

/-- An event changes only engines of its peers. -/
theorem PeersKept.isolated (kept : PeersKept s) {a : EnginesAct} (hs : s.step a = some t) :
    s.Isolated a t := by
  rintro a' rfl id e he changed
  obtain ⟨-, -, same | ⟨index, thread, id', rfl, hthread, hget, modified⟩⟩ :=
    engines_of_adapter hs
  · exact absurd ((same id).trans he) changed
  · by_cases heq : id = id'
    · subst heq
      obtain ⟨e', he', -, origin⟩ := kept.calledBy (List.mem_of_getElem? hthread) hget
      obtain rfl := Option.some.inj (he.symm.trans he')
      exact ⟨index, thread, rfl, hthread, origin⟩
    · exact absurd ((modified id).trans ((if_neg heq).trans he)) changed

/-- An event that is no channel event, or comes to an engine without a callback, changes
nothing. -/
theorem onChannelEvent_of_other {e : TransEngine} {event : AVTransEvent}
    (other : e.callback = true → event.type ≠ .channelOpened ∧ event.type ≠ .channelOpenFail ∧
      event.type ≠ .channelClosed) : e.onChannelEvent event = e := by
  unfold TransEngine.onChannelEvent
  cases hcallback : e.callback with
  | false => simp
  | true =>
      obtain ⟨notOpened, notFailed, notClosed⟩ := other hcallback
      rw [if_neg (by simp)]
      split
      · exact absurd ‹_› notOpened
      · exact absurd ‹_› notFailed
      · exact absurd ‹_› notClosed
      · rfl
      · rfl

/-- A step that does not end the streaming of an engine leaves it enabled. -/
theorem PeersKept.enabled (kept : PeersKept s) {a : EnginesAct} (keeps : keepsPeers s a)
    (hs : s.step a = some t) {id : Nat} (goesOn : ¬ s.Ends id a) (enabled : s.Enabled id) :
    t.Enabled id := by
  obtain ⟨e, he, streaming⟩ := enabled
  cases a with
  | create id' kind ownerName peerDevId =>
      simp only [EnginesState.step] at hs
      split at hs
      case isTrue => cases hs
      case isFalse unused =>
        obtain rfl := Option.some.inj hs
        refine ⟨e, ?_, streaming⟩
        rw [Store.get_set, if_neg]
        · exact he
        · rintro rfl
          exact unused (Option.isSome_iff_exists.mpr ⟨e, he⟩)
  | op id' o =>
      obtain ⟨e', he', -, engines⟩ := engines_of_op hs
      by_cases same : id = id'
      · subst same
        obtain rfl := Option.some.inj (he.symm.trans he')
        refine ⟨_, (engines id).trans (if_pos rfl), ?_⟩
        obtain still | ⟨stopped, rfl⟩ | rfl | ⟨ch, rfl, anew⟩ :=
          enabled_run (ChannelListener.engine id) s.adapter streaming o
        · exact still
        · exact absurd rfl goesOn
        · exact absurd rfl goesOn
        · exact absurd streaming (keeps e he anew)
      · exact ⟨e, (engines id).trans ((if_neg same).trans he), streaming⟩
  | adapter a =>
      obtain ⟨-, -, same | ⟨index, thread, id', rfl, hthread, hget, modified⟩⟩ :=
        engines_of_adapter hs
      · exact ⟨e, (same id).trans he, streaming⟩
      · by_cases heq : id = id'
        · subst heq
          obtain ⟨e', he', hkey, origin⟩ := kept.calledBy (List.mem_of_getElem? hthread) hget
          obtain rfl := Option.some.inj (he.symm.trans he')
          have called : s.calledBy thread = some e := by
            rw [EnginesState.calledBy, hget]
            exact he
          have unchanged : e.onChannelEvent thread.event = e := by
            apply onChannelEvent_of_other
            intro callback
            obtain ⟨notOpened, notFailed⟩ :=
              keeps.2.2 thread hthread e called origin streaming callback
            refine ⟨notOpened, notFailed, ?_⟩
            intro closed
            exact goesOn ⟨thread, hthread, e, he, closed, hkey, origin⟩
          refine ⟨e, (modified id).trans ?_, streaming⟩
          rw [if_pos rfl, he, Option.map_some, unchanged]
        · exact ⟨e, (modified id).trans ((if_neg heq).trans he), streaming⟩

theorem PeersKept.of_run {acts : List EnginesAct}
    (run : enginesSystem.Run keepsPeers acts s) : PeersKept s := by
  refine run.invariant (I := fun _ => PeersKept) ?_ ?_
  · rintro _ rfl
    constructor
    · rintro key sessionId ⟨⟩
    · rintro thread ⟨⟩
    · rintro id e ⟨⟩
    · rintro key id ⟨⟩
  · exact fun _ _ _ _ _ kept keeps hs => kept.step keeps hs

end Kept

/-- In every run that meets the conditions an event changes only engines of its peer, and
an engine that streams goes on until it is stopped or released or its own channel closes. -/
theorem run_peersIsolated {acts : List EnginesAct} {s : EnginesState}
    (run : enginesSystem.Run keepsPeers acts s) :
    (∀ a t, s.step a = some t → s.Isolated a t) ∧
      ∀ id acts' t, enginesSystem.Path (fun s a => keepsPeers s a ∧ ¬ s.Ends id a) s acts' t →
        s.Enabled id → t.Enabled id := by
  have kept := PeersKept.of_run run
  constructor
  · exact fun a t hs => kept.isolated hs
  · intro id acts' t path enabled
    have both : PeersKept t ∧ t.Enabled id := by
      refine path.invariant (I := fun s => PeersKept s ∧ s.Enabled id) ?_ run.reachable
        ⟨kept, enabled⟩
      rintro s a t - ⟨kept, enabled⟩ ⟨keeps, goesOn⟩ hs
      exact ⟨kept.step keeps hs, kept.enabled keeps hs goesOn enabled⟩
    exact both.2

section Example

def speakerSenderSession : String := ownerNameDSpeaker ++ "_" ++ senderControlSessionNameSuffix

/-- A microphone's sender, and a receiver that waits for another peer. -/
def twoEngines : List EnginesAct :=
  [.create 0 .sender ownerNameDMic "deviceA", .create 1 .receiver ownerNameDSpeaker "deviceB",
    .op 0 (.initializeEngine {}), .op 0 (.registerCallback true),
    .op 1 (.initializeEngine {}), .op 1 (.registerCallback true)]

/-- The sender streams while the receiver's channel opens and closes. -/
theorem run_peersIsolated_twoEngines : ∃ t : EnginesState, t.Enabled 0 ∧
    ∃ e ∈ t.engines.get 1, e.currentState = .initialized := by
  have started : ∃ s ∈ enginesSystem.replay keepsPeers {} (twoEngines ++
      [.adapter (.onSoftbusChannelOpened micReceiverSession 1 "deviceA" 0),
        .adapter (.sendChannelEvent 0), .op 0 (.start true true)]),
      s.Enabled 0 ∧ ∃ t ∈ enginesSystem.replay (fun s a => keepsPeers s a ∧ ¬ s.Ends 0 a) s
        [.adapter (.onSoftbusChannelOpened speakerSenderSession 2 "deviceB" 0),
          .adapter (.sendChannelEvent 0), .adapter (.onSoftbusChannelClosed 2),
          .adapter (.sendChannelEvent 0)],
        ∃ e ∈ t.engines.get 1, e.currentState = .initialized := by
    decide +kernel
  obtain ⟨s, hs, enabled, t, ht, closed⟩ := started
  have run := TransitionSystem.run_of_replay rfl hs
  exact ⟨t, (run_peersIsolated run).2 0 _ t (TransitionSystem.path_of_replay ht) enabled, closed⟩

/-- Two senders of one owner: the channel of the second peer opens, and the first, which
streams to another peer, cannot push data any more. -/
theorem exists_stream_cut_by_other_peer : ∃ s t a, enginesSystem.Reachable s ∧
    s.step a = some t ∧ ¬ s.Isolated a t ∧ s.Enabled 0 ∧ ¬ s.Ends 0 a ∧ ¬ t.Enabled 0 := by
  have cut : ∃ s ∈ enginesSystem.replay (fun _ _ => True) {}
      [.create 0 .sender ownerNameDMic "deviceA", .create 1 .sender ownerNameDMic "deviceB",
        .op 0 (.initializeEngine {}), .op 0 (.registerCallback true),
        .op 0 (.setEngineReady true true), .op 0 (.start true true),
        .op 1 (.initializeEngine {}),
        .adapter (.onSoftbusChannelOpened micReceiverSession 1 "deviceB" 0)],
      s.Enabled 0 ∧ ¬ s.Ends 0 (.adapter (.sendChannelEvent 1)) ∧
        (∃ e ∈ s.engines.get 0, e.peerDevId = "deviceA") ∧
        (∃ thread ∈ s.adapter.threads[1]?, thread.origins = ["deviceB"]) ∧
        ∃ t ∈ s.step (.adapter (.sendChannelEvent 1)), ¬ t.Enabled 0 := by
    decide +kernel
  obtain ⟨s, hs, enabled, goesOn, ⟨e, he, bound⟩, ⟨thread, hthread, origins⟩, t, ht, disabled⟩ :=
    cut
  refine ⟨s, t, _, (TransitionSystem.run_of_replay rfl hs).reachable, ht, ?_, enabled, goesOn,
    disabled⟩
  intro isolated
  have changed : t.engines.get 0 ≠ some e := by
    intro same
    obtain ⟨e', he', streaming⟩ := enabled
    obtain rfl := Option.some.inj (he.symm.trans he')
    exact disabled ⟨e, same, streaming⟩
  obtain ⟨index, thread', heq, hthread', origin⟩ := isolated _ rfl 0 e he changed
  cases heq
  obtain rfl := Option.some.inj (hthread.symm.trans hthread')
  rw [origins, bound] at origin
  exact absurd origin (by decide)

end Example
end DistributedHardware
