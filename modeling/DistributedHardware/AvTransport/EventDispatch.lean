import DistributedHardware.AvTransport.SessionMap

/-!
To which keys the adapter's events go, and who is called for a key.

A thread carries the key of a listener and the event. It is on its way to a key of the
event's own session where the session map is right and where an open event finds its
session name in the session's own keys only.
-/

namespace DistributedHardware

/-- The session name of an open event is found in no listener's key but the session's own. -/
def dispatchesOwn {L : Type} (s : SoftbusAdapter L) : AdapterAct L → Prop
  | .openSoftbusChannel mySessName _ peerDevId socket bind =>
      bind = true → 0 ≤ socket → s.getSessIdBySessName mySessName peerDevId ≤ 0 →
        ∀ key ∈ s.listenerKeys mySessName, OwnKey mySessName peerDevId key
  | .onSoftbusChannelOpened peerSessionName _ peerDevId _ =>
      let mySessionName := findSessNameByPeerSessName peerSessionName
      mySessionName ≠ "" → peerDevId ≠ "" →
        ∀ key ∈ s.listenerKeys mySessionName, OwnKey mySessionName peerDevId key
  | _ => True

instance {L : Type} (s : SoftbusAdapter L) : ∀ a : AdapterAct L, Decidable (dispatchesOwn s a)
  | .openSoftbusChannel .. =>
      inferInstanceAs (Decidable (_ = true → 0 ≤ _ → _ ≤ 0 → ∀ key ∈ _, OwnKey _ _ key))
  | .onSoftbusChannelOpened .. =>
      inferInstanceAs (Decidable (_ ≠ "" → _ ≠ "" → ∀ key ∈ _, OwnKey _ _ key))
  | .createChannelServer .. | .removeChannelServer .. | .closeSoftbusChannel ..
  | .registerChannelListener .. | .unRegisterChannelListener .. | .startDeviceTimeSync ..
  | .stopDeviceTimeSync .. | .onSoftbusChannelClosed .. | .onSoftbusBytesReceived ..
  | .onSoftbusStreamReceived .. | .onSoftbusTimeSyncResult .. | .sendChannelEvent .. =>
      inferInstanceAs (Decidable True)

/-- Every thread is on its way to a key of its event's session. -/
def ThreadsOwn {L : Type} (s : SoftbusAdapter L) : Prop :=
  ∀ thread ∈ s.threads, ∃ sessName, ∃ peerDevId ∈ thread.origins,
    OwnKey sessName peerDevId thread.sessName

section Threads
variable {L : Type} {s t : SoftbusAdapter L}

theorem ThreadsOwn.append (own : ThreadsOwn s) {threads : List ChannelEventThread}
    (heq : t.threads = s.threads ++ threads)
    (new : ∀ thread ∈ threads, ∃ sessName, ∃ peerDevId ∈ thread.origins,
      OwnKey sessName peerDevId thread.sessName) : ThreadsOwn t := by
  intro thread mem
  rw [heq, List.mem_append] at mem
  exact mem.elim (own thread) (new thread)

theorem ThreadsOwn.of_same (own : ThreadsOwn s) (heq : t.threads = s.threads) : ThreadsOwn t := by
  unfold ThreadsOwn
  rw [heq]
  exact own

/-- The threads of an open event go where the session name is found. -/
theorem sendEvents_own {mySessName : String} {event : AVTransEvent}
    (dispatched : ∀ key ∈ s.listenerKeys mySessName, OwnKey mySessName event.peerDevId key)
    (thread : ChannelEventThread) (mem : thread ∈ s.sendEvents mySessName event) :
    ∃ sessName, ∃ peerDevId ∈ thread.origins, OwnKey sessName peerDevId thread.sessName := by
  obtain ⟨key, hkey, rfl⟩ := List.mem_map.mp mem
  exact ⟨mySessName, event.peerDevId, List.mem_singleton.mpr rfl, dispatched key hkey⟩

/-- The threads for a session go to its entries. -/
theorem sendToSession_own (tracked : Tracked s) {sessionId : Int} {event : String → AVTransEvent}
    (thread : ChannelEventThread) (mem : thread ∈ s.sendToSession sessionId event) :
    ∃ sessName, ∃ peerDevId ∈ thread.origins, OwnKey sessName peerDevId thread.sessName := by
  obtain ⟨key, hkey, rfl⟩ := List.mem_map.mp mem
  obtain ⟨session, isOpen, hid, own⟩ := tracked key sessionId (SoftbusAdapter.mem_keysOf.mp hkey)
  refine ⟨session.sessName, session.peerDevId, ?_, own⟩
  exact List.mem_map_of_mem (List.mem_filter.mpr ⟨isOpen, by simpa using hid⟩)

theorem ThreadsOwn.step (own : ThreadsOwn s) (tracked : Tracked s) {a : AdapterAct L}
    (dispatched : dispatchesOwn s a) (hs : s.step a = some t) : ThreadsOwn t := by
  by_cases writes : a.WritesSessions
  · cases a with
    | removeChannelServer pkgName sessName =>
        cases hs
        obtain heq | ⟨-, heq⟩ := s.removeChannelServer_eq pkgName sessName
        · rw [heq]
          exact own
        · rw [heq]
          exact own.of_same rfl
    | openSoftbusChannel mySessName peerSessName peerDevId socket bind =>
        cases hs
        obtain heq | ⟨⟨bound, valid, absent⟩, heq⟩ :=
          s.openSoftbusChannel_eq mySessName peerSessName peerDevId socket bind
        · rw [heq]
          exact own
        · rw [heq]
          apply own.append rfl
          exact sendEvents_own (dispatched bound valid absent)
    | closeSoftbusChannel sessName peerDevId =>
        cases hs
        obtain heq | ⟨-, heq⟩ := s.closeSoftbusChannel_eq sessName peerDevId
        · rw [heq]
          exact own
        · rw [heq]
          exact own.of_same rfl
    | onSoftbusChannelOpened peerSessionName sessionId peerDevId result =>
        cases hs
        obtain heq | ⟨⟨named, device⟩, heq⟩ :=
          s.onSoftbusChannelOpened_eq peerSessionName peerDevId sessionId result
        · rw [heq]
          exact own
        · rw [heq]
          apply own.append rfl
          exact sendEvents_own (dispatched named device)
    | onSoftbusChannelClosed sessionId =>
        cases hs
        apply own.append rfl
        exact sendToSession_own tracked
    | _ => exact writes.elim
  · intro thread mem
    obtain old | ⟨sessionId, event, new⟩ := (quietStep writes hs).threads thread mem
    · exact own thread old
    · exact sendToSession_own tracked thread new

end Threads

section Listeners
variable {L : Type} {s t : SoftbusAdapter L}

/-- A listener is called only under a key under which it was registered. -/
theorem listener_of_step {a : AdapterAct L} (hs : s.step a = some t) {key : String} {listener : L}
    (hget : t.listenerMap.get key = some (some listener)) :
    s.listenerMap.get key = some (some listener) ∨
      ∃ sessName peerDevId, a = .registerChannelListener sessName peerDevId (some listener) ∧
        key = channelKey sessName peerDevId := by
  by_cases writes : a.WritesSessions
  · left
    cases a with
    | removeChannelServer pkgName sessName =>
        cases hs
        obtain heq | ⟨-, heq⟩ := s.removeChannelServer_eq pkgName sessName
        · rwa [heq] at hget
        · rwa [heq] at hget
    | openSoftbusChannel mySessName peerSessName peerDevId socket bind =>
        cases hs
        obtain heq | ⟨-, heq⟩ :=
          s.openSoftbusChannel_eq mySessName peerSessName peerDevId socket bind
        · rwa [heq] at hget
        · rwa [heq] at hget
    | closeSoftbusChannel sessName peerDevId =>
        cases hs
        obtain heq | ⟨-, heq⟩ := s.closeSoftbusChannel_eq sessName peerDevId
        · rwa [heq] at hget
        · rwa [heq] at hget
    | onSoftbusChannelOpened peerSessionName sessionId peerDevId result =>
        cases hs
        obtain heq | ⟨-, heq⟩ :=
          s.onSoftbusChannelOpened_eq peerSessionName peerDevId sessionId result
        · rwa [heq] at hget
        · rwa [heq] at hget
    | onSoftbusChannelClosed sessionId =>
        cases hs
        exact hget
    | _ => exact writes.elim
  · exact (quietStep writes hs).listeners key listener hget

/-- Outside the threads only the results of a time sync are given to listeners. -/
theorem calls_of_act {a : AdapterAct L} {calls : List (L × AVTransEvent)}
    (noThread : ∀ index, a ≠ .sendChannelEvent index) (hact : s.act a = some (calls, t)) :
    ∀ call ∈ calls, call.2.type = .timeSyncResult := by
  cases a with
  | sendChannelEvent index => exact absurd rfl (noThread index)
  | onSoftbusTimeSyncResult info result =>
      obtain rfl := congrArg Prod.fst (Option.some.inj hact)
      unfold SoftbusAdapter.onSoftbusTimeSyncResult
      split_ifs
      · simp
      · split
        · simp
        · rintro call mem
          obtain ⟨listener, -, rfl⟩ := List.mem_map.mp mem
          rfl
  | _ =>
      cases hact
      simp

/-- A thread that runs is gone, and calls the listener that its key has then. -/
theorem act_sendChannelEvent {index : Nat} {calls : List (L × AVTransEvent)}
    (hact : s.act (.sendChannelEvent index) = some (calls, t)) :
    ∃ thread, s.threads[index]? = some thread ∧
      calls = ((s.listenerMap.get thread.sessName).join.map (·, thread.event)).toList := by
  obtain ⟨thread, hthread, heq⟩ := Option.map_eq_some_iff.mp hact
  obtain rfl := congrArg Prod.fst heq
  refine ⟨thread, hthread, ?_⟩
  obtain ⟨map, heq, -⟩ := SoftbusAdapter.listenerAt_eq
    { s with threads := s.threads.eraseIdx index } thread.sessName
  simp only [SoftbusAdapter.sendChannelEvent, heq]

end Listeners
end DistributedHardware
