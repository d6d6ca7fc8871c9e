import DistributedHardware.Library.Separated
import DistributedHardware.AvTransport.SoftbusAdapter

/-!
Which session the adapter's session map has for a session name and a device.

An entry is right while its session is open and was opened for the name and the device of
its key, or for the name alone under the special device. An open event writes entries by
finding its session name in the keys of all listeners, and a shutdown leaves the other
entries of its session behind; an entry goes wrong nowhere else.
-/

namespace DistributedHardware

inductive AdapterAct (L : Type)
  | createChannelServer (pkgName sessName : String) (socket : Int) (listen : Bool)
  | removeChannelServer (pkgName sessName : String)
  | openSoftbusChannel (mySessName peerSessName peerDevId : String) (socket : Int) (bind : Bool)
  | closeSoftbusChannel (sessName peerDevId : String)
  | registerChannelListener (sessName peerDevId : String) (listener : Option L)
  | unRegisterChannelListener (sessName peerDevId : String)
  | startDeviceTimeSync (sessName peerDevId : String) (started : Bool)
  | stopDeviceTimeSync (sessName peerDevId : String) (stopped : Bool)
  | onSoftbusChannelOpened (peerSessionName : String) (sessionId : Int) (peerDevId : String)
      (result : Int)
  | onSoftbusChannelClosed (sessionId : Int)
  | onSoftbusBytesReceived (sessionId : Int) (data : Option String)
  | onSoftbusStreamReceived (sessionId : Int) (data ext : Bool)
  | onSoftbusTimeSyncResult (info : Option (String × Int)) (result : Int)
  /-- One of the detached threads runs. -/
  | sendChannelEvent (index : Nat)

namespace SoftbusAdapter
variable {L : Type}

/-- The events that the call gives to listeners, and what it leaves. -/
def act (s : SoftbusAdapter L) : AdapterAct L → Option (List (L × AVTransEvent) × SoftbusAdapter L)
  | .createChannelServer pkgName sessName socket listen =>
      some ([], (s.createChannelServer pkgName sessName socket listen).2)
  | .removeChannelServer pkgName sessName => some ([], (s.removeChannelServer pkgName sessName).2)
  | .openSoftbusChannel mySessName peerSessName peerDevId socket bind =>
      some ([], (s.openSoftbusChannel mySessName peerSessName peerDevId socket bind).2)
  | .closeSoftbusChannel sessName peerDevId =>
      some ([], (s.closeSoftbusChannel sessName peerDevId).2)
  | .registerChannelListener sessName peerDevId listener =>
      some ([], (s.registerChannelListener sessName peerDevId listener).2)
  | .unRegisterChannelListener sessName peerDevId =>
      some ([], (s.unRegisterChannelListener sessName peerDevId).2)
  | .startDeviceTimeSync sessName peerDevId started =>
      some ([], (s.startDeviceTimeSync sessName peerDevId started).2)
  | .stopDeviceTimeSync sessName peerDevId stopped =>
      some ([], (s.stopDeviceTimeSync sessName peerDevId stopped).2)
  | .onSoftbusChannelOpened peerSessionName sessionId peerDevId result =>
      some ([], (s.onSoftbusChannelOpened peerSessionName sessionId peerDevId result).2)
  | .onSoftbusChannelClosed sessionId => some ([], s.onSoftbusChannelClosed sessionId)
  | .onSoftbusBytesReceived sessionId data => some ([], s.onSoftbusBytesReceived sessionId data)
  | .onSoftbusStreamReceived sessionId data ext =>
      some ([], (s.onSoftbusStreamReceived sessionId data ext).2)
  | .onSoftbusTimeSyncResult info result => some (s.onSoftbusTimeSyncResult info result)
  | .sendChannelEvent index =>
      s.threads[index]?.map (fun thread =>
        let (call, s) := { s with threads := s.threads.eraseIdx index }.sendChannelEvent
          thread.sessName thread.event
        (call.toList, s))

def step (s : SoftbusAdapter L) (a : AdapterAct L) : Option (SoftbusAdapter L) :=
  (s.act a).map Prod.snd

end SoftbusAdapter

def adapterSystem (L : Type) : TransitionSystem (SoftbusAdapter L) (AdapterAct L) where
  init s := s = {}
  step := SoftbusAdapter.step

/-- The key stands for the session name and the device, whose id has no `_`, or for the
name and the special device. -/
def OwnKey (sessName peerDevId key : String) : Prop :=
  '_' ∉ peerDevId.toList ∧ key = channelKey sessName peerDevId ∨
    key = channelKey sessName avTransSpecialDeviceId

instance (sessName peerDevId key : String) : Decidable (OwnKey sessName peerDevId key) :=
  inferInstanceAs (Decidable (_ ∨ _))

/-- The session is open, and was opened for the name and the device; the special device
stands for any. -/
def SoftbusAdapter.OpenedWith {L : Type} (s : SoftbusAdapter L) (sessName peerDevId : String)
    (sessionId : Int) : Prop :=
  ∃ session ∈ s.sessions, session.sessionId = sessionId ∧ session.sessName = sessName ∧
    (session.peerDevId = peerDevId ∨ peerDevId = avTransSpecialDeviceId)

/-- What the map has for a name and a device is an open session of theirs. -/
def SessionMapRight {L : Type} (s : SoftbusAdapter L) : Prop :=
  ∀ sessName peerDevId, '_' ∉ peerDevId.toList →
    s.getSessIdBySessName sessName peerDevId ≠ -1 →
      s.OpenedWith sessName peerDevId (s.getSessIdBySessName sessName peerDevId)

/-- No entry changed but those of the name with the device and with the special one. -/
def ChangesOwnOnly {L : Type} (s t : SoftbusAdapter L) (sessName peerDevId : String) : Prop :=
  ∀ key, key ≠ channelKey sessName peerDevId →
    key ≠ channelKey sessName avTransSpecialDeviceId →
      t.devId2SessIdMap.get key = s.devId2SessIdMap.get key

/-- Every entry that an open event changes is the session's own, and no session that is
shut down has an entry left. -/
def keepsSessions {L : Type} (s : SoftbusAdapter L) : AdapterAct L → Prop
  | .openSoftbusChannel mySessName _ peerDevId socket bind =>
      bind = true → 0 ≤ socket →
        s.devId2SessIdMap.get (channelKey mySessName peerDevId) = none →
          '_' ∉ peerDevId.toList
  | .onSoftbusChannelOpened peerSessionName sessionId peerDevId result =>
      let mySessionName := findSessNameByPeerSessName peerSessionName
      mySessionName ≠ "" → peerDevId ≠ "" →
        ∀ key ∈ s.writtenKeys mySessionName peerDevId,
          s.devId2SessIdMap.get key = some sessionId ∨
            result = 0 ∧ OwnKey mySessionName peerDevId key
  | .closeSoftbusChannel sessName peerDevId =>
      sessName ≠ "" → peerDevId ≠ "" →
        ∀ key ∈ s.devId2SessIdMap.keys, key ≠ channelKey sessName peerDevId →
          s.devId2SessIdMap.get key ≠ some (s.getSessIdBySessName sessName peerDevId)
  | .removeChannelServer pkgName sessName =>
      pkgName ≠ "" → sessName ≠ "" →
        ∀ key ∈ s.devId2SessIdMap.keys,
          some key ≠ SoftbusAdapter.firstKey s.devId2SessIdMap sessName →
            s.devId2SessIdMap.get key ≠
                some (SoftbusAdapter.takeFirst s.serverMap (channelKey pkgName sessName)).1 ∧
              s.devId2SessIdMap.get key ≠
                some (SoftbusAdapter.takeFirst s.devId2SessIdMap sessName).1
  | _ => True

instance {L : Type} (s : SoftbusAdapter L) : ∀ a : AdapterAct L, Decidable (keepsSessions s a)
  | .openSoftbusChannel .. => inferInstanceAs (Decidable (_ = true → 0 ≤ _ → _ = none → ¬ _ ∈ _))
  | .onSoftbusChannelOpened .. =>
      inferInstanceAs (Decidable (_ ≠ "" → _ ≠ "" → ∀ key ∈ _, _ = _ ∨ _ = 0 ∧ OwnKey _ _ key))
  | .closeSoftbusChannel .. =>
      inferInstanceAs (Decidable (_ ≠ "" → _ ≠ "" → ∀ key ∈ _, key ≠ _ → _ ≠ _))
  | .removeChannelServer .. =>
      inferInstanceAs (Decidable (_ ≠ "" → _ ≠ "" → ∀ key ∈ _, some key ≠ _ → _ ≠ _ ∧ _ ≠ _))
  | .createChannelServer .. | .registerChannelListener .. | .unRegisterChannelListener ..
  | .startDeviceTimeSync .. | .stopDeviceTimeSync .. | .onSoftbusChannelClosed ..
  | .onSoftbusBytesReceived .. | .onSoftbusStreamReceived .. | .onSoftbusTimeSyncResult ..
  | .sendChannelEvent .. => inferInstanceAs (Decidable True)

section Keys

theorem toList_channelKey (sessName peerDevId : String) :
    (channelKey sessName peerDevId).toList = sessName.toList ++ ['_'] ++ peerDevId.toList := by
  rw [channelKey, String.toList_append, String.toList_append]
  rfl

/-- A key names one session name and one device. -/
theorem channelKey_inj {sessName sessName' peerDevId peerDevId' : String}
    (plain : '_' ∉ peerDevId.toList) (plain' : '_' ∉ peerDevId'.toList)
    (h : channelKey sessName peerDevId = channelKey sessName' peerDevId') :
    sessName = sessName' ∧ peerDevId = peerDevId' := by
  have lists := congrArg String.toList h
  rw [toList_channelKey, toList_channelKey] at lists
  obtain ⟨first, second⟩ := Separated.parts_unique plain plain' lists
  exact ⟨String.toList_injective first, String.toList_injective second⟩

theorem plain_specialDevice : '_' ∉ avTransSpecialDeviceId.toList := by decide +kernel

/-- The name and the device of a key, where it is a session's own. -/
theorem OwnKey.names {sessName sessName' peerDevId peerDevId' : String}
    (plain : '_' ∉ peerDevId.toList)
    (own : OwnKey sessName' peerDevId' (channelKey sessName peerDevId)) :
    sessName' = sessName ∧ (peerDevId' = peerDevId ∨ peerDevId = avTransSpecialDeviceId) := by
  obtain ⟨plain', heq⟩ | heq := own
  · obtain ⟨rfl, rfl⟩ := channelKey_inj plain plain' heq
    exact ⟨rfl, .inl rfl⟩
  · obtain ⟨rfl, rfl⟩ := channelKey_inj plain plain_specialDevice heq
    exact ⟨rfl, .inr rfl⟩

end Keys

/-- Every entry is under a key of its session's own, and the session is open. -/
def Tracked {L : Type} (s : SoftbusAdapter L) : Prop :=
  ∀ key sessionId, s.devId2SessIdMap.get key = some sessionId →
    ∃ session ∈ s.sessions, session.sessionId = sessionId ∧
      OwnKey session.sessName session.peerDevId key

section Tracking
variable {L : Type} {s t : SoftbusAdapter L}

theorem Tracked.right (tracked : Tracked s) : SessionMapRight s := by
  intro sessName peerDevId plain some_session
  unfold SoftbusAdapter.getSessIdBySessName at some_session ⊢
  cases hget : s.devId2SessIdMap.get (channelKey sessName peerDevId) with
  | none => exact absurd (by rw [hget]; rfl) some_session
  | some sessionId =>
      obtain ⟨session, isOpen, hid, own⟩ := tracked _ _ hget
      obtain ⟨hname, hdevice⟩ := own.names plain
      exact ⟨session, isOpen, hid, hname, hdevice⟩

/-- Entries that stay keep their sessions where these stay open. -/
theorem Tracked.of_entries (tracked : Tracked s)
    (entries : ∀ key sessionId, t.devId2SessIdMap.get key = some sessionId →
      (s.devId2SessIdMap.get key = some sessionId ∧
        ∀ session ∈ s.sessions, session.sessionId = sessionId → session ∈ t.sessions) ∨
      ∃ session ∈ t.sessions, session.sessionId = sessionId ∧
        OwnKey session.sessName session.peerDevId key) : Tracked t := by
  intro key sessionId hget
  obtain ⟨before, stays⟩ | own := entries key sessionId hget
  · obtain ⟨session, isOpen, hid, own⟩ := tracked key sessionId before
    exact ⟨session, stays session isOpen hid, hid, own⟩
  · exact own

theorem Tracked.of_fewer (tracked : Tracked s)
    (entries : ∀ key sessionId, t.devId2SessIdMap.get key = some sessionId →
      s.devId2SessIdMap.get key = some sessionId)
    (sessions : t.sessions = s.sessions) : Tracked t := by
  apply tracked.of_entries
  intro key sessionId hget
  rw [sessions]
  exact .inl ⟨entries key sessionId hget, fun _ isOpen _ => isOpen⟩

theorem Tracked.of_same (tracked : Tracked s) (map : t.devId2SessIdMap = s.devId2SessIdMap)
    (sessions : t.sessions = s.sessions) : Tracked t := by
  unfold Tracked
  rw [map, sessions]
  exact tracked

/-- Where no entry of the session that is shut down is left, the others stay tracked. -/
theorem Tracked.shutdown (tracked : Tracked s) (sessionId : Int)
    (gone : ∀ key, s.devId2SessIdMap.get key ≠ some sessionId) :
    Tracked (s.shutdown sessionId) := by
  apply tracked.of_entries
  intro key sessionId' hget
  refine .inl ⟨hget, ?_⟩
  rintro session isOpen rfl
  rw [SoftbusAdapter.shutdown, List.mem_filter, decide_eq_true_eq]
  refine ⟨isOpen, ?_⟩
  intro same
  exact gone key (same ▸ hget)

theorem Tracked.openSoftbusChannel (tracked : Tracked s)
    {mySessName peerSessName peerDevId : String} {socket : Int} {bind : Bool}
    (keeps : keepsSessions s (.openSoftbusChannel mySessName peerSessName peerDevId socket bind)) :
    Tracked (s.openSoftbusChannel mySessName peerSessName peerDevId socket bind).2 := by
  obtain heq | ⟨⟨bound, valid, -⟩, heq⟩ :=
    s.openSoftbusChannel_eq mySessName peerSessName peerDevId socket bind
  · rw [heq]
    exact tracked
  · rw [heq]
    apply tracked.of_entries
    intro key sessionId hget
    rw [SoftbusAdapter.get_insertSessId] at hget
    split at hget
    case isTrue own =>
      obtain ⟨rfl, absent⟩ := own
      obtain rfl := Option.some.inj hget
      exact .inr ⟨_, List.mem_cons_self, rfl, .inl ⟨keeps bound valid absent, rfl⟩⟩
    case isFalse => exact .inl ⟨hget, fun session isOpen _ => List.mem_cons_of_mem _ isOpen⟩

theorem Tracked.onSoftbusChannelOpened (tracked : Tracked s) {peerSessionName peerDevId : String}
    {sessionId result : Int}
    (keeps : keepsSessions s (.onSoftbusChannelOpened peerSessionName sessionId peerDevId result)) :
    Tracked (s.onSoftbusChannelOpened peerSessionName sessionId peerDevId result).2 := by
  obtain heq | ⟨⟨named, device⟩, heq⟩ :=
    s.onSoftbusChannelOpened_eq peerSessionName peerDevId sessionId result
  · rw [heq]
    exact tracked
  rw [heq]
  apply tracked.of_entries
  have grows (session : SoftbusSession) (isOpen : session ∈ s.sessions) :
      session ∈ if result = 0 then
        { sessName := findSessNameByPeerSessName peerSessionName, peerDevId, sessionId } ::
          s.sessions else s.sessions := by
    split
    · exact List.mem_cons_of_mem _ isOpen
    · exact isOpen
  intro key sessionId' hget
  rw [SoftbusAdapter.get_openedEntries] at hget
  split at hget
  case isTrue written =>
    obtain rfl := Option.some.inj hget
    obtain before | ⟨rfl, own⟩ := keeps named device key written
    · exact .inl ⟨before, fun session isOpen _ => grows session isOpen⟩
    · exact .inr ⟨_, List.mem_cons_self, rfl, own⟩
  case isFalse => exact .inl ⟨hget, fun session isOpen _ => grows session isOpen⟩

theorem Tracked.onSoftbusChannelClosed (tracked : Tracked s) (sessionId : Int) :
    Tracked (s.onSoftbusChannelClosed sessionId) := by
  have entries (key : String) :
      (s.onSoftbusChannelClosed sessionId).devId2SessIdMap.get key =
        if s.devId2SessIdMap.get key = some sessionId then none else s.devId2SessIdMap.get key := by
    simp only [SoftbusAdapter.onSoftbusChannelClosed, Store.get_foldl_erase,
      SoftbusAdapter.mem_keysOf]
  have erased : Tracked { s with
      devId2SessIdMap := (s.onSoftbusChannelClosed sessionId).devId2SessIdMap } := by
    apply tracked.of_fewer
    · intro key sessionId' hget
      rw [entries] at hget
      split at hget
      case isTrue => cases hget
      case isFalse => exact hget
    · rfl
  have shut : Tracked (SoftbusAdapter.shutdown { s with
      devId2SessIdMap := (s.onSoftbusChannelClosed sessionId).devId2SessIdMap } sessionId) := by
    apply erased.shutdown
    intro key hget
    rw [entries] at hget
    split at hget
    case isTrue => cases hget
    case isFalse other => exact other hget
  exact shut.of_same rfl rfl

theorem Tracked.closeSoftbusChannel (tracked : Tracked s) {sessName peerDevId : String}
    (keeps : keepsSessions s (.closeSoftbusChannel sessName peerDevId)) :
    Tracked (s.closeSoftbusChannel sessName peerDevId).2 := by
  obtain heq | ⟨⟨named, device⟩, heq⟩ := s.closeSoftbusChannel_eq sessName peerDevId
  · rw [heq]
    exact tracked
  rw [heq]
  have erased : Tracked { s with
      devId2SessIdMap := s.devId2SessIdMap.erase (channelKey sessName peerDevId) } := by
    apply tracked.of_fewer
    · intro key sessionId hget
      rw [Store.get_erase] at hget
      split at hget
      case isTrue => cases hget
      case isFalse => exact hget
    · rfl
  have shut := erased.shutdown (s.getSessIdBySessName sessName peerDevId) (by
    intro key hget
    rw [Store.get_erase] at hget
    split at hget
    case isTrue => cases hget
    case isFalse other =>
      exact keeps named device key ((Store.mem_keys_iff _ _).mpr ⟨_, hget⟩) other hget)
  exact shut.of_same rfl rfl

theorem Tracked.removeChannelServer (tracked : Tracked s) {pkgName sessName : String}
    (keeps : keepsSessions s (.removeChannelServer pkgName sessName)) :
    Tracked (s.removeChannelServer pkgName sessName).2 := by
  obtain heq | ⟨⟨package, named⟩, heq⟩ := s.removeChannelServer_eq pkgName sessName
  · rw [heq]
    exact tracked
  rw [heq]
  have left {key : String} {sessionId : Int}
      (hget : (SoftbusAdapter.takeFirst s.devId2SessIdMap sessName).2.get key = some sessionId) :
      some key ≠ SoftbusAdapter.firstKey s.devId2SessIdMap sessName ∧
        s.devId2SessIdMap.get key = some sessionId := by
    rw [SoftbusAdapter.get_takeFirst] at hget
    split at hget
    case isTrue => cases hget
    case isFalse other => exact ⟨other, hget⟩
  have kept {key : String} {sessionId : Int}
      (hget : (SoftbusAdapter.takeFirst s.devId2SessIdMap sessName).2.get key = some sessionId) :=
    keeps package named key ((Store.mem_keys_iff _ _).mpr ⟨_, (left hget).2⟩) (left hget).1
  apply Tracked.shutdown
  · apply Tracked.shutdown
    · apply tracked.of_fewer
      · exact fun key sessionId hget => (left hget).2
      · rfl
    · exact fun key hget => (kept hget).1 (left hget).2
  · exact fun key hget => (kept hget).2 (left hget).2

/-- Only these calls write the session map, or open or shut down a session. -/
def AdapterAct.WritesSessions : AdapterAct L → Prop
  | .removeChannelServer .. | .openSoftbusChannel .. | .closeSoftbusChannel ..
  | .onSoftbusChannelOpened .. | .onSoftbusChannelClosed .. => True
  | _ => False

/-- What the other calls do: they leave the entries and the sessions, a new thread is for a
session, and a new listener was registered. -/
structure QuietStep (s : SoftbusAdapter L) (a : AdapterAct L) (t : SoftbusAdapter L) : Prop where
  entries : t.devId2SessIdMap = s.devId2SessIdMap
  sessions : t.sessions = s.sessions
  threads : ∀ thread ∈ t.threads,
    thread ∈ s.threads ∨ ∃ sessionId event, thread ∈ s.sendToSession sessionId event
  listeners : ∀ key listener, t.listenerMap.get key = some (some listener) →
    s.listenerMap.get key = some (some listener) ∨
      ∃ sessName peerDevId, a = .registerChannelListener sessName peerDevId (some listener) ∧
        key = channelKey sessName peerDevId

theorem QuietStep.of_same {a : AdapterAct L} (entries : t.devId2SessIdMap = s.devId2SessIdMap)
    (sessions : t.sessions = s.sessions) (threads : ∀ thread ∈ t.threads, thread ∈ s.threads)
    (listeners : ∀ key, (t.listenerMap.get key).join = (s.listenerMap.get key).join) :
    QuietStep s a t := by
  refine ⟨entries, sessions, fun thread mem => .inl (threads thread mem), ?_⟩
  intro key listener hget
  rw [← Option.join_eq_some_iff, listeners, Option.join_eq_some_iff] at hget
  exact .inl hget

theorem QuietStep.refl (s : SoftbusAdapter L) (a : AdapterAct L) : QuietStep s a s :=
  .of_same rfl rfl (fun _ mem => mem) (fun _ => rfl)

theorem quietStep {a : AdapterAct L} (quiet : ¬ a.WritesSessions) (hs : s.step a = some t) :
    QuietStep s a t := by
  obtain ⟨⟨calls, t⟩, hact, rfl⟩ := Option.map_eq_some_iff.mp hs
  cases a with
  | removeChannelServer | openSoftbusChannel | closeSoftbusChannel | onSoftbusChannelOpened
  | onSoftbusChannelClosed => exact absurd trivial quiet
  | createChannelServer pkgName sessName socket listen =>
      cases hact
      unfold SoftbusAdapter.createChannelServer
      split_ifs <;> exact .of_same rfl rfl (fun _ mem => mem) (fun _ => rfl)
  | registerChannelListener sessName peerDevId listener =>
      cases hact
      unfold SoftbusAdapter.registerChannelListener
      split_ifs
      · exact .refl s _
      · exact .refl s _
      · exact .refl s _
      · refine ⟨rfl, rfl, fun _ mem => .inl mem, ?_⟩
        intro key listener' hget
        simp only [Store.get_set] at hget
        split at hget
        case isTrue same =>
          obtain rfl := Option.some.inj hget
          exact .inr ⟨sessName, peerDevId, rfl, same⟩
        case isFalse => exact .inl hget
  | unRegisterChannelListener sessName peerDevId =>
      cases hact
      unfold SoftbusAdapter.unRegisterChannelListener
      split_ifs
      · exact .refl s _
      · exact .refl s _
      · refine ⟨rfl, rfl, fun _ mem => .inl mem, ?_⟩
        intro key listener hget
        simp only [Store.get_erase] at hget
        split at hget
        case isTrue => cases hget
        case isFalse => exact .inl hget
  | startDeviceTimeSync sessName peerDevId started =>
      cases hact
      unfold SoftbusAdapter.startDeviceTimeSync
      split_ifs <;> exact .of_same rfl rfl (fun _ mem => mem) (fun _ => rfl)
  | stopDeviceTimeSync sessName peerDevId stopped =>
      cases hact
      unfold SoftbusAdapter.stopDeviceTimeSync
      split_ifs <;> exact .of_same rfl rfl (fun _ mem => mem) (fun _ => rfl)
  | onSoftbusBytesReceived sessionId data =>
      cases hact
      unfold SoftbusAdapter.onSoftbusBytesReceived
      split
      · exact .refl s _
      · split_ifs
        · exact .refl s _
        · exact .refl s _
        · refine ⟨rfl, rfl, ?_, fun _ _ hget => .inl hget⟩
          intro thread mem
          exact (List.mem_append.mp mem).imp_right (fun new => ⟨sessionId, _, new⟩)
  | onSoftbusStreamReceived sessionId data ext =>
      cases hact
      unfold SoftbusAdapter.onSoftbusStreamReceived
      split_ifs
      · exact .refl s _
      · exact .refl s _
      · obtain ⟨map, heq, same⟩ :=
          SoftbusAdapter.streamListeners_eq ((s.keysOf sessionId).mergeSort (· ≤ ·)) s
        rw [heq]
        exact .of_same rfl rfl (fun _ mem => mem) same
  | onSoftbusTimeSyncResult info result =>
      obtain rfl := congrArg Prod.snd (Option.some.inj hact)
      unfold SoftbusAdapter.onSoftbusTimeSyncResult
      split_ifs
      · exact .refl s _
      · split
        · exact .refl s _
        · obtain ⟨map, heq, same⟩ :=
            SoftbusAdapter.timeSyncListeners_eq (s.timeSyncSessNames.mergeSort (· ≤ ·)) s
          simp only [heq]
          exact .of_same rfl rfl (fun _ mem => mem) same
  | sendChannelEvent index =>
      obtain ⟨thread, -, heq⟩ := Option.map_eq_some_iff.mp hact
      obtain rfl := congrArg Prod.snd heq
      obtain ⟨map, heq, same⟩ := SoftbusAdapter.listenerAt_eq
        { s with threads := s.threads.eraseIdx index } thread.sessName
      simp only [SoftbusAdapter.sendChannelEvent, heq]
      exact .of_same rfl rfl (fun _ mem => List.mem_of_mem_eraseIdx mem) same

/-- A call that meets the condition keeps the map tracked. -/
theorem Tracked.step (tracked : Tracked s) {a : AdapterAct L} (keeps : keepsSessions s a)
    (hs : s.step a = some t) : Tracked t := by
  by_cases writes : a.WritesSessions
  · cases a with
    | removeChannelServer pkgName sessName =>
        cases hs
        exact tracked.removeChannelServer keeps
    | openSoftbusChannel mySessName peerSessName peerDevId socket bind =>
        cases hs
        exact tracked.openSoftbusChannel keeps
    | closeSoftbusChannel sessName peerDevId =>
        cases hs
        exact tracked.closeSoftbusChannel keeps
    | onSoftbusChannelOpened peerSessionName sessionId peerDevId result =>
        cases hs
        exact tracked.onSoftbusChannelOpened keeps
    | onSoftbusChannelClosed sessionId =>
        cases hs
        exact tracked.onSoftbusChannelClosed sessionId
    | _ => exact writes.elim
  · have quiet := quietStep writes hs
    exact tracked.of_same quiet.entries quiet.sessions

end Tracking

/-- An open event that meets the condition writes its own entries only. -/
theorem changesOwnOnly {L : Type} {s : SoftbusAdapter L} {peerSessionName peerDevId : String}
    {sessionId result : Int}
    (keeps : keepsSessions s (.onSoftbusChannelOpened peerSessionName sessionId peerDevId result)) :
    ChangesOwnOnly s (s.onSoftbusChannelOpened peerSessionName sessionId peerDevId result).2
      (findSessNameByPeerSessName peerSessionName) peerDevId := by
  intro key notOwn notSpecial
  obtain heq | ⟨⟨named, device⟩, heq⟩ :=
    s.onSoftbusChannelOpened_eq peerSessionName peerDevId sessionId result
  · rw [heq]
  rw [heq, SoftbusAdapter.get_openedEntries]
  split
  case isTrue written =>
    obtain before | ⟨-, ⟨-, own⟩ | special⟩ := keeps named device key written
    · exact before.symm
    · exact absurd own notOwn
    · exact absurd special notSpecial
  case isFalse => rfl

/-- In every run whose calls meet the condition the map is right, and an open event changes
no entry but its own. -/
theorem run_sessionMapRight {L : Type} {acts : List (AdapterAct L)} {s : SoftbusAdapter L}
    (run : (adapterSystem L).Run keepsSessions acts s) :
    SessionMapRight s ∧
      ∀ peerSessionName sessionId peerDevId result t,
        keepsSessions s (.onSoftbusChannelOpened peerSessionName sessionId peerDevId result) →
          s.step (.onSoftbusChannelOpened peerSessionName sessionId peerDevId result) = some t →
            ChangesOwnOnly s t (findSessNameByPeerSessName peerSessionName) peerDevId := by
  constructor
  · refine Tracked.right (run.invariant (I := fun _ => Tracked) ?_ ?_)
    · rintro _ rfl key sessionId ⟨⟩
    · exact fun _ _ _ _ _ tracked keeps hs => tracked.step keeps hs
  · rintro peerSessionName sessionId peerDevId result _ keeps ⟨⟩
    exact changesOwnOnly keeps

/-- The control sessions of the two ends of a microphone. -/
def micSenderSession : String := ownerNameDMic ++ "_" ++ senderControlSessionNameSuffix
def micReceiverSession : String := ownerNameDMic ++ "_" ++ receiverControlSessionNameSuffix

/-- Two peers under the listener of the special device. -/
theorem run_sessionMapRight_twoPeers : ∃ s : SoftbusAdapter Unit,
    s.getSessIdBySessName micSenderSession "deviceA" = 1 ∧
      s.getSessIdBySessName micSenderSession "deviceB" = 2 ∧ SessionMapRight s := by
  have twoPeers : ∃ s ∈ (adapterSystem Unit).replay keepsSessions {}
      [.registerChannelListener micSenderSession avTransSpecialDeviceId (some ()),
        .onSoftbusChannelOpened micReceiverSession 1 "deviceA" 0,
        .onSoftbusChannelOpened micReceiverSession 2 "deviceB" 0],
      s.getSessIdBySessName micSenderSession "deviceA" = 1 ∧
        s.getSessIdBySessName micSenderSession "deviceB" = 2 := by
    decide +kernel
  obtain ⟨s, hs, sessionA, sessionB⟩ := twoPeers
  exact ⟨s, sessionA, sessionB,
    (run_sessionMapRight (TransitionSystem.run_of_replay rfl hs)).1⟩

/-- Two engines wait for their peers under one session name: the session of the one becomes
the entry of the other too. -/
theorem exists_session_of_other_device : ∃ s t : SoftbusAdapter Unit,
    (adapterSystem Unit).Reachable s ∧
      findSessNameByPeerSessName micReceiverSession = micSenderSession ∧
      s.step (.onSoftbusChannelOpened micReceiverSession 1 "deviceA" 0) = some t ∧
      ¬ SessionMapRight t ∧ ¬ ChangesOwnOnly s t micSenderSession "deviceA" := by
  have overwritten : ∃ s ∈ (adapterSystem Unit).replay (fun _ _ => True) {}
      [.registerChannelListener micSenderSession "deviceA" (some ()),
        .registerChannelListener micSenderSession "deviceB" (some ())],
      ∃ t ∈ s.step (.onSoftbusChannelOpened micReceiverSession 1 "deviceA" 0),
        t.sessions = [{ sessName := micSenderSession, peerDevId := "deviceA", sessionId := 1 }] ∧
          t.getSessIdBySessName micSenderSession "deviceB" = 1 ∧
          s.getSessIdBySessName micSenderSession "deviceB" = -1 := by
    decide +kernel
  obtain ⟨s, hs, t, ht, sessions, after, before⟩ := overwritten
  refine ⟨s, t, (TransitionSystem.run_of_replay rfl hs).reachable, by decide +kernel, ht, ?_, ?_⟩
  · intro right
    have opened := right micSenderSession "deviceB" (by decide) (by rw [after]; decide)
    rw [after] at opened
    obtain ⟨session, isOpen, -, -, device⟩ := opened
    rw [sessions, List.mem_singleton] at isOpen
    rw [isOpen] at device
    exact absurd device (by decide +kernel)
  · intro ownOnly
    have same := ownOnly (channelKey micSenderSession "deviceB") (by decide +kernel)
      (by decide +kernel)
    have getSess : t.getSessIdBySessName micSenderSession "deviceB" =
        s.getSessIdBySessName micSenderSession "deviceB" := by
      rw [SoftbusAdapter.getSessIdBySessName, same]
      rfl
    rw [after, before] at getSess
    exact absurd getSess (by decide)

end DistributedHardware
