import DistributedHardware.AvTransport.ChannelTracking
import DistributedHardware.AvTransport.SyncManager

/-!
The session name under which the control center addresses a peer.

The center keeps one session name, that of the last open event, and uses it for every
peer: for the messages it sends and for the channel that a release closes.
-/

namespace DistributedHardware

def AVTransMessage.marshalMessage (printUnformatted : CJson → Option String)
    (message : AVTransMessage) : String :=
  (printUnformatted (.object [("type", .number message.type.toNat),
    ("content", .string message.content), ("dstDevId", .string message.dstDevId)])).getD ""

/-- What `SendBytesData` is called with. -/
structure BytesRequest where
  sessName : String
  peerDevId : String
  data : String

namespace CenterState
variable (s : CenterState)

/-- `SendMessage`: what it asks of the adapter. A null pointer is `none`. -/
def sendMessage (printUnformatted : CJson → Option String) (message : Option AVTransMessage) :
    Option BytesRequest :=
  message.map (fun message =>
    { sessName := s.sessionName
      peerDevId := message.dstDevId
      data := message.marshalMessage printUnformatted })

/-- The session name and the peer with which `ReleaseAVCenter` calls
`CloseSoftbusChannel`, where it does. -/
def closeRequest (engineId : Int) : Option (String × String) :=
  (s.releasedPeer engineId).map (s.sessionName, ·)

end CenterState

/-- Messages to a peer with an open channel and the close of such a channel go to a
session name under which the peer's channel is open. -/
structure AddressesRight (s : CenterState) : Prop where
  send : ∀ printUnformatted message request,
    s.sendMessage printUnformatted message = some request → s.isOpen request.peerDevId →
      (request.sessName, request.peerDevId) ∈ s.openChannels
  close : ∀ engineId sessName peerDevId,
    s.closeRequest engineId = some (sessName, peerDevId) → s.isOpen peerDevId →
      (sessName, peerDevId) ∈ s.openChannels

/-- Every other peer with an open channel has one under the session name that opens. A
channel that closes under the noted session name was the last of its peer. -/
def keepsAddresses (s : CenterState) (call : CenterCall × CenterChoice) : Prop :=
  match call.1 with
  | .channelEvent event =>
      match event.type with
      | .channelOpened =>
          ∀ peerDevId, s.isOpen peerDevId → peerDevId ≠ event.peerDevId →
            (event.content, peerDevId) ∈ s.openChannels
      | .channelClosed =>
          event.content = s.sessionName →
            ∀ sessName, (sessName, event.peerDevId) ∈ s.openChannels → sessName = s.sessionName
      | _ => True
  | .releaseAVCenter engineId =>
      ∀ name peerDevId, s.closeRequest engineId = some (name, peerDevId) →
        name ≠ "" → peerDevId ≠ "" →
          ∀ sessName, (sessName, peerDevId) ∈ s.openChannels → sessName = s.sessionName
  | _ => True

section Addresses
variable {s : CenterState}

theorem openChannels_closeSoftbusChannel (sessName peerDevId : String) :
    (s.closeSoftbusChannel sessName peerDevId).openChannels =
      if sessName = "" ∨ peerDevId = "" then s.openChannels
      else s.openChannels.erase (sessName, peerDevId) := by
  unfold CenterState.closeSoftbusChannel
  simp only [Bool.or_eq_true, decide_eq_true_eq]
  split <;> rfl

/-- What a release closes is what it asks the adapter to close. -/
theorem openChannels_releaseAVCenter (ch : CenterChoice) (engineId : Int) :
    (s.releaseAVCenter ch engineId).2.openChannels =
      match s.closeRequest engineId with
      | some (sessName, peerDevId) => (s.closeSoftbusChannel sessName peerDevId).openChannels
      | none => s.openChannels := by
  unfold CenterState.closeRequest
  cases hreleased : s.releasedPeer engineId with
  | none =>
      obtain ⟨heq, -⟩ | heq := CenterState.releaseAVCenter_of_none ch hreleased
      · rw [heq]
        rfl
      · rw [heq]
        rfl
  | some peerDevId =>
      rw [(CenterState.releaseAVCenter_of_some ch hreleased).1]
      obtain ⟨names, heq⟩ := (s.forgetEngine engineId).releasePeer_eq ch peerDevId
      rw [heq]
      simp only [Option.map_some, openChannels_closeSoftbusChannel]
      rfl

theorem sessionName_releaseAVCenter (ch : CenterChoice) (engineId : Int) :
    (s.releaseAVCenter ch engineId).2.sessionName = s.sessionName := by
  obtain ⟨_, _, _, _, _, _, _, heq⟩ := s.releaseAVCenter_eq ch engineId
  rw [heq]

/-- Any message may be sent, so every peer with an open channel has one under the noted
session name. -/
theorem addressesRight_iff :
    AddressesRight s ↔ ∀ peerDevId, s.isOpen peerDevId →
      (s.sessionName, peerDevId) ∈ s.openChannels := by
  constructor
  · intro right peerDevId hopen
    exact right.send (fun _ => none) (some { type := 0, content := "", dstDevId := peerDevId })
      _ rfl hopen
  · intro noted
    constructor
    case send =>
      intro printUnformatted message request hrequest hopen
      obtain ⟨message, -, rfl⟩ := Option.map_eq_some_iff.mp hrequest
      exact noted _ hopen
    case close =>
      intro engineId sessName peerDevId hrequest hopen
      obtain ⟨peer, -, heq⟩ := Option.map_eq_some_iff.mp hrequest
      cases heq
      exact noted _ hopen

/-- One channel closes: only its peer's address can be lost. -/
theorem noted_erase_iff {name peer : String}
    (noted : ∀ peerDevId, s.isOpen peerDevId → (s.sessionName, peerDevId) ∈ s.openChannels) :
    (∀ peerDevId, (∃ sessName, (sessName, peerDevId) ∈ s.openChannels.erase (name, peer)) →
      (s.sessionName, peerDevId) ∈ s.openChannels.erase (name, peer)) ↔
    (name = s.sessionName →
      ∀ sessName, (sessName, peer) ∈ s.openChannels → sessName = s.sessionName) := by
  constructor
  · rintro kept rfl sessName hopen
    by_contra hne
    have other : (sessName, peer) ∈ s.openChannels.erase (s.sessionName, peer) :=
      Finset.mem_erase.mpr ⟨fun heq => hne (Prod.mk.inj heq).1, hopen⟩
    exact Finset.notMem_erase _ _ (kept peer ⟨sessName, other⟩)
  · rintro last peerDevId ⟨sessName, hopen⟩
    obtain ⟨hne, still⟩ := Finset.mem_erase.mp hopen
    refine Finset.mem_erase.mpr ⟨?_, noted peerDevId ⟨sessName, still⟩⟩
    intro heq
    obtain ⟨rfl, rfl⟩ := Prod.mk.inj heq
    exact hne (Prod.ext (last rfl sessName still) rfl)

theorem addressesRight_of_same {t : CenterState} (right : AddressesRight s)
    (sessionName : t.sessionName = s.sessionName) (openChannels : t.openChannels = s.openChannels) :
    AddressesRight t := by
  rw [addressesRight_iff] at right ⊢
  intro peerDevId hopen
  rw [CenterState.isOpen, openChannels] at hopen
  rw [sessionName, openChannels]
  exact right peerDevId hopen

theorem addressesRight_opened_iff (ch : CenterChoice) {event : AVTransEvent}
    (htype : event.type = .channelOpened) :
    AddressesRight ((s.onChannelEvent ch event).noteEvent event) ↔
      ∀ peerDevId, s.isOpen peerDevId → peerDevId ≠ event.peerDevId →
        (event.content, peerDevId) ∈ s.openChannels := by
  obtain ⟨names, heq⟩ := onChannelEvent_opened (s := s) ch htype
  rw [heq, addressesRight_iff]
  simp only [CenterState.isOpen, Finset.mem_insert, Prod.mk.injEq]
  constructor
  · rintro noted peerDevId ⟨sessName, hopen⟩ hne
    obtain ⟨-, hpeer⟩ | hother := noted peerDevId ⟨sessName, .inr hopen⟩
    · exact absurd hpeer hne
    · exact hother
  · rintro others peerDevId ⟨sessName, ⟨-, rfl⟩ | hopen⟩
    · exact .inl ⟨trivial, rfl⟩
    · by_cases hpeer : peerDevId = event.peerDevId
      · exact .inl ⟨trivial, hpeer⟩
      · exact .inr (others peerDevId ⟨sessName, hopen⟩ hpeer)

theorem addressesRight_closed_iff (right : AddressesRight s) (ch : CenterChoice)
    {event : AVTransEvent} (htype : event.type = .channelClosed) :
    AddressesRight ((s.onChannelEvent ch event).noteEvent event) ↔
      (event.content = s.sessionName →
        ∀ sessName, (sessName, event.peerDevId) ∈ s.openChannels → sessName = s.sessionName) := by
  have heq : (s.onChannelEvent ch event).noteEvent event =
      { s with openChannels := s.openChannels.erase (event.content, event.peerDevId) } := by
    simp only [CenterState.onChannelEvent, CenterState.handleChannelEvent, CenterState.noteEvent,
      htype]
  rw [heq, addressesRight_iff]
  exact noted_erase_iff (addressesRight_iff.mp right)

theorem addressesRight_releaseAVCenter_iff (right : AddressesRight s) (ch : CenterChoice)
    (engineId : Int) :
    AddressesRight (s.releaseAVCenter ch engineId).2 ↔
      ∀ name peerDevId, s.closeRequest engineId = some (name, peerDevId) →
        name ≠ "" → peerDevId ≠ "" →
          ∀ sessName, (sessName, peerDevId) ∈ s.openChannels → sessName = s.sessionName := by
  have sessionName := sessionName_releaseAVCenter (s := s) ch engineId
  have openChannels := openChannels_releaseAVCenter (s := s) ch engineId
  cases hrequest : s.closeRequest engineId with
  | none =>
      rw [hrequest] at openChannels
      exact iff_of_true (addressesRight_of_same right sessionName openChannels)
        (fun _ _ hnone => nomatch hnone)
  | some request =>
      obtain ⟨name, peer⟩ := request
      obtain ⟨_, -, heq⟩ := Option.map_eq_some_iff.mp hrequest
      obtain ⟨rfl, rfl⟩ := Prod.mk.inj heq
      rw [hrequest] at openChannels
      simp only [openChannels_closeSoftbusChannel] at openChannels
      split at openChannels
      case isTrue hempty =>
        refine iff_of_true (addressesRight_of_same right sessionName openChannels) ?_
        rintro _ _ ⟨⟩ hname hpeer
        exact absurd hempty (not_or.mpr ⟨hname, hpeer⟩)
      case isFalse hnonempty =>
        obtain ⟨hname, hpeer⟩ := not_or.mp hnonempty
        rw [addressesRight_iff, sessionName]
        simp only [CenterState.isOpen, openChannels]
        rw [noted_erase_iff (addressesRight_iff.mp right)]
        constructor
        · rintro last _ _ ⟨⟩ - -
          exact last rfl
        · exact fun last _ => last _ _ rfl hname hpeer

end Addresses

/-- A call keeps the addresses right exactly under its condition. -/
theorem addressesRight_centerStep_iff {s : CenterState} (right : AddressesRight s)
    (call : CenterCall × CenterChoice) :
    AddressesRight (centerStep s call) ↔ keepsAddresses s call := by
  obtain ⟨call, ch⟩ := call
  cases call with
  | initializeAVCenter transRole =>
      obtain ⟨_, _, _, _, _, _, heq, -⟩ := s.initializeAVCenter_cases ch transRole
      refine iff_of_true ?_ trivial
      simp only [centerStep, heq]
      exact addressesRight_of_same right rfl rfl
  | releaseAVCenter engineId => exact addressesRight_releaseAVCenter_iff right ch engineId
  | createControlChannel engineId peerDevId =>
      obtain ⟨listeners, peers, heq⟩ := s.createControlChannel_eq ch peerDevId engineId
      refine iff_of_true ?_ trivial
      simp only [centerStep, heq]
      exact addressesRight_of_same right rfl rfl
  | registerCtlCenterCallback engineId callback =>
      obtain ⟨callbacks, heq⟩ := s.registerCtlCenterCallback_eq engineId callback
      refine iff_of_true ?_ trivial
      simp only [centerStep, heq]
      exact addressesRight_of_same right rfl rfl
  | channelEvent event =>
      simp only [centerStep, keepsAddresses]
      cases htype : event.type with
      | channelOpened => exact addressesRight_opened_iff ch htype
      | channelClosed => exact addressesRight_closed_iff right ch htype
      | channelOpenFail | dataReceived | timeSyncResult | other =>
          refine iff_of_true ?_ trivial
          simp only [CenterState.onChannelEvent, CenterState.handleChannelEvent,
            CenterState.noteEvent, htype]
          exact right

/-- The addresses are right throughout exactly in the runs whose calls meet the
condition. -/
theorem addressesRight_iff_keepsAddresses {acts : List (CenterCall × CenterChoice)}
    {s : CenterState} :
    centerSystem.RunIn AddressesRight acts s ↔ centerSystem.Run keepsAddresses acts s := by
  apply TransitionSystem.runIn_iff_run
  case initial =>
    rintro _ rfl
    exact addressesRight_iff.mpr (fun _ ⟨_, hopen⟩ => absurd hopen (Finset.notMem_empty _))
  case step_iff =>
    intro s call t _ right hs
    cases hs
    exact addressesRight_centerStep_iff right call

/-- A peer opens a channel to this device after another was opened from here: messages to
the other go to the wrong session, and the release of its engine closes nothing. -/
theorem exists_message_misaddressed :
    ∃ s, centerSystem.Reachable s ∧ s.isOpen "peerA" ∧
      (∀ printUnformatted message request,
        s.sendMessage printUnformatted (some message) = some request →
          (request.sessName, "peerA") ∉ s.openChannels) ∧
      ∃ sessName, s.closeRequest baseEngineId = some (sessName, "peerA") ∧
        (sessName, "peerA") ∉ s.openChannels := by
  have misaddressed : ∃ s ∈ centerSystem.replay (fun _ _ => True) {}
      [(.initializeAVCenter .avSender, {}), (.createControlChannel baseEngineId "peerA", {}),
        (.channelEvent { type := .channelOpened, content := avSyncSenderControlSessionName,
                         peerDevId := "peerA" }, {}),
        (.channelEvent { type := .channelOpened, content := avSyncReceiverControlSessionName,
                         peerDevId := "peerB" }, {})],
      (avSyncSenderControlSessionName, "peerA") ∈ s.openChannels ∧
        (s.sessionName, "peerA") ∉ s.openChannels ∧
        s.closeRequest baseEngineId = some (s.sessionName, "peerA") := by
    decide +kernel
  obtain ⟨s, hs, hopen, wrong, hclose⟩ := misaddressed
  refine ⟨s, (TransitionSystem.run_of_replay rfl hs).reachable, ⟨_, hopen⟩, ?_, _, hclose, wrong⟩
  rintro printUnformatted message request ⟨⟩
  exact wrong

end DistributedHardware
