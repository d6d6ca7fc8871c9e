import DistributedHardware.AvTransport.ControlCenter

/-!
The connected peers of the control center against its open channels.

An open event appends its peer whatever the list holds, a close event is only logged,
and a release closes the channel of the session that was opened last.
-/

namespace DistributedHardware

def CenterState.isOpen (s : CenterState) (peerDevId : String) : Prop :=
  ∃ sessName, (sessName, peerDevId) ∈ s.openChannels

/-- The list holds the peers with an open channel, each once; a request is told that
its channel exists only where it is open. -/
structure ChannelsTracked (s : CenterState) : Prop where
  nodup : s.connectedDevIds.Nodup
  exact : ∀ peerDevId, peerDevId ∈ s.connectedDevIds ↔ s.isOpen peerDevId
  alreadyCreated : ∀ ch engineId peerDevId,
    (s.createControlChannel ch engineId peerDevId).1 = errDhAvtChannelAlreadyCreated →
      s.isOpen peerDevId

/-- An open event is about a peer that is not listed, a close event about no channel or
about one of several of its peer, and a release finds its peer's channel under the
session name it has noted. -/
def tracksChannels (s : CenterState) (call : CenterCall × CenterChoice) : Prop :=
  match call.1 with
  | .channelEvent event =>
      match event.type with
      | .channelOpened => event.peerDevId ∉ s.connectedDevIds
      | .channelClosed =>
          (event.content, event.peerDevId) ∈ s.openChannels →
            ∃ c ∈ s.openChannels, c.2 = event.peerDevId ∧ c.1 ≠ event.content
      | _ => True
  | .releaseAVCenter engineId =>
      ∀ peerDevId ∈ s.releasedPeer engineId, ∀ c ∈ s.openChannels, c.2 = peerDevId →
        c.1 = s.sessionName ∧ s.sessionName ≠ "" ∧ peerDevId ≠ ""
  | _ => True

section Tracking
variable {s : CenterState}

theorem mem_connectedDevIds_of_alreadyCreated {ch : CenterChoice} {engineId : Int}
    {peerDevId : String}
    (h : (s.createControlChannel ch engineId peerDevId).1 = errDhAvtChannelAlreadyCreated) :
    peerDevId ∈ s.connectedDevIds := by
  by_contra absent
  unfold CenterState.createControlChannel at h
  rw [if_neg absent] at h
  split at h
  · cases h
  · split at h
    · cases h
    · simp only at h
      split at h
      · cases h
      · cases hopened : ch.opened <;> rw [hopened] at h <;> cases h

/-- What a request is told follows from the list. -/
theorem channelsTracked_iff : ChannelsTracked s ↔
    s.connectedDevIds.Nodup ∧ ∀ peerDevId, peerDevId ∈ s.connectedDevIds ↔ s.isOpen peerDevId := by
  constructor
  · exact fun h => ⟨h.nodup, h.exact⟩
  · rintro ⟨nodup, exact⟩
    exact ⟨nodup, exact, fun ch engineId peerDevId hret =>
      (exact peerDevId).mp (mem_connectedDevIds_of_alreadyCreated hret)⟩

/-- Two states agree on the peers and the channels. -/
structure SameChannels (s t : CenterState) : Prop where
  connectedDevIds : t.connectedDevIds = s.connectedDevIds
  openChannels : t.openChannels = s.openChannels

theorem SameChannels.tracked {t : CenterState} (same : SameChannels s t) (h : ChannelsTracked s) :
    ChannelsTracked t := by
  rw [channelsTracked_iff, same.connectedDevIds]
  refine ⟨h.nodup, fun peerDevId => ?_⟩
  rw [CenterState.isOpen, same.openChannels]
  exact h.exact peerDevId

theorem sameChannels_createControlChannel (ch : CenterChoice) (engineId : Int)
    (peerDevId : String) : SameChannels s (s.createControlChannel ch engineId peerDevId).2 := by
  obtain ⟨listeners, peers, heq⟩ := s.createControlChannel_eq ch peerDevId engineId
  rw [heq]
  exact ⟨rfl, rfl⟩

theorem sameChannels_initializeAVCenter (ch : CenterChoice) (transRole : TransRole) :
    SameChannels s (s.initializeAVCenter ch transRole).2.2 := by
  obtain ⟨_, _, _, _, _, _, heq, -⟩ := s.initializeAVCenter_cases ch transRole
  rw [heq]
  exact ⟨rfl, rfl⟩

theorem sameChannels_registerCtlCenterCallback (engineId : Int) (callback : Option Nat) :
    SameChannels s (s.registerCtlCenterCallback engineId callback).2 := by
  obtain ⟨callbacks, heq⟩ := s.registerCtlCenterCallback_eq engineId callback
  rw [heq]
  exact ⟨rfl, rfl⟩

theorem nodup_opened_iff {peerDevId : String} (nodup : s.connectedDevIds.Nodup) :
    (s.connectedDevIds ++ [peerDevId]).Nodup ↔ peerDevId ∉ s.connectedDevIds := by
  rw [List.nodup_append]
  constructor
  · rintro ⟨-, -, disjoint⟩ hmem
    exact disjoint _ hmem _ (List.mem_singleton_self _) rfl
  · intro habsent
    refine ⟨nodup, List.nodup_singleton _, ?_⟩
    rintro p hp q hq rfl
    rw [List.mem_singleton.mp hq] at hp
    exact habsent hp

theorem onChannelEvent_opened (ch : CenterChoice) {event : AVTransEvent}
    (htype : event.type = .channelOpened) : ∃ names,
      (s.onChannelEvent ch event).noteEvent event =
        { s with
          sessionName := event.content
          connectedDevIds := s.connectedDevIds ++ [event.peerDevId]
          timeSyncSessNames := names
          openChannels := insert (event.content, event.peerDevId) s.openChannels } := by
  obtain ⟨names, hstart⟩ := CenterState.startDeviceTimeSync_eq
    { s with sessionName := event.content } ch event.content event.peerDevId
  simp only [CenterState.onChannelEvent, CenterState.handleChannelEvent, CenterState.noteEvent,
    htype]
  split
  · exact ⟨names, by rw [hstart]⟩
  · exact ⟨s.timeSyncSessNames, rfl⟩

/-- An open event keeps the tracking exactly for a peer that is not listed. -/
theorem channelsTracked_opened_iff (h : ChannelsTracked s) (ch : CenterChoice)
    {event : AVTransEvent} (htype : event.type = .channelOpened) :
    ChannelsTracked ((s.onChannelEvent ch event).noteEvent event) ↔
      event.peerDevId ∉ s.connectedDevIds := by
  obtain ⟨names, heq⟩ := onChannelEvent_opened (s := s) ch htype
  rw [heq, channelsTracked_iff, nodup_opened_iff h.nodup]
  refine and_iff_left (fun peerDevId => ?_)
  simp only [List.mem_append, List.mem_singleton, h.exact, CenterState.isOpen,
    Finset.mem_insert, Prod.mk.injEq]
  constructor
  · rintro (⟨sessName, hopen⟩ | rfl)
    · exact ⟨sessName, .inr hopen⟩
    · exact ⟨event.content, .inl ⟨rfl, rfl⟩⟩
  · rintro ⟨sessName, ⟨-, rfl⟩ | hopen⟩
    · exact .inr rfl
    · exact .inl ⟨sessName, hopen⟩

/-- A close event keeps it exactly where its peer stays open. -/
theorem channelsTracked_closed_iff (h : ChannelsTracked s) (ch : CenterChoice)
    {event : AVTransEvent} (htype : event.type = .channelClosed) :
    ChannelsTracked ((s.onChannelEvent ch event).noteEvent event) ↔
      ((event.content, event.peerDevId) ∈ s.openChannels →
        ∃ c ∈ s.openChannels, c.2 = event.peerDevId ∧ c.1 ≠ event.content) := by
  have heq : (s.onChannelEvent ch event).noteEvent event =
      { s with openChannels := s.openChannels.erase (event.content, event.peerDevId) } := by
    simp only [CenterState.onChannelEvent, CenterState.handleChannelEvent, CenterState.noteEvent,
      htype]
  rw [heq, channelsTracked_iff]
  simp only [h.nodup, true_and, h.exact, CenterState.isOpen, Finset.mem_erase]
  constructor
  · intro exact hopen
    obtain ⟨sessName, hne, hother⟩ := (exact event.peerDevId).mp ⟨event.content, hopen⟩
    exact ⟨(sessName, event.peerDevId), hother, rfl, fun heq => hne (Prod.ext heq rfl)⟩
  · intro other peerDevId
    constructor
    · rintro ⟨sessName, hopen⟩
      by_cases heq : (sessName, peerDevId) = (event.content, event.peerDevId)
      · obtain ⟨rfl, rfl⟩ := Prod.mk.inj heq
        obtain ⟨⟨name, peer⟩, hc, rfl, hne⟩ := other hopen
        exact ⟨name, fun heq => hne (Prod.mk.inj heq).1, hc⟩
      · exact ⟨sessName, heq, hopen⟩
    · rintro ⟨sessName, -, hopen⟩
      exact ⟨sessName, hopen⟩

/-- A release keeps it exactly where it closes every channel of the peer. -/
theorem channelsTracked_releasePeer_iff (h : ChannelsTracked s) (ch : CenterChoice)
    {peerDevId : String} (hmem : peerDevId ∈ s.connectedDevIds) :
    ChannelsTracked (s.releasePeer ch peerDevId) ↔
      ∀ c ∈ s.openChannels, c.2 = peerDevId →
        c.1 = s.sessionName ∧ s.sessionName ≠ "" ∧ peerDevId ≠ "" := by
  obtain ⟨names, heq⟩ := s.releasePeer_eq ch peerDevId
  rw [heq, channelsTracked_iff]
  simp only [h.nodup.erase, true_and, CenterState.isOpen, h.nodup.mem_erase_iff, h.exact]
  by_cases hempty : s.sessionName = "" ∨ peerDevId = ""
  · have same : (s.closeSoftbusChannel s.sessionName peerDevId).openChannels = s.openChannels := by
      simp [CenterState.closeSoftbusChannel, hempty]
    rw [same]
    -- nothing is closed, and the peer has a channel
    obtain ⟨sessName, hopen⟩ := (h.exact peerDevId).mp hmem
    constructor
    · intro exact
      exact absurd rfl ((exact peerDevId).mpr ⟨sessName, hopen⟩).1
    · intro closes
      have hne := (closes _ hopen rfl).2
      exact absurd hempty (not_or.mpr hne)
  · have erased : (s.closeSoftbusChannel s.sessionName peerDevId).openChannels =
        s.openChannels.erase (s.sessionName, peerDevId) := by
      simp [CenterState.closeSoftbusChannel, hempty]
    rw [erased]
    constructor
    · intro exact c hc hpeer
      refine ⟨?_, not_or.mp hempty⟩
      by_contra hne
      have hkept : c ∈ s.openChannels.erase (s.sessionName, peerDevId) :=
        Finset.mem_erase.mpr ⟨fun heq => hne (Prod.mk.inj heq).1, hc⟩
      exact ((exact c.2).mpr ⟨c.1, hkept⟩).1 hpeer
    · intro closes peer
      constructor
      · rintro ⟨hne, sessName, hopen⟩
        exact ⟨sessName, Finset.mem_erase.mpr ⟨fun heq => hne (Prod.mk.inj heq).2, hopen⟩⟩
      · rintro ⟨sessName, hkept⟩
        obtain ⟨hne, hopen⟩ := Finset.mem_erase.mp hkept
        refine ⟨?_, sessName, hopen⟩
        rintro rfl
        exact hne (Prod.ext (closes _ hopen rfl).1 rfl)

/-- A release by its cases. -/
theorem channelsTracked_releaseAVCenter_iff (h : ChannelsTracked s) (ch : CenterChoice)
    (engineId : Int) :
    ChannelsTracked (s.releaseAVCenter ch engineId).2 ↔
      ∀ peerDevId ∈ s.releasedPeer engineId, ∀ c ∈ s.openChannels, c.2 = peerDevId →
        c.1 = s.sessionName ∧ s.sessionName ≠ "" ∧ peerDevId ≠ "" := by
  have hforget : SameChannels s (s.forgetEngine engineId) := ⟨rfl, rfl⟩
  cases hreleased : s.releasedPeer engineId with
  | none =>
      refine iff_of_true ?_ (fun peerDevId hpeer => by cases hpeer)
      obtain ⟨heq, -⟩ | heq := CenterState.releaseAVCenter_of_none ch hreleased
      · rwa [heq]
      · rw [heq]
        exact hforget.tracked h
  | some peer =>
      obtain ⟨heq, hmem⟩ := CenterState.releaseAVCenter_of_some ch hreleased
      rw [heq, channelsTracked_releasePeer_iff (hforget.tracked h) ch hmem]
      constructor
      · rintro closes _ ⟨⟩
        exact closes
      · exact fun closes => closes peer rfl

end Tracking

/-- A call keeps the tracking exactly under its condition. -/
theorem channelsTracked_centerStep_iff {s : CenterState} (h : ChannelsTracked s)
    (call : CenterCall × CenterChoice) :
    ChannelsTracked (centerStep s call) ↔ tracksChannels s call := by
  obtain ⟨call, ch⟩ := call
  cases call with
  | initializeAVCenter transRole =>
      exact iff_of_true ((sameChannels_initializeAVCenter ch transRole).tracked h) trivial
  | releaseAVCenter engineId => exact channelsTracked_releaseAVCenter_iff h ch engineId
  | createControlChannel engineId peerDevId =>
      exact iff_of_true ((sameChannels_createControlChannel ch engineId peerDevId).tracked h)
        trivial
  | registerCtlCenterCallback engineId callback =>
      exact iff_of_true ((sameChannels_registerCtlCenterCallback engineId callback).tracked h)
        trivial
  | channelEvent event =>
      simp only [centerStep, tracksChannels]
      cases htype : event.type with
      | channelOpened => exact channelsTracked_opened_iff h ch htype
      | channelClosed => exact channelsTracked_closed_iff h ch htype
      | channelOpenFail | dataReceived | timeSyncResult | other =>
          refine iff_of_true (SameChannels.tracked ?_ h) trivial
          simp only [CenterState.onChannelEvent, CenterState.handleChannelEvent,
            CenterState.noteEvent, htype]
          exact ⟨rfl, rfl⟩

/-- The channels are tracked throughout exactly in the runs whose calls meet the
condition. -/
theorem channelsTracked_iff_tracksChannels {acts : List (CenterCall × CenterChoice)}
    {s : CenterState} :
    centerSystem.RunIn ChannelsTracked acts s ↔ centerSystem.Run tracksChannels acts s := by
  apply TransitionSystem.runIn_iff_run
  · rintro _ rfl
    refine channelsTracked_iff.mpr ⟨List.nodup_nil, fun peerDevId => ?_⟩
    exact iff_of_false List.not_mem_nil (fun ⟨_, hopen⟩ => absurd hopen (Finset.notMem_empty _))
  · intro s call t _ h hs
    cases hs
    exact channelsTracked_centerStep_iff h call

section Channels

private def openedBy (sessName : String) : CenterCall × CenterChoice :=
  (.channelEvent { type := .channelOpened, content := sessName, peerDevId := "peerA" }, {})

private def closedBy (sessName : String) : CenterCall × CenterChoice :=
  (.channelEvent { type := .channelClosed, content := sessName, peerDevId := "peerA" }, {})

/-- A peer whose only channel has closed is still listed, and a new request for it is told
that the channel exists. A peer that connects in both roles is listed twice. -/
theorem exists_closed_channel_listed :
    (∃ s, centerSystem.Reachable s ∧ "peerA" ∈ s.connectedDevIds ∧ ¬ s.isOpen "peerA" ∧
      (s.createControlChannel {} baseEngineId "peerA").1 = errDhAvtChannelAlreadyCreated) ∧
    ∃ s, centerSystem.Reachable s ∧ ¬ s.connectedDevIds.Nodup := by
  have closed : ∃ s ∈ centerSystem.replay (fun _ _ => True) {}
      [(.initializeAVCenter .avSender, {}), (.createControlChannel baseEngineId "peerA", {}),
        openedBy avSyncSenderControlSessionName, closedBy avSyncSenderControlSessionName],
      "peerA" ∈ s.connectedDevIds ∧ s.openChannels = ∅ ∧
        (s.createControlChannel {} baseEngineId "peerA").1 = errDhAvtChannelAlreadyCreated := by
    decide +kernel
  have twice : ∃ s ∈ centerSystem.replay (fun _ _ => True) {}
      [(.initializeAVCenter .avSender, {}), (.createControlChannel baseEngineId "peerA", {}),
        openedBy avSyncSenderControlSessionName, openedBy avSyncReceiverControlSessionName],
      ¬ s.connectedDevIds.Nodup := by
    decide +kernel
  obtain ⟨s, hs, listed, noChannel, created⟩ := closed
  obtain ⟨t, ht, dup⟩ := twice
  refine ⟨⟨s, (TransitionSystem.run_of_replay rfl hs).reachable, listed, ?_, created⟩,
    t, (TransitionSystem.run_of_replay rfl ht).reachable, dup⟩
  rintro ⟨sessName, hopen⟩
  rw [noChannel] at hopen
  exact absurd hopen (Finset.notMem_empty _)

end Channels
end DistributedHardware
