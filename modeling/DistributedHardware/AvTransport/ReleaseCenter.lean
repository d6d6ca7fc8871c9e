import DistributedHardware.AvTransport.ControlCenter

/-!
What the release of one engine leaves of the others' delivery.

A release drops the callback of its own engine only. Where it closes the channel of a
peer, it also unregisters the listeners of both roles, which the engines share and which
the first initialisation alone has registered.
-/

namespace DistributedHardware

/-- What events and messages take to the engine: its callback, the listeners of both
roles and the session server. -/
structure DeliveryKept (s t : CenterState) (engineId : Int) : Prop where
  callback : t.callbackMap.get engineId = s.callbackMap.get engineId
  sender : CenterState.senderListener ∈ t.listenerMap ↔
    CenterState.senderListener ∈ s.listenerMap
  receiver : CenterState.receiverListener ∈ t.listenerMap ↔
    CenterState.receiverListener ∈ s.listenerMap
  server : t.serverMap = s.serverMap

/-- A release leaves the delivery of the other live engines as it was. -/
def releasedLocally (s : CenterState) (call : CenterCall × CenterChoice) : Prop :=
  match call.1 with
  | .releaseAVCenter engineId =>
      ∀ other ∈ s.liveEngines, other ≠ engineId → DeliveryKept s (centerStep s call) other
  | _ => True

/-- A release closes no channel, or no other engine is live, or neither listener is
registered any more. -/
def releasesAlone (s : CenterState) (call : CenterCall × CenterChoice) : Prop :=
  match call.1 with
  | .releaseAVCenter engineId =>
      s.releasedPeer engineId = none ∨ s.liveEngines.erase engineId = ∅ ∨
        CenterState.senderListener ∉ s.listenerMap ∧
          CenterState.receiverListener ∉ s.listenerMap
  | _ => True

section Delivery
variable {s : CenterState} {engineId other : Int}

theorem deliveryKept_forgetEngine (hne : other ≠ engineId) :
    DeliveryKept s (s.forgetEngine engineId) other := by
  constructor
  case callback =>
    show Store.get (s.callbackMap.erase engineId) other = _
    rw [Store.get_erase, if_neg hne]
  all_goals rfl

/-- A closing keeps the delivery exactly where neither listener is left to lose. -/
theorem deliveryKept_releasePeer_iff (ch : CenterChoice) {peerDevId : String} :
    DeliveryKept s (s.releasePeer ch peerDevId) other ↔
      CenterState.senderListener ∉ s.listenerMap ∧
        CenterState.receiverListener ∉ s.listenerMap := by
  obtain ⟨names, heq⟩ := s.releasePeer_eq ch peerDevId
  rw [heq]
  constructor
  · intro kept
    have senderGone : CenterState.senderListener ∉
        (s.listenerMap.erase CenterState.senderListener).erase CenterState.receiverListener :=
      fun hmem => Finset.notMem_erase _ _ (Finset.mem_of_mem_erase hmem)
    exact ⟨fun hmem => senderGone (kept.sender.mpr hmem),
      fun hmem => Finset.notMem_erase _ _ (kept.receiver.mpr hmem)⟩
  · rintro ⟨noSender, noReceiver⟩
    have same : (s.listenerMap.erase CenterState.senderListener).erase
        CenterState.receiverListener = s.listenerMap := by
      rw [Finset.erase_eq_of_notMem noSender, Finset.erase_eq_of_notMem noReceiver]
    constructor
    case callback | server => rfl
    case sender | receiver => simp only [same]

theorem deliveryKept_of_forgetEngine {t : CenterState} (hne : other ≠ engineId) :
    DeliveryKept (s.forgetEngine engineId) t other ↔ DeliveryKept s t other := by
  have kept := deliveryKept_forgetEngine (s := s) hne
  constructor
  · intro h
    exact ⟨h.callback.trans kept.callback, h.sender, h.receiver, h.server⟩
  · intro h
    exact ⟨h.callback.trans kept.callback.symm, h.sender, h.receiver, h.server⟩

end Delivery

theorem releasedLocally_iff (s : CenterState) (call : CenterCall × CenterChoice) :
    releasedLocally s call ↔ releasesAlone s call := by
  obtain ⟨call, ch⟩ := call
  cases call with
  | releaseAVCenter engineId =>
      simp only [releasedLocally, releasesAlone, centerStep]
      cases hreleased : s.releasedPeer engineId with
      | none =>
          refine iff_of_true (fun other _ hne => ?_) (.inl rfl)
          obtain ⟨heq, -⟩ | heq := CenterState.releaseAVCenter_of_none ch hreleased
          · rw [heq]
            exact ⟨rfl, Iff.rfl, Iff.rfl, rfl⟩
          · rw [heq]
            exact deliveryKept_forgetEngine hne
      | some peerDevId =>
          rw [(CenterState.releaseAVCenter_of_some ch hreleased).1]
          have kept_iff {other : Int} (hne : other ≠ engineId) :
              DeliveryKept s ((s.forgetEngine engineId).releasePeer ch peerDevId) other ↔
                CenterState.senderListener ∉ s.listenerMap ∧
                  CenterState.receiverListener ∉ s.listenerMap := by
            rw [← deliveryKept_of_forgetEngine hne]
            exact deliveryKept_releasePeer_iff ch
          constructor
          · intro kept
            by_cases alone : s.liveEngines.erase engineId = ∅
            · exact .inr (.inl alone)
            · obtain ⟨other, hother⟩ := Finset.nonempty_iff_ne_empty.mpr alone
              obtain ⟨hne, hlive⟩ := Finset.mem_erase.mp hother
              exact .inr (.inr ((kept_iff hne).mp (kept other hlive hne)))
          · intro alone other hlive hne
            obtain hnone | hempty | gone := alone
            · cases hnone
            · have hother := Finset.mem_erase.mpr ⟨hne, hlive⟩
              rw [hempty] at hother
              exact absurd hother (Finset.notMem_empty _)
            · exact (kept_iff hne).mpr gone
  | _ => exact Iff.rfl

/-- The runs whose releases all are local are those whose releases meet the condition. -/
theorem run_releasedLocally_iff {acts : List (CenterCall × CenterChoice)} {s : CenterState} :
    centerSystem.Run releasedLocally acts s ↔ centerSystem.Run releasesAlone acts s := by
  constructor
  · exact fun run => run.mono (fun s call => (releasedLocally_iff s call).mp)
  · exact fun run => run.mono (fun s call => (releasedLocally_iff s call).mpr)

section Engines

/-- Two engines are live, the first has connected a peer. Its release takes the second
engine's listeners away. -/
theorem exists_release_cutting_off :
    ∃ s, centerSystem.Reachable s ∧ baseEngineId + 1 ∈ s.liveEngines ∧
      ¬ DeliveryKept s (centerStep s (.releaseAVCenter baseEngineId, {})) (baseEngineId + 1) := by
  have cut : ∃ s ∈ centerSystem.replay (fun _ _ => True) {}
      [(.initializeAVCenter .avSender, {}), (.initializeAVCenter .avReceiver, {}),
        (.registerCtlCenterCallback (baseEngineId + 1) (some 0), {}),
        (.createControlChannel baseEngineId "peerA", {}),
        (.channelEvent { type := .channelOpened, content := avSyncSenderControlSessionName,
                         peerDevId := "peerA" }, {})],
      baseEngineId + 1 ∈ s.liveEngines ∧ CenterState.receiverListener ∈ s.listenerMap ∧
        CenterState.receiverListener ∉
          (centerStep s (.releaseAVCenter baseEngineId, {})).listenerMap := by
    decide +kernel
  obtain ⟨s, hs, live, registered, gone⟩ := cut
  exact ⟨s, (TransitionSystem.run_of_replay rfl hs).reachable, live,
    fun kept => gone (kept.receiver.mpr registered)⟩

end Engines
end DistributedHardware
