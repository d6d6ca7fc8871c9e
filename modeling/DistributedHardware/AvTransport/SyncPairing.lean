import DistributedHardware.AvTransport.SyncActive

/-!
The starts and stops that the peers are sent.

A start goes to the peers of the list as it is when sync is enabled, a stop to those
of the list as it is when sync is disabled, which lacks the streams just removed.
-/

namespace DistributedHardware
variable {printUnformatted : CJson → Option String}

def isStart (message : AVTransMessage) : Bool :=
  message.type = AVTransTag.startAvSync.toUInt32

def isStop (message : AVTransMessage) : Bool :=
  message.type = AVTransTag.stopAvSync.toUInt32

/-- The peers that were sent a start and no stop since, and whether a peer outside them
was ever sent a stop. -/
structure Pairing where
  started : Finset String := ∅
  strayStop : Bool := false

def Pairing.next (p : Pairing) (message : AVTransMessage) : Pairing :=
  if isStart message then { p with started := insert message.dstDevId p.started }
  else if isStop message then
    { started := p.started.erase message.dstDevId
      strayStop := p.strayStop || message.dstDevId ∉ p.started }
  else p

def pairing (sent : List AVTransMessage) : Pairing := sent.foldl Pairing.next {}

/-- No stop went to a peer without a start, and where the last call disabled sender sync
no peer is left with a start. -/
structure StopsPaired (s : SyncState) : Prop where
  noStray : (pairing s.sent).strayStop = false
  allStopped : s.disabled = true → (pairing s.sent).started = ∅

/-- A removal that leaves fewer than two streams leaves the streams of exactly the peers
that have a start. -/
def stopsStarted (s : SyncState) : StreamCall → Bool
  | .addStreamInfo _ _ => true
  | .removeStreamInfo stream =>
      avSyncStreamCount ≤ (s.eraseAll stream).streamInfoList.length ||
        (pairing s.sent).started =
          ((s.eraseAll stream).streamInfoList.map AVStreamInfo.peerDevId).toFinset

theorem pairing_append (sent sent' : List AVTransMessage) :
    pairing (sent ++ sent') = sent'.foldl Pairing.next (pairing sent) :=
  List.foldl_append

/-- Starts are never stray. -/
theorem strayStop_starts (sent : List AVTransMessage) (s : SyncState) (content : String) :
    (pairing (sent ++ s.toPeers .startAvSync content)).strayStop = (pairing sent).strayStop := by
  rw [pairing_append, SyncState.toPeers]
  generalize pairing sent = p
  induction s.streamInfoList generalizing p with
  | nil => rfl
  | cons item items ih =>
      rw [List.map_cons, List.foldl_cons, ih]
      rfl

/-- The stops of a disabling call, of which there is at most one. -/
theorem pairing_stops {s : SyncState} (few : s.streamInfoList.length < avSyncStreamCount)
    {sent : List AVTransMessage} (noStray : (pairing sent).strayStop = false) :
    (pairing (sent ++ s.toPeers .stopAvSync "")).strayStop = false ∧
        (pairing (sent ++ s.toPeers .stopAvSync "")).started = ∅ ↔
      (pairing sent).started = (s.streamInfoList.map AVStreamInfo.peerDevId).toFinset := by
  cases hlist : s.streamInfoList with
  | nil => simp [SyncState.toPeers, hlist, noStray]
  | cons item items =>
      have hnil : items = [] := by
        rw [hlist, avSyncStreamCount, List.length_cons] at few
        exact List.length_eq_zero_iff.mp (by omega)
      have one : pairing (sent ++ s.toPeers .stopAvSync "") =
          { started := (pairing sent).started.erase item.peerDevId,
            strayStop := (pairing sent).strayStop ||
              item.peerDevId ∉ (pairing sent).started } := by
        rw [pairing_append, SyncState.toPeers, hlist, hnil]
        rfl
      rw [one, hnil]
      simp only [noStray, Bool.false_or, decide_eq_false_iff_not, not_not,
        Finset.erase_eq_empty_iff, List.map_cons, List.map_nil, List.toFinset_cons,
        List.toFinset_nil, insert_empty_eq]
      constructor
      · rintro ⟨hmem, hempty | hone⟩
        · rw [hempty] at hmem
          exact absurd hmem (Finset.notMem_empty _)
        · exact hone
      · intro hone
        exact ⟨by rw [hone]; exact Finset.mem_singleton_self _, .inr hone⟩

theorem stopsPaired_add {s : SyncState} {stream : AVStreamInfo} {os : Ashmem}
    (h : StopsPaired s) : StopsPaired (s.addStreamInfo printUnformatted os stream) := by
  cases hmerge : mergeGroupInfo printUnformatted (s.pushBack stream).streamInfoList with
  | none =>
      rw [addStreamInfo_of_none hmerge]
      exact ⟨h.noStray, fun hd => by cases hd⟩
  | some syncGroupInfo =>
      rw [addStreamInfo_of_some hmerge, SyncState.enableSenderAVSync, hmerge]
      exact ⟨(strayStop_starts _ _ _).trans h.noStray, fun hd => by cases hd⟩

theorem stopsPaired_remove_iff {s : SyncState} {stream : AVStreamInfo} (h : StopsPaired s) :
    StopsPaired (s.removeStreamInfo stream) ↔ stopsStarted s (.removeStreamInfo stream) = true := by
  by_cases few : (s.eraseAll stream).streamInfoList.length < avSyncStreamCount
  · rw [stopsStarted, decide_eq_false (Nat.not_le.mpr few), Bool.false_or, decide_eq_true_iff,
      ← pairing_stops few h.noStray, SyncState.removeStreamInfo, SyncState.disableSenderAVSync,
      if_neg (Nat.not_le.mpr few)]
    constructor
    · intro after
      exact ⟨after.noStray, after.allStopped rfl⟩
    · rintro ⟨noStray, allStopped⟩
      exact ⟨noStray, fun _ => allStopped⟩
  · have many := Nat.le_of_not_lt few
    rw [removeStreamInfo_of_many many]
    exact iff_of_true ⟨h.noStray, fun hd => by cases hd⟩ (by simp [stopsStarted, many])

/-- Starts and stops are paired throughout exactly in the runs whose disabling removals
leave the streams of the peers that were started. -/
theorem stopsPaired_iff_stopsStarted {acts : List StreamCall} {s : SyncState} :
    (streamSystem printUnformatted).RunIn StopsPaired acts s ↔
      (streamSystem printUnformatted).Run (fun s call => stopsStarted s call = true) acts s := by
  apply TransitionSystem.runIn_iff_run
  · rintro _ rfl
    exact ⟨rfl, fun _ => rfl⟩
  · intro s call t _ h hs
    cases call with
    | addStreamInfo stream os =>
        simp only [streamSystem, streamStep] at hs
        split at hs
        · cases hs
          exact iff_of_true (stopsPaired_add h) rfl
        · cases hs
    | removeStreamInfo stream =>
        cases hs
        exact stopsPaired_remove_iff h

section Streams

private def speakerB : AVStreamInfo := { sceneType := sceneTypeDSpeaker, peerDevId := "peerB" }

/-- The screen of one peer and the speaker of another are in sync; when the screen goes
its peer is sent no stop. And the only stream going down to one is stopped unstarted. -/
theorem exists_unpaired_stop :
    (∃ s, (streamSystem samplePrint).Reachable s ∧ s.disabled = true ∧
      "peerA" ∈ (pairing s.sent).started) ∧
    ∃ s, (streamSystem samplePrint).Reachable s ∧ (pairing s.sent).strayStop = true := by
  have unstopped : ∃ s ∈ (streamSystem samplePrint).replay (fun _ _ => True) {}
      [.addStreamInfo screenA { fd := 5 }, .addStreamInfo speakerB { fd := 5 },
        .removeStreamInfo screenA],
      s.disabled = true ∧ "peerA" ∈ (pairing s.sent).started := by
    decide +kernel
  have stray : ∃ s ∈ (streamSystem samplePrint).replay (fun _ _ => True) {}
      [.addStreamInfo screenA { fd := 5 }, .addStreamInfo micB { fd := 5 },
        .removeStreamInfo screenA],
      (pairing s.sent).strayStop = true := by
    decide +kernel
  obtain ⟨s, hs, disabled⟩ := unstopped
  obtain ⟨t, ht, stop⟩ := stray
  exact ⟨⟨s, (TransitionSystem.run_of_replay rfl hs).reachable, disabled⟩,
    t, (TransitionSystem.run_of_replay rfl ht).reachable, stop⟩

end Streams
end DistributedHardware
