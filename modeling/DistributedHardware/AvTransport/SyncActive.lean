import DistributedHardware.AvTransport.SyncManager

/-!
Sender sync against the merge condition of the stream list.

Adding a stream tests the merge condition and the number of streams, removing one
tests the number only, and a conflicting stream disables nothing.
-/

namespace DistributedHardware
variable {printUnformatted : CJson → Option String}

/-- A start was sent with no stop after it. -/
def startedIn (sent : List AVTransMessage) : Bool :=
  sent.foldl (fun started message =>
    if message.type = AVTransTag.startAvSync.toUInt32 then true
    else if message.type = AVTransTag.stopAvSync.toUInt32 then false
    else started) false

/-- The descriptor that the manager has recorded for the clock memory is open. -/
def sourceLive (s : SyncState) : Bool :=
  !isInValidSharedMemory s.sourceMemory && s.sourceMemory.fd ∈ s.files.live .source

def syncActive (s : SyncState) : Bool := startedIn s.sent && sourceLive s

theorem startedIn_append_start (sent : List AVTransMessage) {s : SyncState} {content : String}
    (nonempty : s.streamInfoList ≠ []) :
    startedIn (sent ++ s.toPeers .startAvSync content) = true := by
  obtain hnil | ⟨streams, last, hlast⟩ := List.eq_nil_or_concat' s.streamInfoList
  · exact absurd hnil nonempty
  · rw [SyncState.toPeers, hlast, List.map_append, ← List.append_assoc, startedIn,
      List.foldl_append]
    rfl

theorem mergeGroupInfo_of_few {streams : List AVStreamInfo}
    (few : streams.length < avSyncStreamCount) :
    mergeGroupInfo printUnformatted streams = none := by
  have scenes : (streams.map AVStreamInfo.sceneType).dedup.length < avSyncStreamCount := by
    calc (streams.map AVStreamInfo.sceneType).dedup.length
        ≤ (streams.map AVStreamInfo.sceneType).length := (List.dedup_sublist _).length_le
      _ = streams.length := List.length_map _
      _ < avSyncStreamCount := few
  exact if_pos scenes

/-- Where the groups merge there are two streams. -/
theorem two_le_of_mergeGroupInfo {streams : List AVStreamInfo} {syncGroupInfo : String}
    (h : mergeGroupInfo printUnformatted streams = some syncGroupInfo) :
    avSyncStreamCount ≤ streams.length := by
  by_contra few
  rw [mergeGroupInfo_of_few (Nat.lt_of_not_le few)] at h
  cases h

section Enable
variable {s : SyncState} {os : Ashmem}

/-- A memory is recorded as valid where it could be set up. -/
theorem isInValid_create {name : String} {size : Int} (hname : name ≠ "") (hsize : 0 < size) :
    isInValidSharedMemory (createAVTransSharedMemory os name size) =
      decide ((createAVTransSharedMemory os name size).fd ≤ 0) := by
  unfold createAVTransSharedMemory
  split
  · rfl
  · split
    · rfl
    · split
      · rfl
      · split
        · rfl
        · simp [isInValidSharedMemory, hname, hsize]

theorem syncActive_enable {syncGroupInfo : String}
    (hmerge : mergeGroupInfo printUnformatted s.streamInfoList = some syncGroupInfo) :
    syncActive (s.enableSenderAVSync printUnformatted os) = true ↔
      0 < (createAVTransSharedMemory os "sourceSharedMemory" 12).fd := by
  have nonempty : s.streamInfoList ≠ [] := by
    intro hnil
    have := two_le_of_mergeGroupInfo hmerge
    rw [hnil] at this
    exact absurd this (by decide)
  have valid : isInValidSharedMemory (createAVTransSharedMemory os "sourceSharedMemory" 12) =
      decide ((createAVTransSharedMemory os "sourceSharedMemory" 12).fd ≤ 0) :=
    isInValid_create (by decide) (by decide)
  simp only [SyncState.enableSenderAVSync, hmerge, syncActive, sourceLive,
    startedIn_append_start s.sent nonempty, Bool.true_and, SyncState.created, valid]
  by_cases hfd : (createAVTransSharedMemory os "sourceSharedMemory" 12).fd ≤ 0
  · simp [hfd]
  · simp [hfd, Int.not_le.mp hfd]

/-- Disabling closes what is recorded. -/
theorem sourceLive_disable (few : s.streamInfoList.length < avSyncStreamCount) :
    sourceLive s.disableSenderAVSync = false := by
  rw [SyncState.disableSenderAVSync, if_neg (Nat.not_le.mpr few)]
  cases hvalid : isInValidSharedMemory s.sourceMemory with
  | true => simp [sourceLive, hvalid]
  | false =>
      have hfd : 0 < s.sourceMemory.fd := by
        simp only [isInValidSharedMemory, Bool.or_eq_false_iff, decide_eq_false_iff_not] at hvalid
        exact Int.not_le.mp hvalid.1.1
      simp [sourceLive, SyncState.closeAVTransSharedMemory, hvalid, hfd]

end Enable

section Runs
variable (printUnformatted)

/-- Sender sync is active exactly where the streams of the list merge. -/
def ActiveAsMerged (s : SyncState) : Prop :=
  syncActive s = (mergeGroupInfo printUnformatted s.streamInfoList).isSome

/-- A stream that makes the streams merge, or keeps them merged, gets its memory; one
that keeps them from merging finds them not merged; and taking streams out leaves fewer
than two or changes nothing about the merge. -/
def keepsActive (s : SyncState) : StreamCall → Bool
  | .addStreamInfo stream os =>
      if (mergeGroupInfo printUnformatted (s.pushBack stream).streamInfoList).isSome then
        0 < (createAVTransSharedMemory os "sourceSharedMemory" 12).fd
      else !(mergeGroupInfo printUnformatted s.streamInfoList).isSome
  | .removeStreamInfo stream =>
      (s.eraseAll stream).streamInfoList.length < avSyncStreamCount ||
        (mergeGroupInfo printUnformatted (s.eraseAll stream).streamInfoList).isSome =
          (mergeGroupInfo printUnformatted s.streamInfoList).isSome

variable {printUnformatted}

theorem addStreamInfo_of_some {s : SyncState} {stream : AVStreamInfo} {os : Ashmem}
    {syncGroupInfo : String}
    (hmerge : mergeGroupInfo printUnformatted (s.pushBack stream).streamInfoList =
      some syncGroupInfo) :
    s.addStreamInfo printUnformatted os stream =
      (s.pushBack stream).enableSenderAVSync printUnformatted os := by
  rw [SyncState.addStreamInfo, if_neg (Nat.not_lt.mpr (two_le_of_mergeGroupInfo hmerge))]

theorem addStreamInfo_of_none {s : SyncState} {stream : AVStreamInfo} {os : Ashmem}
    (hmerge : mergeGroupInfo printUnformatted (s.pushBack stream).streamInfoList = none) :
    s.addStreamInfo printUnformatted os stream = s.pushBack stream := by
  simp only [SyncState.addStreamInfo, SyncState.enableSenderAVSync, hmerge]
  split <;> rfl

theorem removeStreamInfo_of_many {s : SyncState} {stream : AVStreamInfo}
    (many : avSyncStreamCount ≤ (s.eraseAll stream).streamInfoList.length) :
    s.removeStreamInfo stream = s.eraseAll stream := by
  rw [SyncState.removeStreamInfo, SyncState.disableSenderAVSync, if_pos many]

theorem streamInfoList_enable (s : SyncState) (os : Ashmem) :
    (s.enableSenderAVSync printUnformatted os).streamInfoList = s.streamInfoList := by
  unfold SyncState.enableSenderAVSync
  split <;> rfl

theorem streamInfoList_disable (s : SyncState) :
    s.disableSenderAVSync.streamInfoList = s.streamInfoList := by
  unfold SyncState.disableSenderAVSync
  split <;> rfl

theorem activeAsMerged_add_iff {s : SyncState} {stream : AVStreamInfo} {os : Ashmem}
    (h : ActiveAsMerged printUnformatted s) :
    ActiveAsMerged printUnformatted (s.addStreamInfo printUnformatted os stream) ↔
      keepsActive printUnformatted s (.addStreamInfo stream os) = true := by
  have same : syncActive (s.pushBack stream) = syncActive s := rfl
  cases hmerge : mergeGroupInfo printUnformatted (s.pushBack stream).streamInfoList with
  | none =>
      rw [addStreamInfo_of_none hmerge, ActiveAsMerged, same, h, hmerge]
      simp [keepsActive, hmerge]
  | some syncGroupInfo =>
      rw [addStreamInfo_of_some hmerge, ActiveAsMerged, streamInfoList_enable, hmerge,
        Option.isSome_some, syncActive_enable hmerge]
      simp [keepsActive, hmerge]

theorem activeAsMerged_remove_iff {s : SyncState} {stream : AVStreamInfo}
    (h : ActiveAsMerged printUnformatted s) :
    ActiveAsMerged printUnformatted (s.removeStreamInfo stream) ↔
      keepsActive printUnformatted s (.removeStreamInfo stream) = true := by
  by_cases few : (s.eraseAll stream).streamInfoList.length < avSyncStreamCount
  · refine iff_of_true ?_ (by simp [keepsActive, few])
    rw [ActiveAsMerged, SyncState.removeStreamInfo, streamInfoList_disable,
      mergeGroupInfo_of_few few, syncActive, sourceLive_disable few, Bool.and_false]
    rfl
  · have same : syncActive (s.eraseAll stream) = syncActive s := rfl
    rw [removeStreamInfo_of_many (Nat.le_of_not_lt few), ActiveAsMerged, same, h]
    simp [keepsActive, few, eq_comm]

/-- Sender sync is active exactly while the streams merge, in exactly the runs whose calls
keep it so. -/
theorem syncActive_iff_keepsActive {acts : List StreamCall} {s : SyncState} :
    (streamSystem printUnformatted).RunIn (ActiveAsMerged printUnformatted) acts s ↔
      (streamSystem printUnformatted).Run
        (fun s call => keepsActive printUnformatted s call = true) acts s := by
  apply TransitionSystem.runIn_iff_run
  · rintro _ rfl
    rw [ActiveAsMerged, mergeGroupInfo_of_few (by decide)]
    rfl
  · intro s call t _ h hs
    cases call with
    | addStreamInfo stream os =>
        simp only [streamSystem, streamStep] at hs
        split at hs
        · cases hs
          exact activeAsMerged_add_iff h
        · cases hs
    | removeStreamInfo stream =>
        cases hs
        exact activeAsMerged_remove_iff h

end Runs

section Streams

def screenA : AVStreamInfo := { sceneType := sceneTypeDScreen, peerDevId := "peerA" }
def speakerA : AVStreamInfo := { sceneType := sceneTypeDSpeaker, peerDevId := "peerA" }
def micB : AVStreamInfo := { sceneType := sceneTypeDMic, peerDevId := "peerB" }

def samplePrint : CJson → Option String := fun _ => some "groupInfo"

/-- A microphone that comes last leaves sync on; one that comes before the speaker and
then goes leaves it off. -/
theorem exists_active_unmerged :
    (∃ s, (streamSystem samplePrint).Reachable s ∧ syncActive s = true ∧
      mergeGroupInfo samplePrint s.streamInfoList = none) ∧
    ∃ s, (streamSystem samplePrint).Reachable s ∧ syncActive s = false ∧
      (mergeGroupInfo samplePrint s.streamInfoList).isSome = true := by
  have on : ∃ s ∈ (streamSystem samplePrint).replay (fun _ _ => True) {}
      [.addStreamInfo screenA { fd := 5 }, .addStreamInfo speakerA { fd := 5 },
        .addStreamInfo micB { fd := 6 }],
      syncActive s = true ∧ mergeGroupInfo samplePrint s.streamInfoList = none := by
    decide +kernel
  have off : ∃ s ∈ (streamSystem samplePrint).replay (fun _ _ => True) {}
      [.addStreamInfo screenA { fd := 5 }, .addStreamInfo micB { fd := 5 },
        .addStreamInfo speakerA { fd := 5 }, .removeStreamInfo micB],
      syncActive s = false ∧ (mergeGroupInfo samplePrint s.streamInfoList).isSome = true := by
    decide +kernel
  obtain ⟨s, hs, active⟩ := on
  obtain ⟨t, ht, idle⟩ := off
  exact ⟨⟨s, (TransitionSystem.run_of_replay rfl hs).reachable, active⟩,
    t, (TransitionSystem.run_of_replay rfl ht).reachable, idle⟩

end Streams
end DistributedHardware
