import DistributedHardware.AvTransport.SyncActive

/-!
The descriptors of the shared clock memories over the life of a manager.

A memory that is closed stays recorded, and one that is created replaces the recorded
one unseen. What the calls need is that the recorded descriptor is open when they close
it and that none is open when they create one.
-/

namespace DistributedHardware
variable {printUnformatted : CJson → Option String}

/-- Every descriptor is closed once by the end and none is closed that is not open, and
at no time are two open for one member. -/
structure UsedLinearly (s : SyncState) : Prop where
  linear : s.files.Linear
  allClosed : s.destroyed = true → ∀ slot, s.files.live slot = ∅

/-- The descriptor that closing the memory would close. -/
def recorded (memory : AVTransSharedMemory) : Finset Int :=
  if isInValidSharedMemory memory then ∅ else {memory.fd}

/-- A call that creates a memory finds none of its kind open, one that closes finds the
recorded descriptor open or none recorded, and the destructor finds open what is
recorded and nothing else. -/
def usesLinearly (printUnformatted : CJson → Option String) (s : SyncState) : SyncCall → Bool
  | .stream (.addStreamInfo stream os) =>
      (mergeGroupInfo printUnformatted (s.pushBack stream).streamInfoList).isNone ||
        (createAVTransSharedMemory os "sourceSharedMemory" 12).fd ≤ 0 ||
        s.files.live .source = ∅
  | .stream (.removeStreamInfo stream) =>
      avSyncStreamCount ≤ (s.eraseAll stream).streamInfoList.length ||
        recorded s.sourceMemory ⊆ s.files.live .source
  | .handleAvSyncMessage none _ => true
  | .handleAvSyncMessage (some message) os =>
      if message.type = AVTransTag.startAvSync.toUInt32 then
        (createAVTransSharedMemory os "sinkSharedMemory" (12 * maxClockUnitCount)).fd ≤ 0 ||
          s.files.live .sink = ∅
      else if message.type = AVTransTag.stopAvSync.toUInt32 then
        recorded s.sinkMemory ⊆ s.files.live .sink
      else true
  | .destroy =>
      s.files.live .source = recorded s.sourceMemory && s.files.live .sink = recorded s.sinkMemory

section Close
variable {files : Ledger MemorySlot Int} {slot : MemorySlot} {memory : AVTransSharedMemory}

theorem closeAVTransSharedMemory_eq :
    SyncState.closeAVTransSharedMemory files slot memory =
      if isInValidSharedMemory memory then files else files.release slot memory.fd := by
  unfold SyncState.closeAVTransSharedMemory
  cases hvalid : isInValidSharedMemory memory with
  | true => rfl
  | false =>
      have hfd : 0 < memory.fd := by
        simp only [isInValidSharedMemory, Bool.or_eq_false_iff, decide_eq_false_iff_not] at hvalid
        exact Int.not_le.mp hvalid.1.1
      simp [hfd]

theorem live_close (k : MemorySlot) :
    (SyncState.closeAVTransSharedMemory files slot memory).live k =
      files.live k \ recorded memory := by
  rw [closeAVTransSharedMemory_eq, recorded]
  split
  · simp
  · rw [Ledger.live_release, Finset.sdiff_singleton_eq_erase]

theorem linear_close_iff (linear : files.Linear) :
    (SyncState.closeAVTransSharedMemory files slot memory).Linear ↔
      recorded memory ⊆ files.live slot := by
  rw [closeAVTransSharedMemory_eq, recorded]
  split
  · exact iff_of_true linear (Finset.empty_subset _)
  · rw [Ledger.linear_release_iff linear, Finset.singleton_subset_iff]

/-- Closes that were stray stay on record. -/
theorem stray_close :
    (SyncState.closeAVTransSharedMemory files slot memory).stray = false ↔
      files.stray = false ∧ recorded memory ⊆ files.live slot := by
  rw [closeAVTransSharedMemory_eq, recorded]
  split
  · simp
  · rw [Ledger.stray_release, Finset.singleton_subset_iff]

end Close

section Create
variable {s : SyncState} {os : Ashmem} {slot : MemorySlot} {name : String} {size : Int}

theorem fd_create : (createAVTransSharedMemory os name size).fd = os.fd ∨
    (createAVTransSharedMemory os name size).fd = 0 := by
  unfold createAVTransSharedMemory
  split
  · exact .inr rfl
  · split
    · exact .inr rfl
    · split
      · exact .inr rfl
      · split
        · exact .inr rfl
        · exact .inl rfl

theorem isFresh_iff :
    s.isFresh os = true ↔ ∀ slot, os.fd ∉ s.files.live slot := by
  simp only [SyncState.isFresh, Bool.and_eq_true, decide_eq_true_eq]
  constructor
  · rintro ⟨hsource, hsink⟩ slot
    cases slot with
    | source => exact hsource
    | sink => exact hsink
  · exact fun h => ⟨h .source, h .sink⟩

theorem linear_created_iff (linear : s.files.Linear) (fresh : s.isFresh os = true) :
    (s.created slot (createAVTransSharedMemory os name size)).Linear ↔
      (createAVTransSharedMemory os name size).fd ≤ 0 ∨ s.files.live slot = ∅ := by
  unfold SyncState.created
  split
  case isTrue failed => exact iff_of_true linear (.inl failed)
  case isFalse ok =>
    have hfd : (createAVTransSharedMemory os name size).fd = os.fd :=
      fd_create.resolve_right (fun h => ok (by rw [h]))
    rw [Ledger.linear_acquire_iff linear (by rw [hfd]; exact isFresh_iff.mp fresh slot)]
    exact (or_iff_right ok).symm

end Create
/-- One call, by what it does to the descriptors. -/
inductive FilesStep (printUnformatted : CJson → Option String) (s t : SyncState) :
    SyncCall → Prop
  | same {call : SyncCall} : t.files = s.files → t.destroyed = false →
      usesLinearly printUnformatted s call = true → FilesStep printUnformatted s t call
  | created {call : SyncCall} {slot : MemorySlot} {os : Ashmem} {name : String} {size : Int} :
      t.files = s.created slot (createAVTransSharedMemory os name size) →
      t.destroyed = false → s.isFresh os = true →
      (usesLinearly printUnformatted s call = true ↔
        (createAVTransSharedMemory os name size).fd ≤ 0 ∨ s.files.live slot = ∅) →
      FilesStep printUnformatted s t call
  | closed {call : SyncCall} {slot : MemorySlot} {memory : AVTransSharedMemory} :
      t.files = SyncState.closeAVTransSharedMemory s.files slot memory → t.destroyed = false →
      (usesLinearly printUnformatted s call = true ↔ recorded memory ⊆ s.files.live slot) →
      FilesStep printUnformatted s t call
  | destroyed : t = s.destroy → FilesStep printUnformatted s t .destroy

theorem destroyed_remove (s : SyncState) (stream : AVStreamInfo) :
    (s.removeStreamInfo stream).destroyed = s.destroyed := by
  unfold SyncState.removeStreamInfo SyncState.disableSenderAVSync
  split <;> rfl

theorem filesStep {s t : SyncState} {call : SyncCall}
    (hs : syncStep printUnformatted s call = some t) :
    FilesStep printUnformatted s t call := by
  unfold syncStep at hs
  split at hs
  case isTrue => cases hs
  case isFalse alive =>
    rw [Bool.not_eq_true] at alive
    cases call with
    | destroy =>
        cases hs
        exact .destroyed rfl
    | stream call =>
        cases call with
        | addStreamInfo stream os =>
            simp only [streamStep] at hs
            split at hs
            case isFalse => cases hs
            case isTrue fresh =>
              cases hs
              cases hmerge : mergeGroupInfo printUnformatted
                  (s.pushBack stream).streamInfoList with
              | none =>
                  rw [addStreamInfo_of_none hmerge]
                  exact .same rfl alive (by simp [usesLinearly, hmerge])
              | some syncGroupInfo =>
                  rw [addStreamInfo_of_some hmerge, SyncState.enableSenderAVSync, hmerge]
                  exact .created rfl alive fresh (by simp [usesLinearly, hmerge])
        | removeStreamInfo stream =>
            cases hs
            by_cases many : avSyncStreamCount ≤ (s.eraseAll stream).streamInfoList.length
            · rw [removeStreamInfo_of_many many]
              exact .same rfl alive (by simp [usesLinearly, many])
            · have closed : (s.removeStreamInfo stream).files =
                  SyncState.closeAVTransSharedMemory s.files .source s.sourceMemory := by
                rw [SyncState.removeStreamInfo, SyncState.disableSenderAVSync, if_neg many]
                rfl
              exact .closed closed (by rw [destroyed_remove, alive]) (by simp [usesLinearly, many])
    | handleAvSyncMessage message os =>
        simp only at hs
        split at hs
        case isFalse => cases hs
        case isTrue fresh =>
          cases hs
          cases message with
          | none => exact .same rfl alive rfl
          | some message =>
              simp only [SyncState.handleAvSyncMessage]
              by_cases start : message.type = AVTransTag.startAvSync.toUInt32
              · rw [if_pos start]
                exact .created rfl alive fresh (by simp [usesLinearly, start])
              · rw [if_neg start]
                by_cases stop : message.type = AVTransTag.stopAvSync.toUInt32
                · rw [if_pos stop]
                  exact .closed rfl alive (by
                    simp only [usesLinearly, if_neg start, if_pos stop, decide_eq_true_eq])
                · rw [if_neg stop]
                  exact .same rfl alive (by simp [usesLinearly, start, stop])

/-- No descriptor is open for both members. -/
theorem disjoint_slots {s : SyncState} (h : (syncSystem printUnformatted).Reachable s) :
    Disjoint (s.files.live .source) (s.files.live .sink) := by
  refine h.invariant (I := fun s => Disjoint (s.files.live .source) (s.files.live .sink)) ?_ ?_
  · rintro _ rfl
    exact Finset.disjoint_empty_left _
  · intro s call t disjoint hs
    have closed {files : Ledger MemorySlot Int} (slot : MemorySlot) (memory : AVTransSharedMemory)
        (h : Disjoint (files.live .source) (files.live .sink)) :
        Disjoint ((SyncState.closeAVTransSharedMemory files slot memory).live .source)
          ((SyncState.closeAVTransSharedMemory files slot memory).live .sink) := by
      rw [live_close, live_close]
      exact h.mono Finset.sdiff_subset Finset.sdiff_subset
    cases filesStep hs with
    | same same => rw [same]; exact disjoint
    | @created _ slot os name size ht _ fresh =>
        rw [ht, SyncState.created]
        split
        · exact disjoint
        · next ok =>
          have hfd : (createAVTransSharedMemory os name size).fd = os.fd :=
            fd_create.resolve_right (fun h => ok (by rw [h]))
          have fresh := isFresh_iff.mp fresh
          rw [hfd]
          cases slot with
          | source =>
              rw [Ledger.live_acquire_self, Ledger.live_acquire_of_ne _ _ (by decide)]
              exact Finset.disjoint_insert_left.mpr ⟨fresh .sink, disjoint⟩
          | sink =>
              rw [Ledger.live_acquire_self, Ledger.live_acquire_of_ne _ _ (by decide)]
              exact Finset.disjoint_insert_right.mpr ⟨fresh .source, disjoint⟩
    | closed ht => rw [ht]; exact closed _ _ disjoint
    | destroyed ht => rw [ht]; exact closed _ _ (closed _ _ disjoint)

/-- The destructor closes everything once exactly where what is open is what is recorded. -/
theorem usedLinearly_destroy_iff {s : SyncState}
    (disjoint : Disjoint (s.files.live .source) (s.files.live .sink)) (linear : s.files.Linear) :
    UsedLinearly s.destroy ↔ s.files.live .source = recorded s.sourceMemory ∧
      s.files.live .sink = recorded s.sinkMemory := by
  have files : s.destroy.files = SyncState.closeAVTransSharedMemory
      (SyncState.closeAVTransSharedMemory s.files .source s.sourceMemory) .sink s.sinkMemory := rfl
  constructor
  · intro after
    have stray := after.linear.stray
    rw [files, stray_close, stray_close, live_close] at stray
    obtain ⟨⟨-, hsource⟩, hsink⟩ := stray
    have empty (slot : MemorySlot) :
        s.files.live slot ⊆ recorded s.sourceMemory ∪ recorded s.sinkMemory := by
      have := after.allClosed rfl slot
      rw [files, live_close, live_close, sdiff_sdiff_left] at this
      exact Finset.sdiff_eq_empty_iff_subset.mp this
    have apart {fd : Int} (h : fd ∈ s.files.live .source) (h' : fd ∈ s.files.live .sink) : False :=
      Finset.disjoint_left.mp disjoint h h'
    constructor
    · apply Finset.Subset.antisymm
      · intro fd hfd
        obtain h | h := Finset.mem_union.mp (empty .source hfd)
        · exact h
        · exact (apart hfd (Finset.mem_sdiff.mp (hsink h)).1).elim
      · exact hsource
    · apply Finset.Subset.antisymm
      · intro fd hfd
        obtain h | h := Finset.mem_union.mp (empty .sink hfd)
        · exact (apart (hsource h) hfd).elim
        · exact h
      · exact hsink.trans Finset.sdiff_subset
  · rintro ⟨hsource, hsink⟩
    rw [hsource, hsink] at disjoint
    have first := (linear_close_iff linear).mpr hsource.ge
    constructor
    case linear =>
      rw [files, linear_close_iff first, live_close, hsink]
      exact Finset.subset_sdiff.mpr ⟨Finset.Subset.refl _, disjoint.symm⟩
    case allClosed =>
      intro _ slot
      rw [files, live_close, live_close]
      cases slot with
      | source => rw [hsource, Finset.sdiff_self, Finset.empty_sdiff]
      | sink => rw [hsink, sdiff_right_comm, Finset.sdiff_self, Finset.empty_sdiff]

theorem usedLinearly_of_alive {s : SyncState} (alive : s.destroyed = false) :
    UsedLinearly s ↔ s.files.Linear :=
  ⟨UsedLinearly.linear, fun h => ⟨h, fun hd => absurd (alive.symm.trans hd) Bool.false_ne_true⟩⟩

theorem usedLinearly_step_iff {s t : SyncState} {call : SyncCall}
    (reach : (syncSystem printUnformatted).Reachable s) (h : UsedLinearly s)
    (hs : syncStep printUnformatted s call = some t) :
    UsedLinearly t ↔ usesLinearly printUnformatted s call = true := by
  cases filesStep hs with
  | same same alive uses =>
      rw [usedLinearly_of_alive alive, same]
      exact iff_of_true h.linear uses
  | created ht alive fresh uses =>
      rw [usedLinearly_of_alive alive, ht, uses]
      exact linear_created_iff h.linear fresh
  | closed ht alive uses =>
      rw [usedLinearly_of_alive alive, ht, uses]
      exact linear_close_iff h.linear
  | destroyed ht =>
      rw [ht, usedLinearly_destroy_iff (disjoint_slots reach) h.linear]
      simp [usesLinearly]

/-- The descriptors are used linearly throughout exactly in the runs whose calls each use
them so. -/
theorem usedLinearly_iff_usesLinearly {acts : List SyncCall} {s : SyncState} :
    (syncSystem printUnformatted).RunIn UsedLinearly acts s ↔
      (syncSystem printUnformatted).Run
        (fun s call => usesLinearly printUnformatted s call = true) acts s := by
  apply TransitionSystem.runIn_iff_run
  · rintro _ rfl
    exact ⟨⟨rfl, fun _ => by simp⟩, fun _ _ => rfl⟩
  · exact fun s call t reach h hs => usedLinearly_step_iff reach h hs

section Descriptors

private def startMessage : AVTransMessage :=
  { type := AVTransTag.startAvSync.toUInt32, content := "groupInfo", dstDevId := "peerA" }

private def stopMessage : AVTransMessage :=
  { type := AVTransTag.stopAvSync.toUInt32, content := "", dstDevId := "peerA" }

/-- A start, a stop and the destructor close one descriptor twice; two starts leave one
that is never closed. -/
theorem exists_closed_twice_and_never :
    (∃ s, (syncSystem samplePrint).Reachable s ∧ s.files.stray = true) ∧
    ∃ s, (syncSystem samplePrint).Reachable s ∧ s.destroyed = true ∧
      5 ∈ s.files.live .sink := by
  have twice : ∃ s ∈ (syncSystem samplePrint).replay (fun _ _ => True) {}
      [.handleAvSyncMessage (some startMessage) { fd := 5 },
        .handleAvSyncMessage (some stopMessage) { fd := 6 }, .destroy],
      s.files.stray = true := by
    decide +kernel
  have never : ∃ s ∈ (syncSystem samplePrint).replay (fun _ _ => True) {}
      [.handleAvSyncMessage (some startMessage) { fd := 5 },
        .handleAvSyncMessage (some startMessage) { fd := 6 }, .destroy],
      s.destroyed = true ∧ 5 ∈ s.files.live .sink := by
    decide +kernel
  obtain ⟨s, hs, stray⟩ := twice
  obtain ⟨t, ht, live⟩ := never
  exact ⟨⟨s, (TransitionSystem.run_of_replay rfl hs).reachable, stray⟩,
    t, (TransitionSystem.run_of_replay rfl ht).reachable, live⟩

end Descriptors
end DistributedHardware
