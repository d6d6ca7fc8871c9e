import DistributedHardware.AvTransport.ClockRing
import DistributedHardware.AvTransport.OutputController

/-!
`WaitRereadClockFailed`: the loop in which the control thread waits for the clock.

The loop looks at the controller twice in a round, at the size of the queue and, after the
clock is read, at the mode; in between the other threads go on. How long a round waits
depends on the queue and on the status, but not how it ends.
-/

namespace DistributedHardware

/-- What a look at the clock finds: the memory that `USER_SHARED_MEMORY_FD` has named, what
mapping it answers, and its bytes. -/
structure ClockRead where
  sharedMem : AVTransSharedMemory
  answers : MapAnswers
  base : MappedBytes

/-- With the clock time that is set, if any. A frame without a meta has no number. -/
def acquireSyncClockTime (frameNum : Option UInt32) (read : ClockRead) : Int × Option Int64 :=
  match frameNum with
  | none => (errDhAvtInvalidParam, none)
  | some frameNum =>
      if read.sharedMem.fd ≤ 0 ∨ read.sharedMem.size ≤ 0 ∨ read.sharedMem.name = "" then
        (errDhAvtSharedMemoryFailed, none)
      else
        let (ret, clockUnit) := readClockUnitFromMemory read.answers read.sharedMem
          { index := 0, frameNum, pts := 0 } read.base
        if ret = dhAvtSuccess then
          if clockUnit.pts = 0 then (errDhAvtSharedMemoryFailed, none)
          else (ret, some clockUnit.pts)
        else (ret, none)

section Loop
variable (frameNum : Option UInt32) (looks : Nat → ControllerState) (reads : Nat → ClockRead)

/-- What the round `i` returns; `none` where the loop goes on. -/
def rereadRound (i : Nat) : Option Bool :=
  if (looks (2 * i)).dataQueue.length < queueMaxSize then
    if (acquireSyncClockTime frameNum (reads i)).1 = dhAvtSuccess ∨
        (looks (2 * i + 1)).mode = .smooth then
      some false
    else none
  else some true

/-- The loop from the round `i` on, for as many rounds as the fuel lasts. -/
def waitRereadClockFailed (i : Nat) : Nat → Option Bool
  | 0 => none
  | fuel + 1 =>
      match rereadRound frameNum looks reads i with
      | some failed => some failed
      | none => waitRereadClockFailed (i + 1) fuel

end Loop

/-- A step of another thread, taken when the controller is not in `START`. -/
def StepsOutside (s : ControllerState) (a : ControllerAct) : Prop :=
  s.status ≠ .start ∧ ∀ ch, a ≠ .control ch

/-- The looks of a loop that the controller has left `START` before: `PushData` adds nothing
any more, and only the other threads go on. -/
structure LeftStart (thre : UInt8) (looks : Nat → ControllerState) : Prop where
  left : ∀ i, (looks i).status ≠ .start
  pushed : ∀ caller data, (looks 0).callers.get caller ≠ some (.push data)
  loops : ∃ data, (looks 0).controlThread = some (.control data)
  path : ∀ i, ∃ acts, (controllerSystem thre).Path StepsOutside (looks i) acts (looks (i + 1))

section Rounds
variable {frameNum : Option UInt32} {looks : Nat → ControllerState} {reads : Nat → ClockRead}

/-- With enough fuel the loop ends exactly if one of its rounds returns. -/
theorem waitRereadClockFailed_ends_iff (i : Nat) :
    (∃ fuel failed, waitRereadClockFailed frameNum looks reads i fuel = some failed) ↔
      ∃ n, (rereadRound frameNum looks reads (i + n)).isSome := by
  constructor
  · rintro ⟨fuel, failed, ends⟩
    induction fuel generalizing i with
    | zero => cases ends
    | succ fuel ih =>
        simp only [waitRereadClockFailed] at ends
        split at ends
        case h_1 returned => exact ⟨0, by rw [Nat.add_zero, returned]; rfl⟩
        case h_2 =>
          obtain ⟨n, returned⟩ := ih (i + 1) ends
          exact ⟨n + 1, by rwa [Nat.add_comm n, ← Nat.add_assoc]⟩
  · rintro ⟨n, returned⟩
    induction n generalizing i with
    | zero =>
        obtain ⟨failed, returned⟩ := Option.isSome_iff_exists.mp returned
        rw [Nat.add_zero] at returned
        exact ⟨1, failed, by simp only [waitRereadClockFailed, returned]⟩
    | succ n ih =>
        cases first : rereadRound frameNum looks reads i with
        | some failed => exact ⟨1, failed, by simp only [waitRereadClockFailed, first]⟩
        | none =>
            rw [Nat.add_comm n, ← Nat.add_assoc] at returned
            obtain ⟨fuel, failed, ends⟩ := ih (i + 1) returned
            exact ⟨fuel + 1, failed, by simp only [waitRereadClockFailed, first, ends]⟩

theorem rereadRound_isSome_iff (i : Nat) : (rereadRound frameNum looks reads i).isSome ↔
    queueMaxSize ≤ (looks (2 * i)).dataQueue.length ∨
      (acquireSyncClockTime frameNum (reads i)).1 = dhAvtSuccess ∨
      (looks (2 * i + 1)).mode = .smooth := by
  unfold rereadRound
  by_cases full : (looks (2 * i)).dataQueue.length < queueMaxSize
  · rw [if_pos full]
    split
    case isTrue returned => simp [returned]
    case isFalse goesOn => simp [goesOn, full]
  · rw [if_neg full]
    simp [not_lt.mp full]

end Rounds

/-- The control thread has not left `LooperControl`. -/
def ControllerState.loops (s : ControllerState) : Prop :=
  ∃ pc, s.controlThread = some pc ∧ pc ≠ .exited

/-- While the thread is running and no frame is pushed, the others leave the thread and the
mode, and the queue gets no longer. -/
structure LoopFrame (s t : ControllerState) : Prop where
  dataQueue : t.dataQueue.length ≤ s.dataQueue.length
  mode : t.mode = s.mode
  controlThread : t.controlThread = s.controlThread
  pushed : ∀ caller data, t.callers.get caller ≠ some (.push data)

namespace LoopFrame
variable {s t r : ControllerState} {thre : UInt8}

theorem refl (pushed : ∀ caller data, s.callers.get caller ≠ some (.push data)) : LoopFrame s s :=
  ⟨le_rfl, rfl, rfl, pushed⟩

theorem trans (h : LoopFrame s t) (h' : LoopFrame t r) : LoopFrame s r :=
  ⟨h'.dataQueue.trans h.dataQueue, h'.mode.trans h.mode,
    h'.controlThread.trans h.controlThread, h'.pushed⟩

theorem loops (h : LoopFrame s t) (loops : s.loops) : t.loops := by
  unfold ControllerState.loops
  rwa [h.controlThread]

/-- The caller goes on to what is not a push. -/
theorem goOn (h : LoopFrame s t) {caller : Nat} {pc : Option ControllerPc}
    (other : ∀ data, pc ≠ some (.push data)) : LoopFrame s (t.goOn caller pc) := by
  cases pc with
  | none =>
      refine ⟨h.dataQueue, h.mode, h.controlThread, ?_⟩
      intro caller' data pushes
      have pushes : Store.get (t.callers.erase caller) caller' = some (.push data) := pushes
      rw [Store.get_erase] at pushes
      split at pushes
      · cases pushes
      · exact h.pushed caller' data pushes
  | some pc =>
      refine ⟨h.dataQueue, h.mode, h.controlThread, ?_⟩
      intro caller' data pushes
      have pushes : Store.get (t.callers.set caller pc) caller' = some (.push data) := pushes
      rw [Store.get_set] at pushes
      split at pushes
      · exact other data pushes
      · exact h.pushed caller' data pushes

section Steps
variable (loops : s.loops)
  (pushed : ∀ caller data, s.callers.get caller ≠ some (.push data))
include pushed

theorem of_begin (outside : s.status ≠ .start) (call : ControllerCall) :
    LoopFrame s (s.begin thre call).1 ∧ ∀ data, (s.begin thre call).2 ≠ some (.push data) := by
  cases call with
  | pushData data =>
      refine ⟨⟨le_rfl, rfl, rfl, pushed⟩, ?_⟩
      intro data
      simp [ControllerState.begin, outside]
  | prepareControl =>
      refine ⟨?_, by simp [ControllerState.begin]⟩
      simp only [ControllerState.begin, ControllerState.prepareControl]
      split <;> exact ⟨le_rfl, rfl, rfl, pushed⟩
  | startControl | stopControl | releaseControl =>
      refine ⟨.refl pushed, ?_⟩
      intro data
      simp only [ControllerState.begin]
      split <;> simp

include loops

/-- The thread is neither made nor joined while it is running. -/
theorem of_section {pc : ControllerPc} {next : ControllerState × Option ControllerPc}
    (other : ∀ data, pc ≠ .push data) (hsection : s.section_ thre pc = some next) :
    LoopFrame s next.1 ∧ ∀ data, next.2 ≠ some (.push data) := by
  obtain ⟨looper, loops, running⟩ := loops
  cases pc with
  | push data => exact absurd rfl (other data)
  | storeStart | storeStop | storeRelease =>
      cases hsection
      exact ⟨⟨le_rfl, rfl, rfl, pushed⟩, by simp⟩
  | clearStopped | clearReleased =>
      cases hsection
      exact ⟨⟨Nat.zero_le _, rfl, rfl, pushed⟩, by simp⟩
  | checkHandler | checkControl =>
      cases hsection
      refine ⟨.refl pushed, ?_⟩
      intro data
      simp only
      split <;> simp
  | stopRunner =>
      cases hsection
      refine ⟨?_, by simp⟩
      simp only
      split
      · exact ⟨le_rfl, rfl, rfl, pushed⟩
      · exact .refl pushed
  | createControl =>
      have made : s.controlThread.isSome = true := by rw [loops]; rfl
      simp only [ControllerState.section_, made, if_true] at hsection
      cases hsection
      exact ⟨⟨le_rfl, rfl, rfl, pushed⟩, by simp⟩
  | joinControl =>
      simp only [ControllerState.section_, loops] at hsection
      cases hsection
  | createHandler | waitHandler | joinHandler =>
      simp only [ControllerState.section_] at hsection
      split at hsection <;> cases hsection <;> exact ⟨⟨le_rfl, rfl, rfl, pushed⟩, by simp⟩

theorem of_step {a : ControllerAct} (outside : StepsOutside s a)
    (hs : s.step thre a = some t) : LoopFrame s t := by
  simp only [ControllerState.step] at hs
  split at hs
  case isTrue => cases hs
  case isFalse =>
    cases a with
    | call caller call =>
        simp only at hs
        split at hs
        case isTrue => cases hs
        case isFalse =>
          cases hs
          obtain ⟨frame, other⟩ := of_begin pushed outside.1 call
          exact frame.goOn other
    | next caller =>
        obtain ⟨next, hnext, rfl⟩ := Option.map_eq_some_iff.mp hs
        obtain ⟨pc, hpc, hsection⟩ := Option.bind_eq_some_iff.mp hnext
        obtain ⟨frame, other⟩ :=
          of_section loops pushed (fun data heq => pushed caller data (heq ▸ hpc)) hsection
        exact frame.goOn other
    | handler =>
        simp only [ControllerState.handlerStep] at hs
        split at hs <;> cases hs
        exact ⟨le_rfl, rfl, rfl, pushed⟩
    | control ch => exact absurd rfl (outside.2 ch)

end Steps

theorem of_path {acts : List ControllerAct}
    (path : (controllerSystem thre).Path StepsOutside s acts t) (loops : s.loops)
    (pushed : ∀ caller data, s.callers.get caller ≠ some (.push data)) : LoopFrame s t := by
  induction path with
  | nil => exact .refl pushed
  | cons outside hs _ ih =>
      have frame := of_step loops pushed outside hs
      exact frame.trans (ih (frame.loops loops) frame.pushed)

end LoopFrame

/-- What is left of `LooperControl` in the status `RELEASE`. -/
def LooperPc.remaining : LooperPc → Nat
  | .control _ => 7
  | .balance _ => 6
  | .clear _ => 5
  | .setBalanced _ => 4
  | .post _ => 3
  | .pop _ | .wait => 2
  | .check => 1
  | .exited => 0

/-- The controller is released and its thread has not exited. -/
def ReleasedRunning (s : ControllerState) (_ : ControllerAct) : Prop :=
  s.status = .release ∧ s.controlThread ≠ some .exited

def ControllerAct.isControl : ControllerAct → Bool
  | .control _ => true
  | .call _ _ | .next _ | .handler => false

section Exit
variable {s t : ControllerState} {thre : UInt8}

/-- In the status `RELEASE` no section of the thread waits, and each brings it nearer to its
end. -/
theorem looperSection_release {pc : LooperPc} (released : s.status = .release)
    (running : pc ≠ .exited) (ch : LooperChoice) :
    ∃ next, s.looperSection ch pc = some next ∧ next.2.remaining < pc.remaining := by
  cases pc with
  | exited => exact absurd rfl running
  | check => exact ⟨_, rfl, by simp [released, LooperPc.remaining]⟩
  | wait => exact ⟨_, if_pos released, by simp [LooperPc.remaining]⟩
  | clear data | setBalanced data | pop data =>
      exact ⟨_, rfl, by simp [LooperPc.remaining]⟩
  | control data | balance data | post data =>
      simp only [ControllerState.looperSection]
      repeat' split
      all_goals exact ⟨_, rfl, by simp [LooperPc.remaining]⟩

/-- When the loop has ended, the thread of a released controller exits within seven of its
sections, whatever the others do. -/
theorem control_exits {acts : List ControllerAct} {pc : LooperPc}
    (path : (controllerSystem thre).Path ReleasedRunning s acts t)
    (hpc : s.controlThread = some pc)
    (pushed : ∀ caller data, s.callers.get caller ≠ some (.push data)) :
    acts.countP ControllerAct.isControl ≤ pc.remaining := by
  induction path generalizing pc with
  | nil => exact Nat.zero_le _
  | @cons s t r a acts ok hs _ ih =>
      obtain ⟨released, exited⟩ := ok
      have running : pc ≠ .exited := fun heq => exited (heq ▸ hpc)
      have hs : s.step thre a = some t := hs
      cases a with
      | control ch =>
          simp only [ControllerState.step] at hs
          split at hs
          case isTrue => cases hs
          case isFalse =>
            obtain ⟨next, hsection, nearer⟩ := looperSection_release released running ch
            simp only [hpc, Option.bind_some, hsection, Option.map_some] at hs
            cases hs
            have callers := (looperSection_same hsection).2.2
            have rest : _ ≤ next.2.remaining := ih rfl (callers.symm ▸ pushed)
            rw [List.countP_cons_of_pos rfl]
            omega
      | call _ _ | next _ | handler =>
          have left : s.status ≠ .start := by rw [released]; decide
          have frame : LoopFrame s t := by
            refine LoopFrame.of_step ⟨pc, hpc, running⟩ pushed ⟨left, ?_⟩ hs
            intro ch same
            cases same
          rw [List.countP_cons_of_neg (by simp [ControllerAct.isControl])]
          exact ih (frame.controlThread.trans hpc) frame.pushed

end Exit

section Left
variable {thre : UInt8} {looks : Nat → ControllerState}

theorem LeftStart.running (left : LeftStart thre looks) : (looks 0).loops := by
  obtain ⟨data, loops⟩ := left.loops
  exact ⟨_, loops, nofun⟩

theorem LeftStart.frame (left : LeftStart thre looks) (i : Nat) :
    LoopFrame (looks 0) (looks i) := by
  induction i with
  | zero => exact .refl left.pushed
  | succ i ih =>
      obtain ⟨acts, path⟩ := left.path i
      exact ih.trans (.of_path path (ih.loops left.running) ih.pushed)

/-- Whoever joins the control thread waits for as long as it loops. -/
theorem LeftStart.joinControl (left : LeftStart thre looks) (i : Nat) :
    (looks i).section_ thre .joinControl = none := by
  obtain ⟨data, loops⟩ := left.loops
  simp only [ControllerState.section_, (left.frame i).controlThread, loops]

theorem LeftStart.exits (left : LeftStart thre looks) (i : Nat) (acts : List ControllerAct)
    (t : ControllerState) (path : (controllerSystem thre).Path ReleasedRunning (looks i) acts t) :
    acts.countP ControllerAct.isControl ≤ 7 := by
  obtain ⟨data, loops⟩ := left.loops
  exact control_exits path ((left.frame i).controlThread.trans loops) (left.frame i).pushed

/-- Once the controller has left `START`, the loop ends exactly if the queue is full, or no
synchronization is on, or a look at the clock succeeds; the status ends it not. Until
then `ReleaseControl` waits for the thread, which after the loop exits within seven of its
sections. -/
theorem waitRereadClock_ends_iff (left : LeftStart thre looks) (frameNum : Option UInt32)
    (reads : Nat → ClockRead) :
    ((∃ rounds failed, waitRereadClockFailed frameNum looks reads 0 rounds = some failed) ↔
      queueMaxSize ≤ (looks 0).dataQueue.length ∨ (looks 0).mode = .smooth ∨
        ∃ i, (acquireSyncClockTime frameNum (reads i)).1 = dhAvtSuccess) ∧
      (∀ i, (looks i).section_ thre .joinControl = none) ∧
      ∀ i acts t, (controllerSystem thre).Path ReleasedRunning (looks i) acts t →
        acts.countP ControllerAct.isControl ≤ 7 := by
  refine ⟨?_, left.joinControl, left.exits⟩
  rw [waitRereadClockFailed_ends_iff]
  simp only [Nat.zero_add, rereadRound_isSome_iff]
  constructor
  · rintro ⟨i, full | success | smooth⟩
    · exact .inl (full.trans (left.frame (2 * i)).dataQueue)
    · exact .inr (.inr ⟨i, success⟩)
    · exact .inr (.inl ((left.frame (2 * i + 1)).mode.symm.trans smooth))
  · rintro (full | smooth | ⟨i, success⟩)
    · exact ⟨0, .inl full⟩
    · exact ⟨0, .inr (.inr ((left.frame 1).mode.trans smooth))⟩
    · exact ⟨i, .inr (.inl success)⟩

end Left

/-- While nothing else goes on, the loop finds the same at each look. -/
theorem LeftStart.of_idle {thre : UInt8} {s : ControllerState} (left : s.status ≠ .start)
    (pushed : ∀ caller ∈ s.callers.keys, ∀ data, s.callers.get caller ≠ some (.push data))
    (loops : ∃ data, s.controlThread = some (.control data)) : LeftStart thre (fun _ => s) where
  left := fun _ => left
  pushed := by
    intro caller data pushes
    exact pushed caller ((Store.mem_keys_iff _ _).mpr ⟨_, pushes⟩) data pushes
  loops := loops
  path := fun _ => ⟨[], .nil s⟩

private def syncedFrame : Buffer :=
  { addr := 1, pts := 40
    bufferMeta := some { audioSamplePerFrame := true, mediaStartTime := true } }

/-- A synchronized frame is in hand when `ReleaseControl` comes to join the thread. -/
private def releaseInSync : List ControllerAct :=
  [.call 0 .startControl, .next 0, .next 0, .next 0, .handler, .next 0, .next 0, .next 0,
    .control {}, .call 0 (.pushData (some syncedFrame)), .next 0, .control {},
    .call 0 .releaseControl, .next 0, .next 0, .next 0]

private theorem exists_releaseInSync : ∃ s : ControllerState, (controllerSystem 3).Reachable s ∧
    s.callers.get 0 = some .joinControl ∧ s.status = .release ∧ s.mode = .sync ∧
      s.dataQueue.length = 1 ∧ LeftStart 3 (fun _ => s) := by
  have replayed : ∃ s ∈ (controllerSystem 3).replay (fun _ _ => True) {} releaseInSync,
      s.callers.keys = [0] ∧ s.callers.get 0 = some .joinControl ∧ s.status = .release ∧
        s.mode = .sync ∧ s.dataQueue.length = 1 ∧
        s.controlThread = some (.control syncedFrame) := by
    decide +kernel
  obtain ⟨s, hs, keys, joins, released, sync, length, loops⟩ := replayed
  have reach : (controllerSystem 3).Reachable s :=
    (TransitionSystem.run_of_replay rfl hs).reachable
  refine ⟨s, reach, joins, released, sync, length, .of_idle ?_ ?_ ⟨_, loops⟩⟩
  · rw [released]
    decide
  · rw [keys]
    intro caller mem data pushes
    rw [List.mem_singleton.mp mem, joins] at pushes
    cases pushes

/-- A memory whose first unit is `unit`. -/
private def clockRead (unit : UInt8) : ClockRead where
  sharedMem := { fd := 5, size := 600, name := "sinkSharedMemory" }
  answers := { size := 600 }
  base := fun ptr => if ptr = 0 ∨ ptr = 4 then unit else 0

/-- A clock that can be read at the third look ends the loop. -/
theorem waitRereadClock_ends_atThird : ∃ looks : Nat → ControllerState, LeftStart 3 looks ∧
    ∃ rounds failed, waitRereadClockFailed (some 1) looks
      (fun i => clockRead (if i = 2 then 7 else 0)) 0 rounds = some failed := by
  obtain ⟨s, -, -, -, -, -, left⟩ := exists_releaseInSync
  have success : (acquireSyncClockTime (some 1) (clockRead 7)).1 = dhAvtSuccess := by
    decide +kernel
  exact ⟨_, left, (waitRereadClock_ends_iff left (some 1) _).1.mpr (.inr (.inr ⟨2, success⟩))⟩

/-- The master never gets ready: `ReleaseControl` joins a thread that loops for ever, with
one frame in the queue. -/
theorem exists_release_joins_for_ever : ∃ (s : ControllerState) (reads : Nat → ClockRead),
    (controllerSystem 3).Reachable s ∧ s.callers.get 0 = some .joinControl ∧
      s.status = .release ∧ s.dataQueue.length = 1 ∧ LeftStart 3 (fun _ => s) ∧
      (∀ rounds, waitRereadClockFailed (some 1) (fun _ => s) reads 0 rounds = none) ∧
      s.section_ 3 .joinControl = none := by
  obtain ⟨s, reach, joins, released, sync, length, left⟩ := exists_releaseInSync
  have notReady : (acquireSyncClockTime (some 1) (clockRead 0)).1 = errDhAvtMasterNotReady := by
    decide +kernel
  refine ⟨s, fun _ => clockRead 0, reach, joins, released, length, left, ?_, left.joinControl 0⟩
  intro rounds
  rw [Option.eq_none_iff_forall_ne_some]
  intro failed ends
  obtain ⟨i, returned⟩ := (waitRereadClockFailed_ends_iff 0).mp ⟨rounds, failed, ends⟩
  rw [rereadRound_isSome_iff, length, notReady, sync] at returned
  exact absurd returned (by decide)

end DistributedHardware
