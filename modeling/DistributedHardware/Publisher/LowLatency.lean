import Mathlib.Data.Finset.Card
import DistributedHardware.Library.Transition
import DistributedHardware.Version.VersionInfo

/-!
The switches of `LowLatency` and its timer.

`DHTimer` has an event handler from its start to its stop. Each start posts a task to it, which
posts itself again whenever it has run; a stop takes all of them out and drops the handler.
-/

namespace DistributedHardware

def maxSwitchSize : Nat := 256

def modeEnable : Int := 0
def modeDisable : Int := 1

structure DHTimer where
  /-- `eventHandler_`, with the number of tasks under `timerId_` that it holds. -/
  eventHandler : Option Nat := none
  deriving DecidableEq

namespace DHTimer
variable (timer : DHTimer)

/-- Waits until the thread of the timer has made the handler. -/
def initTimer : DHTimer := { timer with eventHandler := some (timer.eventHandler.getD 0) }

def postTask : DHTimer := { timer with eventHandler := timer.eventHandler.map (· + 1) }

def startTimer : DHTimer := timer.initTimer.postTask

def releaseTimer (_ : DHTimer) : DHTimer := { eventHandler := none }

/-- A task waits for its time. -/
def isRunning : Bool := timer.eventHandler.any (0 < ·)

@[simp] theorem isRunning_startTimer : timer.startTimer.isRunning = true := by
  simp [startTimer, initTimer, postTask, isRunning]

@[simp] theorem isRunning_releaseTimer : timer.releaseTimer.isRunning = false := rfl

end DHTimer

structure LowLatency where
  lowLatencySwitchSet : Finset DhType := ∅
  lowLatencyTimer : DHTimer := {}
  /-- The modes given to `ReportData`, the last one first. -/
  reported : List Int := []

namespace LowLatency
variable (s : LowLatency)

def reportData (mode : Int) : LowLatency := { s with reported := mode :: s.reported }

/-- `DHTimer::StopTimer`, whose `HandleStopTimer` restores the normal latency. -/
def stopTimer : LowLatency :=
  { s with lowLatencyTimer := s.lowLatencyTimer.releaseTimer }.reportData modeDisable

/-- `DHTimer::Execute`, where a task of the timer is due. -/
def execute : Option LowLatency :=
  match s.lowLatencyTimer.eventHandler with
  | some (n + 1) =>
      let timer : DHTimer := { s.lowLatencyTimer with eventHandler := some n }
      some ({ s with lowLatencyTimer := timer.postTask }.reportData modeEnable)
  | _ => none

def isInvalidType (dhType : DhType) : Bool := dhType ≤ DhType.unknown || maxDh ≤ dhType

def enableLowLatency (dhType : DhType) : LowLatency :=
  if isInvalidType dhType then s
  else
    let started :=
      if s.lowLatencySwitchSet = ∅ then
        { s with lowLatencyTimer := s.lowLatencyTimer.startTimer }
      else s
    if maxSwitchSize ≤ started.lowLatencySwitchSet.card then started
    else { started with lowLatencySwitchSet := insert dhType started.lowLatencySwitchSet }

def disableLowLatency (dhType : DhType) : LowLatency :=
  if isInvalidType dhType then s
  else
    let erased := { s with lowLatencySwitchSet := s.lowLatencySwitchSet.erase dhType }
    if erased.lowLatencySwitchSet = ∅ then erased.stopTimer else erased

def closeLowLatency : LowLatency :=
  { s with lowLatencySwitchSet := ∅ }.reportData modeDisable

end LowLatency

inductive LowLatencyAct
  | enableLowLatency (dhType : DhType)
  | disableLowLatency (dhType : DhType)
  | closeLowLatency
  | execute

def LowLatency.step (s : LowLatency) : LowLatencyAct → Option LowLatency
  | .enableLowLatency dhType => some (s.enableLowLatency dhType)
  | .disableLowLatency dhType => some (s.disableLowLatency dhType)
  | .closeLowLatency => some s.closeLowLatency
  | .execute => s.execute

def lowLatencySystem : TransitionSystem LowLatency LowLatencyAct where
  init := fun s => s = {}
  step := LowLatency.step

namespace LowLatency
variable {s t : LowLatency}

/-- The timer runs while a hardware type is switched to low latency. -/
def TimerFollows (s : LowLatency) : Prop :=
  s.lowLatencyTimer.isRunning = true ↔ s.lowLatencySwitchSet.Nonempty

/-- `CloseLowLatency` finds no switch to clear. -/
def closesNone (s : LowLatency) : LowLatencyAct → Prop
  | .closeLowLatency => s.lowLatencySwitchSet = ∅
  | _ => True

/-- The first switch starts the timer; a set with a switch in it stays one. -/
theorem TimerFollows.enableLowLatency (h : s.TimerFollows) (dhType : DhType) :
    (s.enableLowLatency dhType).TimerFollows := by
  unfold LowLatency.enableLowLatency
  split
  · exact h
  · by_cases empty : s.lowLatencySwitchSet = ∅
    · simp [empty, maxSwitchSize, TimerFollows]
    · have running : s.lowLatencyTimer.isRunning = true :=
        h.mpr (Finset.nonempty_iff_ne_empty.mpr empty)
      simp only [empty, if_false]
      split
      · exact h
      · simp [TimerFollows, running]

/-- The timer is stopped with the last switch. -/
theorem TimerFollows.disableLowLatency (h : s.TimerFollows) (dhType : DhType) :
    (s.disableLowLatency dhType).TimerFollows := by
  unfold LowLatency.disableLowLatency
  split
  · exact h
  · by_cases last : s.lowLatencySwitchSet.erase dhType = ∅
    · simp [last, TimerFollows, stopTimer, reportData]
    · have remaining := Finset.nonempty_iff_ne_empty.mpr last
      have running : s.lowLatencyTimer.isRunning = true :=
        h.mpr (remaining.mono (Finset.erase_subset _ _))
      simp [last, TimerFollows, running, remaining]

/-- A task that has run is posted again. -/
theorem TimerFollows.execute (h : s.TimerFollows) (hs : s.execute = some t) :
    t.TimerFollows := by
  unfold LowLatency.execute at hs
  split at hs
  · next n tasks =>
    cases hs
    rw [TimerFollows, DHTimer.isRunning, tasks] at h
    simpa [TimerFollows, reportData, DHTimer.postTask, DHTimer.isRunning] using h
  · cases hs

/-- `CloseLowLatency` leaves the timer as it is. -/
theorem timerFollows_closeLowLatency_iff (h : s.TimerFollows) :
    s.closeLowLatency.TimerFollows ↔ s.lowLatencySwitchSet = ∅ := by
  rw [TimerFollows] at h
  simp [TimerFollows, closeLowLatency, reportData, h, Finset.not_nonempty_iff_eq_empty]

theorem timerFollows_step_iff {a : LowLatencyAct} (h : s.TimerFollows) (hs : s.step a = some t) :
    t.TimerFollows ↔ s.closesNone a := by
  cases a with
  | enableLowLatency dhType =>
      cases hs
      exact iff_of_true (h.enableLowLatency dhType) trivial
  | disableLowLatency dhType =>
      cases hs
      exact iff_of_true (h.disableLowLatency dhType) trivial
  | closeLowLatency =>
      cases hs
      exact timerFollows_closeLowLatency_iff h
  | execute => exact iff_of_true (h.execute hs) trivial

end LowLatency

/-- In exactly the runs that close low latency with no switch left does the timer follow the
switches. -/
theorem timerFollows_iff_closesNone {acts : List LowLatencyAct} {s : LowLatency} :
    lowLatencySystem.RunIn LowLatency.TimerFollows acts s ↔
      lowLatencySystem.Run LowLatency.closesNone acts s := by
  apply TransitionSystem.runIn_iff_run
  · rintro _ rfl
    simp [LowLatency.TimerFollows, DHTimer.isRunning]
  · exact fun _ _ _ _ => LowLatency.timerFollows_step_iff

/-- After the close the timer runs with no switch, and turns low latency on again. -/
theorem exists_running_closed : ∃ s, lowLatencySystem.Reachable s ∧ ¬ s.TimerFollows ∧
    s.lowLatencySwitchSet = ∅ ∧ s.reported = [modeEnable, modeDisable] := by
  have replayed : ∃ s ∈ lowLatencySystem.replay (fun _ _ => True) {}
      [.enableLowLatency DhType.camera, .closeLowLatency, .execute],
      s.lowLatencyTimer.isRunning = true ∧ s.lowLatencySwitchSet = ∅ ∧
        s.reported = [modeEnable, modeDisable] := by
    decide +kernel
  obtain ⟨s, hs, running, closed, reported⟩ := replayed
  refine ⟨s, (TransitionSystem.run_of_replay rfl hs).reachable, ?_, closed, reported⟩
  intro follows
  simpa [closed] using follows.mp running

end DistributedHardware
