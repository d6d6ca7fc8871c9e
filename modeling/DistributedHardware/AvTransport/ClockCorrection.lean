import Mathlib.Algebra.Order.Ring.Int
import Mathlib.Data.Int.ConditionallyCompleteOrder
import Mathlib.Order.ConditionallyCompleteLattice.Finset
import DistributedHardware.AvTransport.OutputController

/-!
The corrections of `OutputController` to the time it sleeps before a frame.

Each mode compares the clocks of the frame and of the master, and changes `sleep_` where
they are too far apart. The integers are unbounded; the smooth mode's thresholds are
computed in floating point and are arguments.
-/

namespace DistributedHardware

def invalidInterval : Int := 0

/-- The members that the corrections read; only `sleep` is changed. -/
structure ClockControl where
  sleep : Int
  clockTime : Int
  sleepThre : Int
  waitClockThre : Int
  trackClockThre : Int
  vFront : Int
  vBack : Int
  aFront : Int
  aBack : Int
  devClockDiff : Int
  timeStampBaseline : Int
  clockBaseline : Int

/-- What `statistician_` has: the last interval of the time stamps and their average. -/
structure TimeStatistics where
  timeStampInterval : Int
  averTimeStampInterval : Int

/-- The thresholds for an average interval. -/
structure SmoothThresholds where
  waitClockThre : Int → Int
  trackClockThre : Int → Int

namespace ClockControl

def vcts (vTimeStamp : Int) (c : ClockControl) : Int :=
  if 0 < c.sleep then vTimeStamp - c.sleep else vTimeStamp

def smoothOffset (vTimeStamp : Int) (c : ClockControl) : Int :=
  c.vcts vTimeStamp - c.timeStampBaseline - (c.clockTime - c.clockBaseline)

def syncOffset (vTimeStamp : Int) (c : ClockControl) : Int :=
  (c.vcts vTimeStamp - c.vFront - c.vBack) - (c.clockTime - c.aFront - c.aBack) - c.devClockDiff

def handleSmoothTime (thresholds : SmoothThresholds) (statistician : Option TimeStatistics)
    (data : Buffer) (c : ClockControl) : ClockControl :=
  match statistician with
  | none => c
  | some times =>
      if times.timeStampInterval = invalidInterval then c
      else if times.averTimeStampInterval = invalidInterval then c
      else
        let waitClockThre := thresholds.waitClockThre times.averTimeStampInterval
        let trackClockThre := thresholds.trackClockThre times.averTimeStampInterval
        let offset := c.smoothOffset data.pts
        if waitClockThre < offset ∨ offset < -trackClockThre then
          { c with sleep := c.sleep + offset }
        else c

def handleSyncTime (data : Option Buffer) (c : ClockControl) : ClockControl :=
  match data with
  | none => c
  | some data =>
      if data.bufferMeta.isNone then c
      else
        let offset := c.syncOffset data.pts
        let append := (c.trackClockThre + c.waitClockThre).tdiv 2
        if c.waitClockThre < offset then
          { c with sleep := c.sleep + (offset - c.waitClockThre + append) }
        else if offset < -c.trackClockThre then
          { c with sleep := c.sleep + (offset - c.trackClockThre - append) }
        else c

def clampSleep (c : ClockControl) : ClockControl :=
  let sleep := if c.sleepThre < c.sleep then c.sleepThre else c.sleep
  { c with sleep := if sleep < 0 then 0 else sleep }

/-- `SyncClock`, up to the wait for `sleep_`. -/
def syncClock (mode : ControlMode) (thresholds : SmoothThresholds)
    (statistician : Option TimeStatistics) (data : Buffer) (c : ClockControl) : ClockControl :=
  match mode with
  | .smooth => (c.handleSmoothTime thresholds statistician data).clampSleep
  | .sync => (c.handleSyncTime (some data)).clampSleep

section
variable {thresholds : SmoothThresholds} {statistician : Option TimeStatistics} {data : Buffer}
  {c : ClockControl}

theorem sleepThre_handleSmoothTime :
    (c.handleSmoothTime thresholds statistician data).sleepThre = c.sleepThre := by
  unfold handleSmoothTime
  cases statistician with
  | none => rfl
  | some times =>
      simp only
      split_ifs <;> rfl

theorem sleepThre_handleSyncTime : (c.handleSyncTime (some data)).sleepThre = c.sleepThre := by
  unfold handleSyncTime
  simp only
  split_ifs <;> rfl

/-- Whatever the correction, the wait is within bounds. -/
theorem sleep_syncClock (mode : ControlMode) (nonneg : 0 ≤ c.sleepThre) :
    (c.syncClock mode thresholds statistician data).sleep ∈ Set.Icc 0 c.sleepThre := by
  have clamped (d : ClockControl) (same : d.sleepThre = c.sleepThre) :
      d.clampSleep.sleep ∈ Set.Icc 0 c.sleepThre := by
    rw [Set.mem_Icc]
    simp only [clampSleep]
    split_ifs <;> omega
  cases mode with
  | smooth => exact clamped _ sleepThre_handleSmoothTime
  | sync => exact clamped _ sleepThre_handleSyncTime

end

end ClockControl

/-- The change from one sleep to another takes an offset outside the band into the band,
and there is none for an offset inside. -/
structure Corrects (wait track offset : Int) (sleep sleep' : Int) : Prop where
  outside : offset ∉ Set.Icc (-track) wait → offset - (sleep' - sleep) ∈ Set.Icc (-track) wait
  inside : offset ∈ Set.Icc (-track) wait → sleep' = sleep

section Corrections
variable {wait track offset : Int}

theorem corrects_smooth (hwait : 0 ≤ wait) (htrack : 0 ≤ track) (sleep : Int) :
    Corrects wait track offset sleep
      (if wait < offset ∨ offset < -track then sleep + offset else sleep) := by
  constructor
  · intro out
    have far : wait < offset ∨ offset < -track := by
      rw [Set.mem_Icc] at out
      omega
    rw [if_pos far, Set.mem_Icc]
    omega
  · intro near
    rw [Set.mem_Icc] at near
    exact if_neg (by omega)

/-- An early frame is brought into the band; a late one is left `track + append` ahead. -/
theorem corrects_sync_iff (hwait : 0 ≤ wait) (htrack : 0 ≤ track) (sleep : Int) :
    Corrects wait track offset sleep
        (if wait < offset then sleep + (offset - wait + (track + wait).tdiv 2)
        else if offset < -track then sleep + (offset - track - (track + wait).tdiv 2)
        else sleep) ↔
      (offset < -track → track + (track + wait) / 2 ≤ wait) := by
  rw [Int.tdiv_eq_ediv_of_nonneg (by omega)]
  by_cases early : wait < offset
  · rw [if_pos early]
    refine iff_of_true ?_ (fun late => by omega)
    refine ⟨fun _ => ?_, fun near => absurd near.2 (by omega)⟩
    rw [Set.mem_Icc]
    omega
  rw [if_neg early]
  by_cases late : offset < -track
  · rw [if_pos late]
    have residual : offset - (sleep + (offset - track - (track + wait) / 2) - sleep) =
        track + (track + wait) / 2 := by omega
    constructor
    · intro corrects _
      have inside := corrects.outside (fun near => absurd near.1 (by omega))
      rw [residual] at inside
      exact inside.2
    · intro small
      refine ⟨fun _ => ?_, fun near => absurd near.1 (by omega)⟩
      rw [residual, Set.mem_Icc]
      exact ⟨by omega, small late⟩
  · rw [if_neg late]
    refine iff_of_true ?_ (fun h => absurd h late)
    refine ⟨fun out => absurd ?_ out, fun _ => rfl⟩
    rw [Set.mem_Icc]
    omega

end Corrections

namespace ClockControl

/-- What the corrections do to `sleep_` over the frames and statistics they can meet. -/
structure NeverOvershoots (thresholds : SmoothThresholds) (times : TimeStatistics) (data : Buffer)
    (c : ClockControl) : Prop where
  smooth : times.timeStampInterval ≠ invalidInterval →
    times.averTimeStampInterval ≠ invalidInterval →
    Corrects (thresholds.waitClockThre times.averTimeStampInterval)
      (thresholds.trackClockThre times.averTimeStampInterval) (c.smoothOffset data.pts) c.sleep
      (c.handleSmoothTime thresholds (some times) data).sleep
  sync : data.bufferMeta.isSome = true →
    Corrects c.waitClockThre c.trackClockThre (c.syncOffset data.pts) c.sleep
      (c.handleSyncTime (some data)).sleep

section
variable {thresholds : SmoothThresholds} {times : TimeStatistics} {data : Buffer} {c : ClockControl}

theorem sleep_handleSmoothTime (interval : times.timeStampInterval ≠ invalidInterval)
    (average : times.averTimeStampInterval ≠ invalidInterval) :
    (c.handleSmoothTime thresholds (some times) data).sleep =
      if thresholds.waitClockThre times.averTimeStampInterval < c.smoothOffset data.pts ∨
          c.smoothOffset data.pts < -thresholds.trackClockThre times.averTimeStampInterval then
        c.sleep + c.smoothOffset data.pts
      else c.sleep := by
  simp only [handleSmoothTime, interval, average, if_false]
  split_ifs <;> rfl

theorem sleep_handleSyncTime (present : data.bufferMeta.isSome = true) :
    (c.handleSyncTime (some data)).sleep =
      if c.waitClockThre < c.syncOffset data.pts then c.sleep + (c.syncOffset data.pts -
        c.waitClockThre + (c.trackClockThre + c.waitClockThre).tdiv 2)
      else if c.syncOffset data.pts < -c.trackClockThre then c.sleep + (c.syncOffset data.pts -
        c.trackClockThre - (c.trackClockThre + c.waitClockThre).tdiv 2)
      else c.sleep := by
  have given : data.bufferMeta.isNone = false := by
    rw [← Bool.not_eq_true, Option.isNone_iff_eq_none, ← ne_eq, Option.ne_none_iff_isSome]
    exact present
  simp only [handleSyncTime, given, Bool.false_eq_true, if_false]
  split_ifs <;> rfl

end

/-- No correction overshoots exactly if a frame that is late by the clocks of the sync
mode finds the waiting threshold wide enough. -/
theorem neverOvershoots_iff {thresholds : SmoothThresholds} {times : TimeStatistics}
    {data : Buffer} {c : ClockControl} (hwait : 0 ≤ c.waitClockThre)
    (htrack : 0 ≤ c.trackClockThre)
    (hsmooth : 0 ≤ thresholds.waitClockThre times.averTimeStampInterval ∧
      0 ≤ thresholds.trackClockThre times.averTimeStampInterval) :
    c.NeverOvershoots thresholds times data ↔
      (data.bufferMeta.isSome = true → c.syncOffset data.pts < -c.trackClockThre →
        c.trackClockThre + (c.trackClockThre + c.waitClockThre) / 2 ≤ c.waitClockThre) := by
  constructor
  · intro never present
    have corrects := never.sync present
    rw [sleep_handleSyncTime present] at corrects
    exact (corrects_sync_iff hwait htrack c.sleep).mp corrects
  · intro wide
    constructor
    case smooth =>
      intro interval average
      rw [sleep_handleSmoothTime interval average]
      exact corrects_smooth hsmooth.1 hsmooth.2 c.sleep
    case sync =>
      intro present
      rw [sleep_handleSyncTime present]
      exact (corrects_sync_iff hwait htrack c.sleep).mpr (wide present)

/-- The constants of the screen, in nanoseconds. -/
private def screenControl : ClockControl where
  sleep := 0
  clockTime := 1000000000
  sleepThre := 1000000000
  waitClockThre := 125000000
  trackClockThre := 45000000
  vFront := 0
  vBack := 0
  aFront := 0
  aBack := 0
  devClockDiff := 0
  timeStampBaseline := 0
  clockBaseline := 0

private def lateFrame : Buffer :=
  { addr := 1, pts := 800000000,
    bufferMeta := some { audioSamplePerFrame := true, mediaStartTime := true } }

private def onTimeFrame : Buffer := { lateFrame with pts := 1000000000 }

private def smoothThresholds : SmoothThresholds where
  waitClockThre := fun average => average / 10
  trackClockThre := fun average => average / 5

private def screenTimes : TimeStatistics :=
  { timeStampInterval := 16000000, averTimeStampInterval := 16000000 }

theorem neverOvershoots_onTime : screenControl.NeverOvershoots smoothThresholds screenTimes
    onTimeFrame ↔
      (onTimeFrame.bufferMeta.isSome = true →
        screenControl.syncOffset onTimeFrame.pts < -screenControl.trackClockThre →
        screenControl.trackClockThre +
          (screenControl.trackClockThre + screenControl.waitClockThre) / 2 ≤
            screenControl.waitClockThre) :=
  neverOvershoots_iff (by decide) (by decide) (by decide)

/-- A frame that is 200 ms late is left 130 ms early, beyond the 125 ms that are waited
for. -/
theorem exists_late_frame_overshot :
    screenControl.syncOffset lateFrame.pts = -200000000 ∧
      screenControl.syncOffset lateFrame.pts -
        ((screenControl.handleSyncTime (some lateFrame)).sleep - screenControl.sleep) = 130000000 ∧
      ¬ screenControl.NeverOvershoots smoothThresholds screenTimes lateFrame := by
  refine ⟨by decide, by decide, ?_⟩
  intro never
  exact absurd ((never.sync rfl).outside (fun near => absurd near.1 (by decide))).2 (by decide)

end ClockControl
end DistributedHardware
