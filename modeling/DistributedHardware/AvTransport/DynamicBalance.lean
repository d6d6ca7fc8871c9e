import DistributedHardware.AvTransport.OutputController
import DistributedHardware.AvTransport.TimeStatistician
import Mathlib.Data.List.TakeWhile

/-!
The dynamic balance of `DScreenOutputController`.

The control thread takes the frames one by one. It looks at the balance before the frame
enters the statistics, and each function it calls is one step, so that the mode may be
switched and the control prepared anew between any two of them. The outcomes of the
checks since the last `PrepareSmooth` are kept beside the members.
-/

namespace DistributedHardware

/-- Where `ControlOutput` is with its frame. -/
inductive ControlOutputPc
  | idle
  | clock (data : TimedBuffer)
  | reread (data : TimedBuffer)
  | balance (data : TimedBuffer)
  | calculate (data : TimedBuffer)
  deriving DecidableEq

/-- A frame may still enter the statistics before the next check. -/
def ControlOutputPc.enters : ControlOutputPc → Prop
  | .reread _ | .calculate _ => True
  | .idle | .clock _ | .balance _ => False

structure BalanceController where
  mode : ControlMode := .smooth
  isInDynamicBalance : Bool := true
  isAllowControl : Bool := true
  dynamicBalanceThre : UInt8 := 0
  dynamicBalanceCount : UInt8 := 0
  averIntervalDiffThre : UInt32 := 0
  pushOnceDiffThre : UInt32 := 0
  timeStampOnceDiffThre : UInt32 := 0
  /-- A null pointer is `none`. -/
  statistician : Option TimeStatistician := none
  controlOutput : ControlOutputPc := .idle
  /-- The frames checked since the last `PrepareSmooth`, the latest first: whether each was
  within balance. -/
  checked : List Bool := []
  deriving DecidableEq

inductive BalanceAct
  /-- The control thread takes a frame. -/
  | frame (data : Option TimedBuffer)
  /-- It goes on; `clockInvalid` is what waiting for the clock ends with. -/
  | control (clockInvalid : Bool)
  | setControlMode (mode : ControlMode)
  | prepareControl
  | releaseControl

namespace OutputController

def prepareSmooth (s : BalanceController) : BalanceController :=
  { s with
    isInDynamicBalance := false, isAllowControl := true, dynamicBalanceThre := 0
    averIntervalDiffThre := 0, pushOnceDiffThre := 0, timeStampOnceDiffThre := 0 }

def prepareSync (s : BalanceController) : BalanceController :=
  { s with isInDynamicBalance := true, isAllowControl := true }

end OutputController

namespace DScreenOutputController

def dynamicBalanceThre : UInt8 := 3
def averIntervalDiffThre : UInt32 := 2000000
def pushOnceDiffThre : UInt32 := 10000000
def timeStampOnceDiffThre : UInt32 := 3000000

def prepareSmooth (s : BalanceController) : BalanceController :=
  { OutputController.prepareSmooth s with
    dynamicBalanceThre, averIntervalDiffThre, pushOnceDiffThre, timeStampOnceDiffThre
    checked := [] }

def prepareSync (s : BalanceController) : BalanceController := OutputController.prepareSync s

end DScreenOutputController

namespace BalanceController
variable (s : BalanceController)

/-- `InitTimeStatistician`. -/
def initTimeStatistician : BalanceController :=
  { s with statistician := some TimeStatistician.clearStatistics }

def prepareControl : BalanceController :=
  match s.mode with
  | .smooth => (DScreenOutputController.prepareSmooth s).initTimeStatistician
  | .sync => (DScreenOutputController.prepareSync s).initTimeStatistician

def setControlMode (mode : ControlMode) : BalanceController := { s with mode }.prepareControl

/-- `llabs(diff) < thre`. -/
def within (diff : Int64) (thre : UInt32) : Bool := diff.abs.toInt < thre.toNat

def checkIsProcessInDynamicBalanceOnce : Bool :=
  match s.statistician with
  | none => false
  | some times =>
      let averIntervalDiff := times.getAverPushInterval - times.getAverTimeStampInterval
      let pushOnceDiff := times.getPushInterval - times.getAverPushInterval
      let timeStampOnceDiff := times.getTimeStampInterval - times.getAverTimeStampInterval
      times.getAverPushInterval ≠ 0 && times.getAverTimeStampInterval ≠ 0 &&
        within averIntervalDiff s.averIntervalDiffThre && within pushOnceDiff s.pushOnceDiffThre &&
        within timeStampOnceDiff s.timeStampOnceDiffThre

/-- The frame is counted, or the count starts anew. -/
def countOnce (once : Bool) : BalanceController :=
  { s with
    dynamicBalanceCount := if once then s.dynamicBalanceCount + 1 else 0
    checked := once :: s.checked }

/-- The queue, which is cleared when the balance is declared, is left out. -/
def checkIsProcessInDynamicBalance : Bool × BalanceController :=
  if s.mode = .sync ∨ s.isInDynamicBalance then (true, s)
  else
    let s := s.countOnce s.checkIsProcessInDynamicBalanceOnce
    if s.dynamicBalanceThre ≤ s.dynamicBalanceCount then
      (true, { s with isInDynamicBalance := true })
    else (false, s)

def calProcessTime (data : TimedBuffer) : Option BalanceController :=
  match s.statistician with
  | none => some s
  | some times =>
      (times.calProcessTime (some data)).map (fun times => { s with statistician := some times })

/-- `ControlOutput`, up to the first look at the clock. -/
def beginControlOutput (data : Option TimedBuffer) : ControlOutputPc :=
  match data with
  | none => .idle
  | some data => if data.pts = 0 ∨ !s.isAllowControl then .idle else .clock data

/-- The sections of `ControlOutput`. The frame enters the statistics on every path. -/
def controlSection (clockInvalid : Bool) : Option BalanceController :=
  match s.controlOutput with
  | .idle => none
  | .clock data =>
      some { s with
        controlOutput := if s.mode = .smooth then .balance data else .reread data }
  | .reread data =>
      some { s with controlOutput := if clockInvalid then .calculate data else .balance data }
  | .balance data =>
      some { s.checkIsProcessInDynamicBalance.2 with controlOutput := .calculate data }
  | .calculate data => (s.calProcessTime data).map (fun s => { s with controlOutput := .idle })

def step : BalanceAct → Option BalanceController
  | .frame data =>
      if s.controlOutput = .idle then some { s with controlOutput := s.beginControlOutput data }
      else none
  | .control clockInvalid => s.controlSection clockInvalid
  | .setControlMode mode => some (s.setControlMode mode)
  | .prepareControl => some s.prepareControl
  | .releaseControl => some { s with statistician := none }

end BalanceController

def balanceSystem : TransitionSystem BalanceController BalanceAct where
  init := fun s => s = {}
  step := BalanceController.step

namespace BalanceController

/-- How many of the last checks in a row were within balance. -/
def streak (s : BalanceController) : Nat := (s.checked.takeWhile id).length

/-- A step of the control thread declares the balance. -/
def Declares (s t : BalanceController) (a : BalanceAct) : Prop :=
  (∃ clockInvalid, a = .control clockInvalid) ∧ s.isInDynamicBalance = false ∧
    t.isInDynamicBalance = true

/-- While the balance is awaited, the count is that of the frames since the reset: until
the first check there is no average, and that check puts the count to zero. -/
structure FreshCount (s : BalanceController) : Prop where
  smooth : s.mode = .smooth
  thre : s.dynamicBalanceThre = DScreenOutputController.dynamicBalanceThre
  unchecked : s.checked = [] → ∀ times ∈ s.statistician, times.getAverPushInterval = 0 ∧
    (s.controlOutput.enters → times.push.lastTime = 0)
  counted : s.checked ≠ [] → s.dynamicBalanceCount.toNat = s.streak ∧
    s.streak < s.dynamicBalanceThre.toNat

section Steps
variable {s t : BalanceController}

/-- The first push time makes no average. -/
theorem averPushInterval_calProcessTime {times times' : TimeStatistician} {data : TimedBuffer}
    (average : times.getAverPushInterval = 0) (first : times.push.lastTime = 0)
    (h : times.calProcessTime (some data) = some times') : times'.getAverPushInterval = 0 := by
  simp only [TimeStatistician.calProcessTime] at h
  split at h
  · cases h
    exact average
  · cases h
    rfl
  case h_3 pushTime _ =>
    obtain ⟨pushed, hpush, hstamp⟩ := Option.bind_eq_some_iff.mp h
    obtain ⟨push, counted, rfl⟩ := Option.map_eq_some_iff.mp hpush
    obtain ⟨stamped, -, rfl⟩ := Option.map_eq_some_iff.mp hstamp
    rw [AverInterval.calAver_first first] at counted
    cases counted
    exact average

theorem checkOnce_of_noAverage (h : ∀ times ∈ s.statistician, times.getAverPushInterval = 0) :
    s.checkIsProcessInDynamicBalanceOnce = false := by
  unfold checkIsProcessInDynamicBalanceOnce
  split
  · rfl
  case h_2 times htimes =>
    rw [h times htimes]
    rfl

theorem prepareControl_fresh (awaited : s.prepareControl.isInDynamicBalance = false) :
    FreshCount s.prepareControl := by
  unfold prepareControl at awaited ⊢
  split at awaited
  case h_1 smooth =>
    refine ⟨smooth, rfl, ?_, fun h => absurd rfl h⟩
    rintro - _ ⟨⟩
    exact ⟨rfl, fun _ => rfl⟩
  case h_2 => cases awaited

/-- A frame that is counted is one more in a row. -/
theorem FreshCount.countOnce (fresh : FreshCount s) :
    let t := s.countOnce s.checkIsProcessInDynamicBalanceOnce
    t.dynamicBalanceCount.toNat = t.streak ∧ t.streak ≤ s.dynamicBalanceThre.toNat := by
  have thre : s.dynamicBalanceThre.toNat = 3 := by rw [fresh.thre]; rfl
  cases once : s.checkIsProcessInDynamicBalanceOnce with
  | false => simp [BalanceController.countOnce, streak]
  | true =>
      have mem : s.checked ≠ [] := by
        intro unchecked
        have noAverage := checkOnce_of_noAverage
          (fun times htimes => (fresh.unchecked unchecked times htimes).1)
        exact absurd (once.symm.trans noAverage) (by decide)
      obtain ⟨counted, below⟩ := fresh.counted mem
      have next : (s.countOnce true).streak = s.streak + 1 := by
        simp [BalanceController.countOnce, streak]
      have added : (s.countOnce true).dynamicBalanceCount.toNat =
          s.dynamicBalanceCount.toNat + 1 := by
        have one : (1 : UInt8).toNat = 1 := rfl
        simp only [BalanceController.countOnce, if_true, UInt8.toNat_add]
        omega
      dsimp only
      omega

/-- What a check does while the balance is awaited. -/
theorem checkIsProcessInDynamicBalance_awaited (smooth : s.mode = .smooth)
    (awaited : s.isInDynamicBalance = false) :
    let t := s.countOnce s.checkIsProcessInDynamicBalanceOnce
    s.dynamicBalanceThre.toNat ≤ t.dynamicBalanceCount.toNat ∧
        s.checkIsProcessInDynamicBalance = (true, { t with isInDynamicBalance := true }) ∨
      t.dynamicBalanceCount.toNat < s.dynamicBalanceThre.toNat ∧
        s.checkIsProcessInDynamicBalance = (false, t) := by
  have unbalanced : ¬ (s.mode = .sync ∨ s.isInDynamicBalance = true) := by
    simp [smooth, awaited]
  unfold checkIsProcessInDynamicBalance
  rw [if_neg unbalanced]
  by_cases reached : s.dynamicBalanceThre ≤
      (s.countOnce s.checkIsProcessInDynamicBalanceOnce).dynamicBalanceCount
  · exact .inl ⟨UInt8.le_iff_toNat_le.mp reached, if_pos reached⟩
  · refine .inr ⟨?_, if_neg reached⟩
    rwa [UInt8.le_iff_toNat_le, not_le] at reached

theorem checkIsProcessInDynamicBalance_balanced (balanced : s.isInDynamicBalance = true) :
    s.checkIsProcessInDynamicBalance = (true, s) :=
  if_pos (.inr balanced)

theorem freshCount_step {a : BalanceAct}
    (fresh : s.isInDynamicBalance = false → FreshCount s) (hs : s.step a = some t) :
    t.isInDynamicBalance = false → FreshCount t := by
  intro awaited
  cases a with
  | prepareControl | setControlMode mode =>
      cases hs
      exact prepareControl_fresh awaited
  | releaseControl =>
      cases hs
      have fresh := fresh awaited
      exact ⟨fresh.smooth, fresh.thre, by rintro - _ ⟨⟩, fresh.counted⟩
  | frame data =>
      simp only [step] at hs
      split at hs
      case isFalse => cases hs
      case isTrue =>
        cases hs
        have fresh := fresh awaited
        refine ⟨fresh.smooth, fresh.thre, ?_, fresh.counted⟩
        intro unchecked times htimes
        refine ⟨(fresh.unchecked unchecked times htimes).1, ?_⟩
        intro enters
        simp only [beginControlOutput] at enters
        split at enters
        · exact enters.elim
        · split at enters <;> exact enters.elim
  | control clockInvalid =>
      simp only [step, controlSection] at hs
      split at hs
      case h_1 => cases hs
      case h_2 data hpc =>
        cases hs
        have fresh := fresh awaited
        refine ⟨fresh.smooth, fresh.thre, ?_, fresh.counted⟩
        intro unchecked times htimes
        refine ⟨(fresh.unchecked unchecked times htimes).1, ?_⟩
        simp only [fresh.smooth, if_true]
        exact False.elim
      case h_3 data hpc =>
        cases hs
        have fresh := fresh awaited
        refine ⟨fresh.smooth, fresh.thre, ?_, fresh.counted⟩
        intro unchecked times htimes
        obtain ⟨average, first⟩ := fresh.unchecked unchecked times htimes
        exact ⟨average, fun _ => first (by rw [hpc]; trivial)⟩
      case h_4 data hpc =>
        cases hs
        cases before : s.isInDynamicBalance with
        | true =>
            rw [checkIsProcessInDynamicBalance_balanced before] at awaited
            exact absurd (before.symm.trans awaited) (by decide)
        | false =>
            have fresh := fresh before
            obtain ⟨-, declared⟩ | ⟨below, goesOn⟩ :=
              checkIsProcessInDynamicBalance_awaited fresh.smooth before
            · rw [declared] at awaited
              cases awaited
            · rw [goesOn]
              have counted := fresh.countOnce
              dsimp only at counted
              refine ⟨fresh.smooth, fresh.thre, ?_, ?_⟩
              · rintro ⟨⟩
              · intro _
                exact ⟨counted.1, counted.1 ▸ below⟩
      case h_5 data hpc =>
        obtain ⟨s', hcal, rfl⟩ := Option.map_eq_some_iff.mp hs
        simp only [calProcessTime] at hcal
        split at hcal
        case h_1 none_ =>
          cases hcal
          have fresh := fresh awaited
          refine ⟨fresh.smooth, fresh.thre, ?_, fresh.counted⟩
          intro _ times htimes
          rw [none_] at htimes
          cases htimes
        case h_2 times htimes =>
          obtain ⟨times', entered, rfl⟩ := Option.map_eq_some_iff.mp hcal
          have fresh := fresh awaited
          refine ⟨fresh.smooth, fresh.thre, ?_, fresh.counted⟩
          rintro unchecked _ ⟨⟩
          obtain ⟨average, first⟩ := fresh.unchecked unchecked times htimes
          refine ⟨averPushInterval_calProcessTime average (first ?_) entered, False.elim⟩
          rw [hpc]
          trivial

theorem freshCount_of_reachable (reach : balanceSystem.Reachable s) :
    s.isInDynamicBalance = false → FreshCount s := by
  apply reach.invariant (I := fun s => s.isInDynamicBalance = false → FreshCount s)
  case initial =>
    rintro _ rfl awaited
    cases awaited
  case preserved => exact fun _ _ _ fresh hs => freshCount_step fresh hs

/-- Only a check declares the balance. -/
theorem Declares.of_step {a : BalanceAct} (declares : Declares s t a) (hs : s.step a = some t) :
    ∃ data, t = { s.checkIsProcessInDynamicBalance.2 with controlOutput := .calculate data } := by
  obtain ⟨⟨clockInvalid, rfl⟩, awaited, declared⟩ := declares
  have kept (h : t.isInDynamicBalance = s.isInDynamicBalance) : False := by
    rw [declared, awaited] at h
    cases h
  simp only [step, controlSection] at hs
  split at hs
  case h_1 => cases hs
  case h_2 | h_3 =>
    cases hs
    exact (kept rfl).elim
  case h_4 data hpc =>
    cases hs
    exact ⟨data, rfl⟩
  case h_5 data hpc =>
    obtain ⟨s', hcal, rfl⟩ := Option.map_eq_some_iff.mp hs
    refine (kept ?_).elim
    simp only [calProcessTime] at hcal
    split at hcal
    case h_1 =>
      cases hcal
      rfl
    case h_2 =>
      obtain ⟨times, -, rfl⟩ := Option.map_eq_some_iff.mp hcal
      rfl

/-- A streak is what the history starts with. -/
theorem take_of_le_streak {n : Nat} (le : n ≤ s.streak) :
    s.checked.take n = List.replicate n true := by
  rw [List.eq_replicate_iff]
  have streak_le : s.streak ≤ s.checked.length := (List.takeWhile_sublist id).length_le
  refine ⟨List.length_take_of_le (le.trans streak_le), ?_⟩
  intro once mem
  have first : s.checked.take n <+: s.checked.takeWhile id :=
    List.prefix_of_prefix_length_le (List.take_prefix n _) (List.takeWhile_prefix id)
      ((List.length_take_le n _).trans le)
  exact List.mem_takeWhile_imp (first.subset mem)

end Steps

/-- One frame through `ControlOutput`, 16 ms after the one before. -/
def outputs (n : Nat) : List BalanceAct :=
  let time := Int64.ofNat (16000000 * n)
  [.frame (some { pts := time, bufferMeta := some (some time) }), .control false,
    .control false, .control false]

end BalanceController
end DistributedHardware
