import Mathlib.Algebra.Order.Ring.Nat
import Mathlib.Data.List.Chain
import Mathlib.Tactic.Common

/-!
`TimeStatistician`: the average intervals of the push times and of the time stamps.

Each of the two keeps the last value and the sum and the number of the intervals so far.
A last value of zero stands for none. A division by zero is `none`.
-/

namespace DistributedHardware

/-- The members for one kind of times: `index` is `pushIndex_` or `timeStampIndex_`, and so
on. -/
structure AverInterval where
  index : Int32 := 0
  averInterval : Int64 := 0
  lastTime : Int64 := 0
  time : Int64 := 0
  intervalSum : Int64 := 0
  interval : Int64 := 0
  deriving DecidableEq

namespace AverInterval
variable (a : AverInterval)

/-- `CalAverPushInterval` and `CalAverTimeStampInterval`. -/
def calAver (time : Int64) : Option AverInterval :=
  let a := { a with time, interval := time - a.lastTime }
  if a.lastTime = 0 then some { a with lastTime := time }
  else
    let index := a.index + 1
    let intervalSum := a.intervalSum + a.interval
    if index = 0 then none
    else
      some
        { a with
          index, intervalSum, averInterval := intervalSum / index.toInt64, lastTime := time }

end AverInterval

/-- What the statistics read of a buffer: its time stamp and, where it has a meta, the push
time in it. -/
structure TimedBuffer where
  pts : Int64
  bufferMeta : Option (Option Int64)
  deriving DecidableEq

structure TimeStatistician where
  push : AverInterval := {}
  timeStamp : AverInterval := {}
  deriving DecidableEq

namespace TimeStatistician
variable (s : TimeStatistician)

def clearStatistics : TimeStatistician := {}

def calAverPushInterval (pushTime : Int64) : Option TimeStatistician :=
  (s.push.calAver pushTime).map (fun push => { s with push })

def calAverTimeStampInterval (timeStamp : Int64) : Option TimeStatistician :=
  (s.timeStamp.calAver timeStamp).map (fun timeStamp => { s with timeStamp })

/-- A null pointer is `none`. -/
def calProcessTime (data : Option TimedBuffer) : Option TimeStatistician :=
  match data with
  | none => some s
  | some data =>
      match data.bufferMeta with
      | none => some s
      | some none => some clearStatistics
      | some (some pushTime) =>
          (s.calAverPushInterval pushTime).bind (·.calAverTimeStampInterval data.pts)

def getAverPushInterval : Int64 := s.push.averInterval
def getAverTimeStampInterval : Int64 := s.timeStamp.averInterval
def getPushInterval : Int64 := s.push.interval
def getTimeStampInterval : Int64 := s.timeStamp.interval

/-- The statistics after the frames. -/
def calFrames (frames : List TimedBuffer) : Option TimeStatistician :=
  frames.foldlM (fun s data => s.calProcessTime (some data)) s

end TimeStatistician

section Intervals
variable {a : AverInterval} {n : Nat}

/-- Fewer than 2^31 intervals are counted without an overflow. -/
theorem toInt_succ {index : Int32} (counted : index.toInt = n) (fits : n + 1 < 2 ^ 31) :
    (index + 1).toInt = n + 1 := by
  rw [Int32.toInt_add, counted, Int32.toInt_one, Int.bmod_eq_of_le]
  · omega
  · omega

theorem AverInterval.calAver_first {time : Int64} (first : a.lastTime = 0) : a.calAver time =
    some { a with time, interval := time - a.lastTime, lastTime := time } :=
  if_pos first

theorem AverInterval.calAver_later (time : Int64) (later : a.lastTime ≠ 0)
    (nonzero : a.index + 1 ≠ 0) : a.calAver time =
      some
        { time, interval := time - a.lastTime, lastTime := time, index := a.index + 1
          intervalSum := a.intervalSum + (time - a.lastTime)
          averInterval := (a.intervalSum + (time - a.lastTime)) / (a.index + 1).toInt64 } :=
  (if_neg later).trans (if_neg nonzero)

/-- The first time is noted, and another one counted; nothing is divided by zero. -/
theorem AverInterval.calAver_of_fits (time : Int64) (counted : a.index.toInt = n)
    (fits : n + 1 < 2 ^ 31) :
    a.lastTime = 0 ∧ a.calAver time =
        some { a with time, interval := time - a.lastTime, lastTime := time } ∨
      a.lastTime ≠ 0 ∧ (a.index + 1).toInt = n + 1 ∧ a.calAver time =
        some
          { time, interval := time - a.lastTime, lastTime := time, index := a.index + 1
            intervalSum := a.intervalSum + (time - a.lastTime)
            averInterval := (a.intervalSum + (time - a.lastTime)) / (a.index + 1).toInt64 } := by
  have next := toInt_succ counted fits
  by_cases first : a.lastTime = 0
  · exact .inl ⟨first, calAver_first first⟩
  · have nonzero : a.index + 1 ≠ 0 := by
      intro zero
      rw [zero, Int32.toInt_zero] at next
      omega
    exact .inr ⟨first, next, calAver_later time first nonzero⟩

/-- The intervals of `n + 1` times, the first of them `first` and the last one `last`. -/
structure AverInterval.Spans (a : AverInterval) (first last : Int64) (n : Nat) : Prop where
  index : a.index.toInt = n
  lastTime : a.lastTime = last
  intervalSum : a.intervalSum = last - first
  averInterval : a.averInterval = a.intervalSum / a.index.toInt64

/-- The sum of the intervals telescopes. -/
theorem AverInterval.Spans.calAver {first last : Int64} (spans : a.Spans first last n)
    (time : Int64) (nonzero : last ≠ 0) (fits : n + 1 < 2 ^ 31) :
    ∃ b, a.calAver time = some b ∧ b.Spans first time (n + 1) := by
  obtain ⟨zero, -⟩ | ⟨-, next, heq⟩ := a.calAver_of_fits time spans.index fits
  · exact absurd (spans.lastTime.symm.trans zero) nonzero
  · refine ⟨_, heq, ?_⟩
    constructor
    case index => exact next
    case lastTime => rfl
    case intervalSum =>
      simp only [spans.intervalSum, spans.lastTime]
      grind
    case averInterval => rfl

theorem toInt_averInterval {first last : Int64} (spans : a.Spans first last n)
    (nonneg : 0 ≤ first) (increasing : first ≤ last) :
    a.averInterval.toInt = (last.toInt - first.toInt) / n := by
  have bound := Int64.toInt_lt last
  have difference : (last - first).toInt = last.toInt - first.toInt :=
    Int64.toInt_sub_of_le _ _ nonneg increasing
  have notMinus : a.index.toInt64 ≠ -1 := by
    intro minus
    have negative := congrArg Int64.toInt minus
    rw [Int32.toInt_toInt64, spans.index] at negative
    have value : (-1 : Int64).toInt = -1 := rfl
    omega
  rw [spans.averInterval, Int64.toInt_div_of_ne_right _ _ notMinus, spans.intervalSum, difference,
    Int32.toInt_toInt64, spans.index]
  rw [Int64.le_iff_toInt_le] at increasing
  exact Int.tdiv_eq_ediv_of_nonneg (by omega)

/-- The first time that is not zero spans no interval yet. -/
theorem AverInterval.spans_first (time : Int64) :
    ({ time, interval := time - 0, lastTime := time } : AverInterval).Spans time time 0 := by
  constructor
  case index => rfl
  case lastTime => rfl
  case intervalSum => simp
  case averInterval =>
    show (0 : Int64) = 0 / (0 : Int32).toInt64
    decide

end Intervals

/-- A frame as `PushData` queues it: its time stamp, and its push time in the meta. -/
def TimedBuffer.pushed (frame : Int64 × Int64) : TimedBuffer :=
  { pts := frame.1, bufferMeta := some (some frame.2) }

namespace TimeStatistician
variable {s : TimeStatistician}

theorem calFrames_cons (data : TimedBuffer) (frames : List TimedBuffer) :
    s.calFrames (data :: frames) = (s.calProcessTime (some data)).bind (·.calFrames frames) :=
  List.foldlM_cons

theorem calProcessTime_eq {frame : Int64 × Int64} {push timeStamp : AverInterval}
    (pushed : s.push.calAver frame.2 = some push)
    (stamped : s.timeStamp.calAver frame.1 = some timeStamp) :
    s.calProcessTime (some (TimedBuffer.pushed frame)) = some { push, timeStamp } := by
  simp only [calProcessTime, TimedBuffer.pushed, calAverPushInterval, pushed,
    calAverTimeStampInterval, Option.map_some, Option.bind_some, stamped]

theorem calFrames_append (frames : List TimedBuffer) (data : TimedBuffer) :
    s.calFrames (frames ++ [data]) = (s.calFrames frames).bind (·.calProcessTime (some data)) := by
  simp only [calFrames, List.foldlM_append, List.foldlM_cons, List.foldlM_nil, bind_pure]
  rfl

/-- The push times are counted with each frame, and the time stamps on their own. -/
theorem calProcessTime_pushed {m : Nat} {timeStamp : AverInterval} (frame : Int64 × Int64)
    (counted : s.push.index.toInt = m) (fits : m + 1 < 2 ^ 31)
    (stamped : s.timeStamp.calAver frame.1 = some timeStamp) :
    ∃ t, s.calProcessTime (some (TimedBuffer.pushed frame)) = some t ∧ t.timeStamp = timeStamp ∧
      ∃ m' ≤ m + 1, t.push.index.toInt = m' := by
  obtain ⟨-, pushed⟩ | ⟨-, next, pushed⟩ := s.push.calAver_of_fits frame.2 counted fits
  · exact ⟨_, calProcessTime_eq pushed stamped, rfl, m, by omega, counted⟩
  · exact ⟨_, calProcessTime_eq pushed stamped, rfl, m + 1, by omega, next⟩

/-- From a frame with a time stamp on, each later frame is one interval more. -/
theorem calFrames_spans {first last : Int64} {m n : Nat} (rest : List (Int64 × Int64))
    (spans : s.timeStamp.Spans first last n) (counted : s.push.index.toInt = m)
    (positive : 0 < last) (increasing : (last :: rest.map Prod.fst).Pairwise (· < ·))
    (fits : m + rest.length < 2 ^ 31) (fits' : n + rest.length < 2 ^ 31) :
    ∃ t, s.calFrames (rest.map TimedBuffer.pushed) = some t ∧
      t.timeStamp.Spans first ((last :: rest.map Prod.fst).getLast (List.cons_ne_nil _ _))
        (n + rest.length) ∧
      ∃ m : Nat, t.push.index.toInt = m := by
  induction rest generalizing s last m n with
  | nil => exact ⟨s, rfl, spans, m, counted⟩
  | cons frame rest ih =>
      rw [List.length_cons] at fits fits'
      obtain ⟨timeStamp, stamped, next⟩ :=
        spans.calAver frame.1 (Int64.ne_of_lt positive).symm (by omega)
      obtain ⟨t, ht, rfl, m', le, counted'⟩ :=
        calProcessTime_pushed frame counted (by omega) stamped
      rw [List.map_cons, List.pairwise_cons] at increasing
      have later : 0 < frame.1 := Int64.lt_trans positive (increasing.1 frame.1 List.mem_cons_self)
      obtain ⟨r, hr, end_⟩ := ih next counted' later increasing.2 (by omega) (by omega)
      refine ⟨r, ?_, ?_, end_.2⟩
      · rw [List.map_cons, calFrames_cons, ht, Option.bind_some]
        exact hr
      · simp only [List.map_cons, List.getLast_cons_cons, List.length_cons]
        rw [← Nat.add_assoc, Nat.add_right_comm]
        exact end_.1

theorem le_getLast {first : Int64} {times : List Int64} (later : ∀ time ∈ times, first < time) :
    first ≤ (first :: times).getLast (List.cons_ne_nil _ _) := by
  cases times with
  | nil => exact Int64.le_refl first
  | cons time times =>
      rw [List.getLast_cons_cons]
      exact Int64.le_of_lt (later _ (List.getLast_mem _))

theorem getLast_stamps (first second : Int64 × Int64) (rest : List (Int64 × Int64)) :
    ((first :: second :: rest).map Prod.fst).getLast (List.cons_ne_nil _ _) =
      (rest.getLastD second).1 := by
  rw [List.getLast_map, List.getLast_cons_cons, List.getLast_eq_getLastD]

section First
variable {first : Int64 × Int64} {rest : List (Int64 × Int64)}

/-- The first frame is noted, unless its time stamp is zero. -/
theorem calProcessTime_first (first : Int64 × Int64) :
    ∃ t, clearStatistics.calProcessTime (some (TimedBuffer.pushed first)) = some t ∧
      t.push.index = 0 ∧
      t.timeStamp = { time := first.1, interval := first.1 - 0, lastTime := first.1 } :=
  ⟨_, rfl, rfl, rfl⟩

/-- From a first time stamp that is positive, the average is that of the whole span. -/
theorem calFrames_positive (positive : 0 < first.1)
    (increasing : ((first :: rest).map Prod.fst).Pairwise (· < ·))
    (fits : rest.length < 2 ^ 31) :
    ∃ t, clearStatistics.calFrames ((first :: rest).map TimedBuffer.pushed) = some t ∧
      t.timeStamp.Spans first.1 (((first :: rest).map Prod.fst).getLast (List.cons_ne_nil _ _))
        rest.length ∧
      ∃ m : Nat, t.push.index.toInt = m := by
  obtain ⟨s, hs, counted, noted⟩ := calProcessTime_first first
  have spans : s.timeStamp.Spans first.1 first.1 0 := noted ▸ AverInterval.spans_first first.1
  have counted : s.push.index.toInt = (0 : Nat) := by rw [counted]; rfl
  rw [List.map_cons] at increasing
  obtain ⟨t, ht, spans, counted⟩ :=
    calFrames_spans rest spans counted positive increasing (by omega) (by omega)
  refine ⟨t, ?_, ?_, counted⟩
  · rw [List.map_cons, calFrames_cons, hs, Option.bind_some]
    exact ht
  · simpa only [List.map_cons, Nat.zero_add] using spans

/-- A first time stamp of zero is not noted: the second one takes its place. -/
theorem calFrames_zero {second : Int64 × Int64} (zero : first.1 = 0)
    (increasing : ((first :: second :: rest).map Prod.fst).Pairwise (· < ·))
    (fits : rest.length + 1 < 2 ^ 31) :
    ∃ t, clearStatistics.calFrames ((first :: second :: rest).map TimedBuffer.pushed) = some t ∧
      t.timeStamp.Spans second.1
        (((first :: second :: rest).map Prod.fst).getLast (List.cons_ne_nil _ _))
        rest.length := by
  obtain ⟨s, hs, counted, noted⟩ := calProcessTime_first first
  have counted : s.push.index.toInt = (0 : Nat) := by rw [counted]; rfl
  have unset : s.timeStamp.lastTime = 0 := by rw [noted]; exact zero
  simp only [List.map_cons, List.pairwise_cons] at increasing
  have positive : 0 < second.1 := zero ▸ increasing.1 second.1 List.mem_cons_self
  have stamped : s.timeStamp.calAver second.1 =
      some { time := second.1, interval := second.1 - 0, lastTime := second.1 } := by
    rw [AverInterval.calAver_first unset, noted]
    simp only [zero]
  obtain ⟨s', hs', noted, m, le, counted⟩ :=
    calProcessTime_pushed second counted (by omega) stamped
  have spans : s'.timeStamp.Spans second.1 second.1 0 := noted ▸ AverInterval.spans_first second.1
  obtain ⟨t, ht, spans, -⟩ := calFrames_spans rest spans counted positive
    (List.pairwise_cons.mpr increasing.2) (by omega) (by omega)
  refine ⟨t, ?_, ?_⟩
  · rw [List.map_cons, calFrames_cons, hs, Option.bind_some, List.map_cons, calFrames_cons, hs',
      Option.bind_some]
    exact ht
  · simpa only [List.map_cons, List.getLast_cons_cons, Nat.zero_add] using spans

end First

/-- The average interval of `n + 1` frames, `n` at least one, is what their time stamps span,
divided by `n`. A first time stamp of zero does not count, and with one more frame only
the average is zero. -/
theorem averTimeStampInterval_telescopes (first second : Int64 × Int64)
    (rest : List (Int64 × Int64)) (nonneg : 0 ≤ first.1)
    (increasing : ((first :: second :: rest).map Prod.fst).Pairwise (· < ·))
    (fits : rest.length + 1 < 2 ^ 31) :
    ∃ t, clearStatistics.calFrames ((first :: second :: rest).map TimedBuffer.pushed) = some t ∧
      t.getAverTimeStampInterval.toInt =
        if first.1 ≠ 0 then
          ((rest.getLastD second).1.toInt - first.1.toInt) / ↑(rest.length + 1)
        else if rest ≠ [] then
          ((rest.getLastD second).1.toInt - second.1.toInt) / rest.length
        else 0 := by
  rw [← getLast_stamps first]
  have ordered := List.pairwise_cons.mp increasing
  by_cases zero : first.1 = 0
  · obtain ⟨t, ht, spans⟩ := calFrames_zero zero increasing fits
    have positive : 0 < second.1 := zero ▸ ordered.1 second.1 List.mem_cons_self
    have average := toInt_averInterval spans (Int64.le_of_lt positive)
      (le_getLast (List.pairwise_cons.mp ordered.2).1)
    refine ⟨t, ht, ?_⟩
    rw [if_neg (not_not.mpr zero), getAverTimeStampInterval, average]
    cases rest with
    | nil => exact Int.ediv_zero _
    | cons frame rest => rfl
  · obtain ⟨t, ht, spans, -⟩ :=
      calFrames_positive (Int64.lt_of_le_of_ne nonneg (Ne.symm zero)) increasing fits
    have average := toInt_averInterval spans nonneg (le_getLast ordered.1)
    refine ⟨t, ht, ?_⟩
    rw [if_pos zero, getAverTimeStampInterval, average]
    rfl

/-- Three frames, 20 ms apart. -/
theorem averTimeStampInterval_threeFrames :
    ∃ t, clearStatistics.calFrames
        ([(20, 5), (40, 26), (60, 44)].map TimedBuffer.pushed) = some t ∧
      t.getAverTimeStampInterval.toInt = 20 := by
  obtain ⟨t, ht, average⟩ :=
    averTimeStampInterval_telescopes (20, 5) (40, 26) [(60, 44)] (by decide) (by decide) (by decide)
  exact ⟨t, ht, average⟩

/-- The interval after 2^31 - 1 of them overflows the count, and the average has the wrong
sign. -/
theorem calProcessTime_overflows {first last : Int64} {m : Nat}
    (spans : s.timeStamp.Spans first last (2 ^ 31 - 1)) (nonzero : last ≠ 0)
    (counted : s.push.index.toInt = m) (frame : Int64 × Int64) :
    ∃ t, s.calProcessTime (some (TimedBuffer.pushed frame)) = some t ∧
      t.getAverTimeStampInterval = (frame.1 - first) / -2147483648 := by
  have full : s.timeStamp.index = Int32.maxValue := Int32.toInt_inj.mp spans.index
  have stamped := AverInterval.calAver_later frame.1 (spans.lastTime ▸ nonzero)
    (full ▸ by decide)
  have pushed : ∃ push, s.push.calAver frame.2 = some push := by
    by_cases noted : s.push.lastTime = 0
    · exact ⟨_, AverInterval.calAver_first noted⟩
    · refine ⟨_, AverInterval.calAver_later _ noted ?_⟩
      intro zero
      have minus : s.push.index = -1 := by grind
      have value : (-1 : Int32).toInt = -1 := rfl
      rw [minus, value] at counted
      omega
  obtain ⟨push, pushed⟩ := pushed
  have sum : s.timeStamp.intervalSum + (frame.1 - s.timeStamp.lastTime) = frame.1 - first := by
    rw [spans.intervalSum, spans.lastTime]
    grind
  have count : (s.timeStamp.index + 1).toInt64 = -2147483648 := by
    rw [full]
    decide
  rw [sum, count] at stamped
  exact ⟨_, calProcessTime_eq pushed stamped, rfl⟩

def countingFrame (i : Nat) : Int64 × Int64 := (Int64.ofNat (i + 1), 1)

private theorem countingFrame_lt {i j : Nat} (lt : i < j) (fits : j < 2 ^ 31) :
    (countingFrame i).1 < (countingFrame j).1 := by
  rw [countingFrame, countingFrame, Int64.lt_iff_toInt_lt, Int64.toInt_ofNat_of_lt,
    Int64.toInt_ofNat_of_lt]
  · omega
  · omega
  · omega

private theorem calFrames_counting {n : Nat} (fits : n < 2 ^ 31) :
    ∃ t, clearStatistics.calFrames
        ((List.range (n + 1)).map (fun i => TimedBuffer.pushed (countingFrame i))) = some t ∧
      t.timeStamp.Spans 1 (Int64.ofNat (n + 1)) n ∧ ∃ m : Nat, t.push.index.toInt = m := by
  have frames : (List.range (n + 1)).map countingFrame =
      countingFrame 0 :: (List.range n).map (fun i => countingFrame (i + 1)) := by
    rw [List.range_succ_eq_map, List.map_cons, List.map_map]
    rfl
  have increasing : (((List.range (n + 1)).map countingFrame).map Prod.fst).Pairwise (· < ·) := by
    rw [List.pairwise_map, List.pairwise_map]
    refine List.pairwise_lt_range.imp_of_mem ?_
    intro i j _ mem lt
    exact countingFrame_lt lt (by have := List.mem_range.mp mem; omega)
  rw [frames] at increasing
  obtain ⟨t, ht, spans, counted⟩ :=
    calFrames_positive (by decide) increasing (by simpa using fits)
  simp only [← frames, List.map_map] at ht
  simp only [← frames, List.getLast_map, List.getLast_range, Nat.add_sub_cancel,
    List.length_map, List.length_range] at spans
  exact ⟨t, ht, spans, counted⟩

/-- Frames at 0, 10 and 30 have the average 20, and not 30 / 2; and 2^31 + 1 frames one
apart have the average -1. -/
theorem exists_average_not_of_span :
    (∃ t, clearStatistics.calFrames ([(0, 5), (10, 16), (30, 37)].map TimedBuffer.pushed) = some t ∧
      t.getAverTimeStampInterval = 20 ∧ t.getAverTimeStampInterval ≠ (30 - 0) / 2) ∧
    ∃ t, clearStatistics.calFrames
        ((List.range (2 ^ 31 + 1)).map (fun i => TimedBuffer.pushed (countingFrame i))) = some t ∧
      t.getAverTimeStampInterval = -1 := by
  refine ⟨by decide, ?_⟩
  obtain ⟨s, hs, spans, m, counted⟩ := calFrames_counting (n := 2 ^ 31 - 1) (by omega)
  have nonzero : Int64.ofNat (2 ^ 31 - 1 + 1) ≠ 0 := by decide
  obtain ⟨t, ht, average⟩ := calProcessTime_overflows spans nonzero counted
    (countingFrame (2 ^ 31))
  refine ⟨t, ?_, average⟩
  rw [List.range_succ, List.map_append, List.map_singleton, calFrames_append]
  exact (congrArg (Option.bind · _) hs).trans ht

end TimeStatistician
end DistributedHardware
