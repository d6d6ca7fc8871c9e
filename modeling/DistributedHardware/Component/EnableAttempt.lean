import DistributedHardware.Common.Ids
import DistributedHardware.Library.Store
import DistributedHardware.Library.Transition

/-!
The attempts of `ComponentManager::Enable` and `Disable` and their callbacks.

Each call makes one `ComponentEnable` or `ComponentDisable` object, and its first
attempt and its retries wait on the same `status_`, which nothing resets. A
callback for any of the attempts may come at any time. The runs in which each
attempt is judged by its own callback are those in which no wait ends on a status
that the attempt's own callback does not confirm.
-/

namespace DistributedHardware

/-- `std::numeric_limits<int32_t>::max()`: no callback has come. -/
def int32Max : Int := 2147483647

def enableRetryMaxTimes : Nat := 3

def disableRetryMaxTimes : Nat := 3

/-- The two calls differ in their error codes and in what ends the retries. -/
inductive Direction
  | enable | disable
  deriving DecidableEq

namespace Direction

def retryMaxTimes : Direction → Nat
  | .enable => enableRetryMaxTimes
  | .disable => disableRetryMaxTimes

def registerFailed : Direction → Int
  | .enable => errDhFwkComponentRegisterFailed
  | .disable => errDhFwkComponentUnregisterFailed

def timeout : Direction → Int
  | .enable => errDhFwkComponentEnableTimeout
  | .disable => errDhFwkComponentDisableTimeout

def failed : Direction → Int
  | .enable => errDhFwkComponentEnableFailed
  | .disable => errDhFwkComponentDisableFailed

/-- Enabling is not retried once the device is offline, disabling once it is online. -/
def givesUp : Direction → Bool → Bool
  | .enable, online => !online
  | .disable, online => online

theorem codes_ne (d : Direction) : d.registerFailed ≠ dhFwkSuccess ∧ d.timeout ≠ dhFwkSuccess ∧
    d.failed ≠ dhFwkSuccess ∧ d.registerFailed ≠ d.failed ∧ d.timeout ≠ d.failed := by
  cases d <;> decide

end Direction

/-- Where a call is; its attempts are numbered from 0. -/
inductive CallPc
  | registering (attempt : Nat)
  | waiting (attempt : Nat)
  | checkOnline (attempt : Nat)
  | returned (ret : Int)
  deriving DecidableEq

/-- A call with its object. -/
structure ComponentCall where
  direction : Direction
  /-- `status_` of the object. -/
  status : Int := int32Max
  pc : CallPc := .registering 0
  /-- The result of the first attempt, which a call whose retries fail returns. -/
  result : Int := dhFwkSuccess
  /-- What the callback of each attempt has reported while that attempt lasted. -/
  reported : Store Nat Int := ∅
  /-- What each attempt has returned. -/
  results : Store Nat Int := ∅

inductive CallAct
  | registered (ok : Bool)
  | callback (attempt : Nat) (networkId dhId : String) (status : Int)
  | wake
  | expire
  | isDeviceOnline (online : Bool)

namespace ComponentCall

def inProgress (c : ComponentCall) : Option Nat :=
  match c.pc with
  | .registering k | .waiting k => some k
  | _ => none

/-- The attempts whose callback the component holds. -/
def hasBegun (c : ComponentCall) (attempt : Nat) : Bool :=
  match c.pc with
  | .registering k | .waiting k | .checkOnline k => attempt ≤ k
  | .returned _ => (c.results.get attempt).isSome

/-- An attempt returns to the loop of the call. -/
def attemptEnds (c : ComponentCall) (attempt : Nat) (ret : Int) : ComponentCall :=
  let result := if attempt = 0 then ret else c.result
  { c with
    results := c.results.set attempt ret
    result
    pc :=
      if ret = dhFwkSuccess then .returned dhFwkSuccess
      else if attempt < c.direction.retryMaxTimes then .checkOnline attempt
      else .returned result }

/-- `OnRegisterResult` and `OnUnregisterResult`. -/
def onResult (c : ComponentCall) (attempt : Nat) (networkId dhId : String) (status : Int) :
    ComponentCall :=
  if !isIdLengthValid networkId || !isIdLengthValid dhId then c
  else
    { c with
      status
      reported :=
        if c.inProgress = some attempt then c.reported.set attempt status else c.reported }

/-- The result that `ComponentEnable::Enable` and `ComponentDisable::Disable` read off
`status_`. -/
def verdict (c : ComponentCall) : Int :=
  if c.status = dhFwkSuccess then dhFwkSuccess else c.direction.failed

def step (c : ComponentCall) : CallAct → Option ComponentCall
  | .registered ok =>
      match c.pc with
      | .registering k =>
          some (if ok then { c with pc := .waiting k }
            else c.attemptEnds k c.direction.registerFailed)
      | _ => none
  | .callback attempt networkId dhId status =>
      if c.hasBegun attempt then some (c.onResult attempt networkId dhId status) else none
  -- `wait_for` evaluates its predicate once more when the time is over
  | .wake =>
      match c.pc with
      | .waiting k => if c.status ≠ int32Max then some (c.attemptEnds k c.verdict) else none
      | _ => none
  | .expire =>
      match c.pc with
      | .waiting k =>
          if c.status = int32Max then some (c.attemptEnds k c.direction.timeout) else none
      | _ => none
  | .isDeviceOnline online =>
      match c.pc with
      | .checkOnline k =>
          some { c with
            pc := if c.direction.givesUp online then .returned c.result
              else .registering (k + 1) }
      | _ => none

/-- Each attempt that has ended returned success exactly if its own callback reported
success before, and failed on a status only if its own callback reported a failure. -/
structure JudgedByOwn (c : ComponentCall) : Prop where
  success : ∀ k ret, c.results.get k = some ret →
    (ret = dhFwkSuccess ↔ c.reported.get k = some dhFwkSuccess)
  failed : ∀ k, c.results.get k = some c.direction.failed →
    ∃ status, c.reported.get k = some status ∧ status ≠ dhFwkSuccess

/-- Where a wait ends on `status_`, the attempt's own callback has come and said the
same; where an attempt ends otherwise, its callback has not reported success. -/
def endsOnOwn (c : ComponentCall) : CallAct → Bool
  | .registered false | .expire => c.inProgress.all (fun k => c.reported.get k ≠ some dhFwkSuccess)
  | .wake =>
      c.inProgress.all (fun k => (c.reported.get k).any (fun own =>
        (own = dhFwkSuccess) == (c.status = dhFwkSuccess)))
  | _ => true

/-- Attempts that have not ended have no result. -/
def Unended (c : ComponentCall) : Prop :=
  match c.pc with
  | .registering k | .waiting k => ∀ j, k ≤ j → c.results.get j = none
  | .checkOnline k => ∀ j, k < j → c.results.get j = none
  | .returned _ => True

/-- What an attempt's result says of its own callback. -/
def Confirmed (c : ComponentCall) (k : Nat) (ret : Int) : Prop :=
  (ret = dhFwkSuccess ↔ c.reported.get k = some dhFwkSuccess) ∧
    (ret = c.direction.failed → ∃ status, c.reported.get k = some status ∧ status ≠ dhFwkSuccess)

/-- A step of a call: an attempt ends, begins to wait or is begun, or a callback comes. -/
inductive Steps (c : ComponentCall) : CallAct → ComponentCall → Prop
  | ends {a : CallAct} {k : Nat} {ret : Int} : c.inProgress = some k →
      (c.endsOnOwn a = true ↔ c.Confirmed k ret) → Steps c a (c.attemptEnds k ret)
  | waits {k : Nat} : c.pc = .registering k → Steps c (.registered true) { c with pc := .waiting k }
  | reports {attempt : Nat} {networkId dhId : String} {status : Int} :
      c.hasBegun attempt = true →
      Steps c (.callback attempt networkId dhId status) (c.onResult attempt networkId dhId status)
  | retries {k : Nat} {online : Bool} : c.pc = .checkOnline k →
      Steps c (.isDeviceOnline online) { c with
        pc := if c.direction.givesUp online then .returned c.result else .registering (k + 1) }

/-- An attempt that ends without a status returns neither success nor failure. -/
theorem confirmed_iff_of_error {c : ComponentCall} {k : Nat} {ret : Int}
    (hne : ret ≠ dhFwkSuccess) (hne' : ret ≠ c.direction.failed) :
    c.Confirmed k ret ↔ c.reported.get k ≠ some dhFwkSuccess := by
  simp [Confirmed, hne, hne']

theorem confirmed_verdict_iff {c : ComponentCall} {k : Nat} :
    c.Confirmed k c.verdict ↔
      (c.reported.get k).any (fun own =>
        (own = dhFwkSuccess) == (c.status = dhFwkSuccess)) = true := by
  have hne := c.direction.codes_ne.2.2.1
  unfold Confirmed verdict
  by_cases hstatus : c.status = dhFwkSuccess
  · cases c.reported.get k <;> simp [hstatus, hne.symm]
  · cases c.reported.get k <;> simp [hstatus, hne]

theorem step_cases {c c' : ComponentCall} {a : CallAct} (h : c.step a = some c') :
    Steps c a c' := by
  obtain ⟨hreg, htime, -, hreg', htime'⟩ := c.direction.codes_ne
  cases a with
  | registered ok =>
      cases hpc : c.pc with
      | registering k =>
          have hin : c.inProgress = some k := by simp [inProgress, hpc]
          simp only [step, hpc, Option.some.injEq] at h
          subst h
          cases ok with
          | true => exact .waits hpc
          | false =>
              refine .ends hin ?_
              rw [confirmed_iff_of_error hreg hreg']
              simp [endsOnOwn, hin]
      | _ => simp [step, hpc] at h
  | callback attempt networkId dhId status =>
      simp only [step] at h
      split at h
      · cases h
        exact .reports ‹_›
      · cases h
  | wake =>
      cases hpc : c.pc with
      | waiting k =>
          have hin : c.inProgress = some k := by simp [inProgress, hpc]
          simp only [step, hpc] at h
          split at h
          · cases h
            refine .ends hin ?_
            rw [confirmed_verdict_iff, endsOnOwn, hin, Option.all_some]
          · cases h
      | _ => simp [step, hpc] at h
  | expire =>
      cases hpc : c.pc with
      | waiting k =>
          have hin : c.inProgress = some k := by simp [inProgress, hpc]
          simp only [step, hpc] at h
          split at h
          · cases h
            refine .ends hin ?_
            rw [confirmed_iff_of_error htime htime']
            simp [endsOnOwn, hin]
          · cases h
      | _ => simp [step, hpc] at h
  | isDeviceOnline online =>
      cases hpc : c.pc with
      | checkOnline k =>
          simp only [step, hpc, Option.some.injEq] at h
          subst h
          exact .retries hpc
      | _ => simp [step, hpc] at h

theorem Unended.of_inProgress {c : ComponentCall} (h : c.Unended) {k : Nat}
    (hin : c.inProgress = some k) : ∀ j, k ≤ j → c.results.get j = none := by
  cases hpc : c.pc with
  | registering k' | waiting k' =>
      obtain rfl : k' = k := by simpa [inProgress, hpc] using hin
      simpa [Unended, hpc] using h
  | _ => simp [inProgress, hpc] at hin

theorem Unended.step {c c' : ComponentCall} {a : CallAct} (h : c.Unended)
    (hs : c.step a = some c') : c'.Unended := by
  cases step_cases hs with
  | @ends _ k ret hin =>
      have hnone := h.of_inProgress hin
      unfold Unended attemptEnds
      by_cases hsucc : ret = dhFwkSuccess
      · simp [hsucc]
      · by_cases hk : k < c.direction.retryMaxTimes
        · simp only [hsucc, hk, if_true, if_false]
          intro j hj
          rw [Store.get_set, if_neg (by omega)]
          exact hnone j (by omega)
        · simp [hsucc, hk]
  | waits hpc => simpa [Unended, hpc] using h
  | reports =>
      unfold onResult
      split
      · exact h
      · exact h
  | @retries k online hpc =>
      have hnone : ∀ j, k < j → c.results.get j = none := by simpa [Unended, hpc] using h
      unfold Unended
      cases c.direction.givesUp online with
      | true => trivial
      | false => exact fun j hj => hnone j (by omega)

/-- No attempt of a new call has ended. -/
theorem judgedByOwn_new (direction : Direction) : JudgedByOwn { direction } := by
  constructor
  case success =>
    intro k ret hk
    simp at hk
  case failed =>
    intro k hk
    simp at hk

/-- An attempt's result is judged when it ends and stays so. -/
theorem judgedByOwn_attemptEnds_iff {c : ComponentCall} {k : Nat} {ret : Int}
    (h : c.JudgedByOwn) :
    (c.attemptEnds k ret).JudgedByOwn ↔ c.Confirmed k ret := by
  constructor
  · intro h'
    have hk : (c.attemptEnds k ret).results.get k = some ret := by simp [attemptEnds]
    exact ⟨h'.success k ret hk, fun heq => h'.failed k (heq ▸ hk)⟩
  · intro hconf
    constructor
    case success =>
      intro j r hj
      rw [attemptEnds, Store.get_set] at hj
      split at hj
      case isTrue heq =>
        cases hj
        exact heq ▸ hconf.1
      case isFalse => exact h.success j r hj
    case failed =>
      intro j hj
      rw [attemptEnds, Store.get_set] at hj
      split at hj
      case isTrue heq => exact heq ▸ hconf.2 (Option.some.inj hj)
      case isFalse => exact h.failed j hj

/-- A callback changes what an ended attempt's callback has reported in time no more. -/
theorem judgedByOwn_onResult {c : ComponentCall} (hu : c.Unended) (h : c.JudgedByOwn)
    (attempt : Nat) (networkId dhId : String) (status : Int) :
    (c.onResult attempt networkId dhId status).JudgedByOwn := by
  unfold onResult
  split
  case isTrue => exact h
  case isFalse =>
    have same (k : Nat) (ret : Int) (hk : c.results.get k = some ret) :
        (if c.inProgress = some attempt then c.reported.set attempt status
          else c.reported).get k = c.reported.get k := by
      split
      case isTrue hin =>
        have hne : k ≠ attempt := by
          rintro rfl
          rw [hu.of_inProgress hin k (Nat.le_refl k)] at hk
          cases hk
        rw [Store.get_set, if_neg hne]
      case isFalse => rfl
    constructor
    case success =>
      intro k ret hk
      simp only [same k ret hk]
      exact h.success k ret hk
    case failed =>
      intro k hk
      simp only [same k _ hk]
      exact h.failed k hk

theorem judgedByOwn_step_iff {c c' : ComponentCall} {a : CallAct} (hu : c.Unended)
    (h : c.JudgedByOwn) (hs : c.step a = some c') : c'.JudgedByOwn ↔ c.endsOnOwn a = true := by
  cases step_cases hs with
  | ends _ hiff =>
      rw [hiff]
      exact judgedByOwn_attemptEnds_iff h
  | waits | retries => exact iff_of_true ⟨h.success, h.failed⟩ rfl
  | reports => exact iff_of_true (judgedByOwn_onResult hu h _ _ _ _) rfl

end ComponentCall

/-- The calls for one hardware, each with an object of its own. -/
abbrev Calls := Store Nat ComponentCall

inductive CallsAct
  | begin (n : Nat) (direction : Direction)
  | act (n : Nat) (a : CallAct)

def callsSystem : TransitionSystem Calls CallsAct where
  init := fun s => s = ∅
  step := fun s a =>
    match a with
    | .begin n direction => if (s.get n).isNone then some (s.set n { direction }) else none
    | .act n a => ((s.get n).bind (fun c => c.step a)).map (fun c => s.set n c)

namespace Calls

def JudgedByOwn (s : Calls) : Prop := ∀ n c, s.get n = some c → c.JudgedByOwn

def endsOnOwn (s : Calls) : CallsAct → Bool
  | .begin _ _ => true
  | .act n a => (s.get n).all (fun c => c.endsOnOwn a)

theorem unended {s : Calls} (h : callsSystem.Reachable s) {n : Nat} {c : ComponentCall}
    (hc : s.get n = some c) : c.Unended := by
  revert n c
  refine h.invariant (I := fun s => ∀ {n : Nat} {c : ComponentCall}, s.get n = some c → c.Unended)
    ?_ ?_
  · rintro _ rfl n c hc
    cases hc
  · intro s a t hi hs n c hc
    cases a with
    | begin m direction =>
        simp only [callsSystem] at hs
        split at hs <;> cases hs
        rw [Store.get_set] at hc
        split at hc
        · cases hc
          exact fun _ _ => rfl
        · exact hi hc
    | act m a =>
        obtain ⟨c', hc', rfl⟩ := Option.map_eq_some_iff.mp hs
        obtain ⟨c₀, hc₀, hstep⟩ := Option.bind_eq_some_iff.mp hc'
        rw [Store.get_set] at hc
        split at hc
        · cases hc
          exact (hi hc₀).step hstep
        · exact hi hc

theorem judgedByOwn_step_iff {s t : Calls} {a : CallsAct} (reach : callsSystem.Reachable s)
    (h : s.JudgedByOwn) (hs : callsSystem.step s a = some t) :
    t.JudgedByOwn ↔ s.endsOnOwn a = true := by
  cases a with
  | begin m direction =>
      simp only [callsSystem] at hs
      split at hs <;> cases hs
      refine iff_of_true (fun n c hc => ?_) rfl
      rw [Store.get_set] at hc
      split at hc
      · cases hc
        exact ComponentCall.judgedByOwn_new direction
      · exact h n c hc
  | act m a =>
      obtain ⟨c', hc', rfl⟩ := Option.map_eq_some_iff.mp hs
      obtain ⟨c, hc, hstep⟩ := Option.bind_eq_some_iff.mp hc'
      have hiff := c.judgedByOwn_step_iff (unended reach hc) (h m c hc) hstep
      rw [endsOnOwn, hc, Option.all_some, ← hiff]
      constructor
      · exact fun ht => ht m c' (by simp)
      · intro ht n d hd
        rw [Store.get_set] at hd
        split at hd
        · cases hd
          exact ht
        · exact h n d hd

end Calls

section LateCallback

/-- The callback of the first attempt comes after its timeout, while the first retry
waits. -/
private def lateCallback : List CallsAct :=
  [.begin 0 .enable, .act 0 (.registered true), .act 0 .expire, .act 0 (.isDeviceOnline true),
    .act 0 (.registered true), .act 0 (.callback 0 "nA" "camera" dhFwkSuccess), .act 0 .wake]

/-- The callback of the first attempt reports a failure; the first retry does not wait
for its own. -/
private def staleStatus : List CallsAct :=
  [.begin 0 .enable, .act 0 (.registered true), .act 0 (.callback 0 "nA" "camera" (-1)),
    .act 0 .wake, .act 0 (.isDeviceOnline true), .act 0 (.registered true), .act 0 .wake]

end LateCallback
end DistributedHardware
