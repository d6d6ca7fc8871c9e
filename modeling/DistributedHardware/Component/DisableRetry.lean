import DistributedHardware.Component.EnableAttempt
import DistributedHardware.Task.OfflineBarrier

/-!
The retries of `ComponentManager::Disable` in the tasks that an `OffLineTask` creates.

The call of a `DisableTask` runs while its `OffLineTask` waits for it, and the online entry of
the device is removed after the wait. A retry is made only when the online table has no entry
of the device. Beside the tasks the state has the calls, the devices whose last event is an
online event, and what the last check of each call would have seen of them.
-/

namespace DistributedHardware

structure DisableState where
  sys : Sys := {}
  /-- The calls of `Disable`, by their `DisableTask`. -/
  calls : Store TaskId ComponentCall := ∅
  /-- The uuids of the devices whose last event is an online event. -/
  onlineDevices : Finset String := ∅
  /-- Whether the device of the task was online at the last check of its call. -/
  checkedOnline : Store TaskId Bool := ∅

inductive DisableAct
  | sys (a : Act)
  | begin (id : TaskId)
  | call (id : TaskId) (a : CallAct)

namespace DisableState
variable (sha256 : String → String)

/-- The section of a `DisableTask` ends with the result of its call; there is no call where the
type of the hardware has no handler. -/
def resultAgrees (s : DisableState) : Act → Bool
  | .run (.task id) ch =>
      if s.sys.pc (.task id) = .body .unRegisterHardware then
        match s.calls.get id with
        | none => !ch.ok
        | some c =>
            match c.pc with
            | .returned ret => ch.ok == decide (ret = dhFwkSuccess)
            | _ => false
      else true
  | _ => true

/-- The devices after the events that have come. -/
def afterEvent (onlineDevices : Finset String) : Act → Finset String
  | .call _ (.sendOnLineEvent param) => insert param.uuid onlineDevices
  | .call _ (.sendOffLineEvent param) => onlineDevices.erase param.uuid
  | _ => onlineDevices

/-- `DHContext::IsDeviceOnline` for the device of a task. -/
def tableHasDevice (s : DisableState) (id : TaskId) : Bool :=
  (s.sys.sh.paramOf id).any (fun param => isDeviceOnline param.uuid s.sys.sh.devIdEntrySet)

/-- The device of a task is online. -/
def deviceIsOnline (s : DisableState) (id : TaskId) : Bool :=
  (s.sys.sh.paramOf id).any (fun param => param.uuid ∈ s.onlineDevices)

/-- The task is about to call `Disable`, which refuses invalid ids. -/
def mayBegin (s : DisableState) (id : TaskId) : Bool :=
  s.sys.pc (.task id) = .body .unRegisterHardware && (s.calls.get id).isNone &&
    (s.sys.sh.paramOf id).any (fun param =>
      isIdLengthValid param.networkId && isIdLengthValid param.uuid && isIdLengthValid param.dhId)

def step (s : DisableState) : DisableAct → Option DisableState
  | .sys a =>
      if s.resultAgrees a then
        (DistributedHardware.step sha256 s.sys a).map (fun sys =>
          { s with sys, onlineDevices := afterEvent s.onlineDevices a })
      else none
  | .begin id =>
      if s.mayBegin id then some { s with calls := s.calls.set id { direction := .disable } }
      else none
  | .call id (.isDeviceOnline online) =>
      if online = s.tableHasDevice id then
        ((s.calls.get id).bind (fun c => c.step (.isDeviceOnline online))).map (fun c =>
          { s with
            calls := s.calls.set id c
            checkedOnline := s.checkedOnline.set id (s.deviceIsOnline id) })
      else none
  | .call id a =>
      ((s.calls.get id).bind (fun c => c.step a)).map (fun c =>
        { s with calls := s.calls.set id c })

end DisableState

def disableSystem (sha256 : String → String) : TransitionSystem DisableState DisableAct where
  init := fun s => s = {}
  step := DisableState.step sha256

/-- The call has failed, and not all of its retries have been made. -/
def ComponentCall.GaveUpEarly (c : ComponentCall) : Prop :=
  ∃ ret, c.pc = .returned ret ∧ ret ≠ dhFwkSuccess ∧ c.results.get c.direction.retryMaxTimes = none

namespace ComponentCall

/-- A call of `Disable` on its way: its attempts are counted, and only a failed one is retried. -/
structure Disabling (c : ComponentCall) : Prop where
  direction : c.direction = .disable
  unended : c.Unended
  inProgress : ∀ k, c.inProgress = some k →
    k ≤ disableRetryMaxTimes ∧ (k = 0 ∨ c.result ≠ dhFwkSuccess)
  checking : ∀ k, c.pc = .checkOnline k → k < disableRetryMaxTimes ∧ c.result ≠ dhFwkSuccess

theorem disabling_new : Disabling { direction := .disable } where
  direction := rfl
  unended := fun _ _ => rfl
  inProgress := by
    rintro k ⟨⟩
    exact ⟨Nat.zero_le _, .inl rfl⟩
  checking := by
    rintro k ⟨⟩

/-- A call that is checking for its device has not returned. -/
theorem not_gaveUpEarly_of_check {c c' : ComponentCall} {online : Bool}
    (hs : c.step (.isDeviceOnline online) = some c') : ¬ c.GaveUpEarly := by
  rintro ⟨ret, returned, -⟩
  simp [step, returned] at hs

/-- After an attempt the call has succeeded, has another retry, or has made all of them. -/
theorem pc_attemptEnds (c : ComponentCall) (k : Nat) (ret : Int) :
    (ret = dhFwkSuccess ∧ (c.attemptEnds k ret).pc = .returned dhFwkSuccess) ∨
      ret ≠ dhFwkSuccess ∧
        ((k < c.direction.retryMaxTimes ∧ (c.attemptEnds k ret).pc = .checkOnline k) ∨
          c.direction.retryMaxTimes ≤ k ∧
            ∃ result, (c.attemptEnds k ret).pc = .returned result) := by
  by_cases success : ret = dhFwkSuccess
  · exact .inl ⟨success, by simp [attemptEnds, success]⟩
  · refine .inr ⟨success, ?_⟩
    by_cases more : k < c.direction.retryMaxTimes
    · exact .inl ⟨more, by simp [attemptEnds, success, more]⟩
    · exact .inr ⟨Nat.not_lt.mp more, _, by simp [attemptEnds, success, more]; rfl⟩

namespace Disabling
variable {c c' : ComponentCall}

theorem retryMaxTimes (h : c.Disabling) : c.direction.retryMaxTimes = disableRetryMaxTimes := by
  rw [h.direction]
  rfl

theorem attemptEnds (h : c.Disabling) {k : Nat} {ret : Int} (current : c.inProgress = some k)
    (unended : (c.attemptEnds k ret).Unended) : (c.attemptEnds k ret).Disabling := by
  obtain ⟨-, result⟩ := h.inProgress k current
  have ends := c.pc_attemptEnds k ret
  refine ⟨h.direction, unended, ?_, ?_⟩
  · intro j hj
    obtain ⟨-, pc⟩ | ⟨-, ⟨-, pc⟩ | ⟨-, _, pc⟩⟩ := ends <;>
      simp [ComponentCall.inProgress, pc] at hj
  · intro j hj
    obtain ⟨-, pc⟩ | ⟨failed, ⟨more, pc⟩ | ⟨-, _, pc⟩⟩ := ends
    · rw [pc] at hj
      cases hj
    · rw [pc] at hj
      cases hj
      refine ⟨h.retryMaxTimes ▸ more, ?_⟩
      by_cases first : k = 0
      · simpa [ComponentCall.attemptEnds, first] using failed
      · simpa [ComponentCall.attemptEnds, first] using result.resolve_left first
    · rw [pc] at hj
      cases hj

theorem step (h : c.Disabling) {a : CallAct} (hs : c.step a = some c') : c'.Disabling := by
  have unended := h.unended.step hs
  cases step_cases hs with
  | ends current => exact h.attemptEnds current unended
  | @waits k registering =>
      refine ⟨h.direction, unended, ?_, ?_⟩
      · rintro j ⟨⟩
        exact h.inProgress k (by simp [ComponentCall.inProgress, registering])
      · rintro j ⟨⟩
  | reports =>
      unfold onResult at unended ⊢
      split
      · exact h
      · next valid =>
        rw [if_neg valid] at unended
        exact ⟨h.direction, unended, h.inProgress, h.checking⟩
  | @retries k online checking =>
      obtain ⟨more, failed⟩ := h.checking k checking
      refine ⟨h.direction, unended, ?_, ?_⟩
      · intro j hj
        cases gives : c.direction.givesUp online with
        | true => simp [ComponentCall.inProgress, gives] at hj
        | false =>
            simp only [ComponentCall.inProgress, gives, Bool.false_eq_true, if_false,
              Option.some.injEq] at hj
            subst hj
            exact ⟨more, .inr failed⟩
      · intro j hj
        cases gives : c.direction.givesUp online <;> simp [gives] at hj

/-- An attempt that ends leaves a call that has not given up early. -/
theorem not_gaveUpEarly_attemptEnds (h : c.Disabling) {k : Nat} {ret : Int}
    (current : c.inProgress = some k) : ¬ (c.attemptEnds k ret).GaveUpEarly := by
  obtain ⟨atMost, -⟩ := h.inProgress k current
  rintro ⟨r, returned, failed, missing⟩
  obtain ⟨-, pc⟩ | ⟨-, ⟨-, pc⟩ | ⟨all, _, pc⟩⟩ := c.pc_attemptEnds k ret
  · rw [pc] at returned
    cases returned
    exact failed rfl
  · rw [pc] at returned
    cases returned
  · have last : k = c.direction.retryMaxTimes :=
      Nat.le_antisymm (h.retryMaxTimes ▸ atMost) all
    simp [ComponentCall.attemptEnds, last] at missing

/-- A call gives up early at a check that finds the device, and only there. -/
theorem gaveUpEarly_step (h : c.Disabling) {a : CallAct} (hs : c.step a = some c') :
    c'.GaveUpEarly ↔ c.GaveUpEarly ∨ a = .isDeviceOnline true := by
  cases step_cases hs with
  | @ends _ k ret current =>
      have before : ¬ c.GaveUpEarly := by
        rintro ⟨r, returned, -⟩
        simp [ComponentCall.inProgress, returned] at current
      have other : a ≠ .isDeviceOnline true := by
        rintro rfl
        cases hpc : c.pc with
        | checkOnline j => simp [ComponentCall.inProgress, hpc] at current
        | _ => simp [ComponentCall.step, hpc] at hs
      exact iff_of_false (h.not_gaveUpEarly_attemptEnds current) (by simp [before, other])
  | waits registering =>
      refine iff_of_false ?_ ?_
      · rintro ⟨r, ⟨⟩, -⟩
      · rintro (⟨r, returned, -⟩ | other)
        · rw [registering] at returned
          cases returned
        · cases other
  | reports =>
      unfold onResult
      split <;> simp [GaveUpEarly]
  | @retries k online checking =>
      obtain ⟨more, failed⟩ := h.checking k checking
      have before := not_gaveUpEarly_of_check hs
      have missing : c.results.get c.direction.retryMaxTimes = none := by
        have unended := h.unended
        rw [Unended, checking] at unended
        exact unended _ (h.retryMaxTimes ▸ more)
      cases online with
      | true =>
          refine iff_of_true ⟨c.result, ?_, failed, missing⟩ (.inr rfl)
          simp [h.direction, Direction.givesUp]
      | false =>
          refine iff_of_false ?_ (by simp [before])
          rintro ⟨r, returned, -⟩
          simp [h.direction, Direction.givesUp] at returned

end Disabling

end ComponentCall

namespace DisableState

/-- The task is one that an `OffLineTask` has created. -/
def OfOffLineTask (s : DisableState) (id : TaskId) : Prop :=
  ∃ f, s.sys.sh.fatherOf id = some f ∧ s.sys.sh.typeOf f = some .offLine

/-- A call for a device that has gone offline gives up early only because the device has come
online again. -/
def RetriesWhileOffline (s : DisableState) : Prop :=
  ∀ id c, s.OfOffLineTask id → s.calls.get id = some c → c.GaveUpEarly →
    s.checkedOnline.get id = some true

/-- A check that finds the device in the online table comes when it is online again. -/
def entryIsCurrent (s : DisableState) : DisableAct → Prop
  | .call id (.isDeviceOnline _) =>
      s.OfOffLineTask id → s.tableHasDevice id = true → s.deviceIsOnline id = true
  | _ => True

variable {sha256 : String → String} {s t : DisableState}

/-- What a step does: a section of the service, a call that begins, or a step of a call. -/
inductive Moves (sha256 : String → String) (s : DisableState) : DisableAct → DisableState → Prop
  | sys {a : Act} {sys : Sys} : DistributedHardware.step sha256 s.sys a = some sys →
      Moves sha256 s (.sys a) { s with sys, onlineDevices := afterEvent s.onlineDevices a }
  | begin {id : TaskId} : s.mayBegin id = true →
      Moves sha256 s (.begin id) { s with calls := s.calls.set id { direction := .disable } }
  | check {id : TaskId} {c c' : ComponentCall} : s.calls.get id = some c →
      c.step (.isDeviceOnline (s.tableHasDevice id)) = some c' →
      Moves sha256 s (.call id (.isDeviceOnline (s.tableHasDevice id)))
        { s with
          calls := s.calls.set id c'
          checkedOnline := s.checkedOnline.set id (s.deviceIsOnline id) }
  | call {id : TaskId} {a : CallAct} {c c' : ComponentCall} : s.calls.get id = some c →
      c.step a = some c' → (∀ online, a ≠ .isDeviceOnline online) →
      Moves sha256 s (.call id a) { s with calls := s.calls.set id c' }

theorem moves_of_step {a : DisableAct} (hs : s.step sha256 a = some t) : Moves sha256 s a t := by
  cases a with
  | sys a =>
      obtain ⟨-, hs⟩ := Option.ite_none_right_eq_some.mp hs
      obtain ⟨sys, hsys, rfl⟩ := Option.map_eq_some_iff.mp hs
      exact .sys hsys
  | begin id =>
      obtain ⟨may, hs⟩ := Option.ite_none_right_eq_some.mp hs
      cases hs
      exact .begin may
  | call id a =>
      cases a with
      | isDeviceOnline online =>
          obtain ⟨rfl, hs⟩ := Option.ite_none_right_eq_some.mp hs
          obtain ⟨c', hc', rfl⟩ := Option.map_eq_some_iff.mp hs
          obtain ⟨c, hc, hstep⟩ := Option.bind_eq_some_iff.mp hc'
          exact .check hc hstep
      | registered | callback | wake | expire =>
          obtain ⟨c', hc', rfl⟩ := Option.map_eq_some_iff.mp hs
          obtain ⟨c, hc, hstep⟩ := Option.bind_eq_some_iff.mp hc'
          exact .call hc hstep (fun _ => by simp)

/-- The service runs as it does without the calls in sight. -/
theorem reachable_sys (h : (disableSystem sha256).Reachable s) :
    (taskSystem sha256).Reachable s.sys := by
  refine h.invariant (I := fun s => (taskSystem sha256).Reachable s.sys) ?_ ?_
  · rintro _ rfl
    exact .init rfl
  · intro s a t reach hs
    cases moves_of_step hs with
    | sys hsys => exact reach.step hsys
    | begin | check | call => exact reach

/-- Every call is one of a task, and on its way. -/
structure CallsKept (s : DisableState) : Prop where
  allocated : ∀ id c, s.calls.get id = some c → s.sys.sh.allocated id
  disabling : ∀ id c, s.calls.get id = some c → c.Disabling

theorem CallsKept.set {id : TaskId} {c : ComponentCall} (h : s.CallsKept) {t : DisableState}
    (sys : t.sys = s.sys) (calls : t.calls = s.calls.set id c) (made : s.sys.sh.allocated id)
    (kept : c.Disabling) : t.CallsKept := by
  constructor
  case allocated =>
    intro id' c' hc
    rw [calls, Store.get_set] at hc
    rw [sys]
    split at hc
    · next same => exact same ▸ made
    · exact h.allocated id' c' hc
  case disabling =>
    intro id' c' hc
    rw [calls, Store.get_set] at hc
    split at hc
    · cases hc
      exact kept
    · exact h.disabling id' c' hc

theorem callsKept (h : (disableSystem sha256).Reachable s) : s.CallsKept := by
  refine h.invariant (I := CallsKept) ?_ ?_
  · rintro _ rfl
    constructor <;> simp
  · intro s a t kept hs
    cases moves_of_step hs with
    | sys hsys =>
        exact ⟨fun id c hc => (step_keepsTask hsys (kept.allocated id c hc)).allocated,
          kept.disabling⟩
    | @begin id may =>
        refine kept.set rfl rfl ?_ ComponentCall.disabling_new
        simp only [mayBegin, Bool.and_eq_true, Option.any_eq_true] at may
        obtain ⟨-, param, hparam, -⟩ := may
        exact Shared.allocated_of_paramOf hparam
    | check hc hstep =>
        exact kept.set rfl rfl (kept.allocated _ _ hc) ((kept.disabling _ _ hc).step hstep)
    | call hc hstep =>
        exact kept.set rfl rfl (kept.allocated _ _ hc) ((kept.disabling _ _ hc).step hstep)

/-- A section of the service leaves the father of a task as it is. -/
theorem OfOffLineTask.before {a : Act} {sys : Sys} (reach : (taskSystem sha256).Reachable s.sys)
    (hs : DistributedHardware.step sha256 s.sys a = some sys) (same : t.sys = sys) {id : TaskId}
    (made : s.sys.sh.allocated id) (h : t.OfOffLineTask id) : s.OfOffLineTask id := by
  obtain ⟨f, hf, hk⟩ := h
  rw [same] at hf hk
  have father : s.sys.sh.fatherOf id = some f := (step_keepsTask hs made).fatherOf ▸ hf
  have made' : s.sys.sh.allocated f :=
    (lifecycle reach).started f ((family reach).father id f father).1
  exact ⟨f, father, (step_keepsTask hs made').typeOf ▸ hk⟩

theorem OfOffLineTask.of_sys (same : t.sys = s.sys) {id : TaskId} (h : t.OfOffLineTask id) :
    s.OfOffLineTask id := by
  rw [OfOffLineTask, same] at h
  exact h

/-- Only a check of a call can break what is said of the retries, and it does where the entry
that it finds is a stale one. -/
theorem retriesWhileOffline_step_iff {a : DisableAct} (reach : (disableSystem sha256).Reachable s)
    (good : s.RetriesWhileOffline) (hs : s.step sha256 a = some t) :
    t.RetriesWhileOffline ↔ s.entryIsCurrent a := by
  have kept := callsKept reach
  cases moves_of_step hs with
  | sys hsys =>
      refine iff_of_true ?_ trivial
      intro id c child hc early
      exact good id c (child.before (reachable_sys reach) hsys rfl (kept.allocated id c hc)) hc
        early
  | @begin id may =>
      refine iff_of_true ?_ trivial
      intro id' c child hc early
      rw [Store.get_set] at hc
      split at hc
      · cases hc
        obtain ⟨_, ⟨⟩, -⟩ := early
      · exact good id' c (child.of_sys rfl) hc early
  | @check id c c' hc hstep =>
      have early := (kept.disabling id c hc).gaveUpEarly_step hstep
      constructor
      · intro good' child found
        have checked := good' id c' child (by simp) (early.mpr (.inr (by rw [found])))
        simpa using checked
      · intro current id' d child hd gaveUp
        rw [Store.get_set] at hd ⊢
        split at hd
        · next same =>
          subst same
          cases hd
          obtain before | found := early.mp gaveUp
          · exact absurd before (ComponentCall.not_gaveUpEarly_of_check hstep)
          · rw [if_pos rfl, current (child.of_sys rfl) (by simpa using found)]
        · next other =>
          rw [if_neg other]
          exact good id' d (child.of_sys rfl) hd gaveUp
  | @call id a c c' hc hstep other =>
      have early := (kept.disabling id c hc).gaveUpEarly_step hstep
      refine iff_of_true ?_ ?_
      · intro id' d child hd gaveUp
        rw [Store.get_set] at hd
        split at hd
        · next same =>
          subst same
          cases hd
          exact good id' c (child.of_sys rfl) hc ((early.mp gaveUp).resolve_right (other true))
        · exact good id' d (child.of_sys rfl) hd gaveUp
      · cases a with
        | isDeviceOnline online => exact absurd rfl (other online)
        | registered | callback | wake | expire => trivial

/-- While a child disables its hardware, its `OffLineTask` has not come to the removal of the
online entry. -/
theorem father_waits (reach : (disableSystem sha256).Reachable s) {id f : TaskId}
    (father : s.sys.sh.fatherOf id = some f) (offLine : s.sys.sh.typeOf f = some .offLine)
    (disabling : s.sys.pc (.task id) = .body .unRegisterHardware) :
    (s.sys.pc (.task f)).stage = 0 := by
  by_contra past
  have reach := reachable_sys reach
  obtain removed | ⟨ret, returned⟩ :=
    (barrier reach).reported (family reach) offLine (Nat.pos_of_ne_zero past) father
  · rw [disabling] at removed
    cases removed
  · rw [disabling] at returned
    cases returned

end DisableState

/-- In exactly the runs whose checks find no stale entry are all retries made while the device
stays offline. -/
theorem retriesWhileOffline_iff {sha256 : String → String} {acts : List DisableAct}
    {s : DisableState} :
    (disableSystem sha256).RunIn DisableState.RetriesWhileOffline acts s ↔
      (disableSystem sha256).Run DisableState.entryIsCurrent acts s := by
  refine TransitionSystem.runIn_iff_run ?_
    (fun _ _ _ => DisableState.retriesWhileOffline_step_iff)
  rintro _ rfl id c - hc
  cases hc

section FirstFailure

/-- A camera of device A in the capability registry. -/
private def registeredCamera : CapabilityInfo :=
  { dhId := "camera", deviceId := getDeviceIdByUuid sampleSha256 "uA", dhType := DhType.camera }

/-- Device A has come online and gone offline; task 2 is its `OffLineTask`, task 5 disables the
camera. -/
private def disablingTask : List Act :=
  .call 0 (.sendOnLineEvent deviceA) :: runs (.call 0) 10 { newId := 1 } ++
  .call 1 (.sendOffLineEvent deviceA) :: runs (.call 1) 9 { newId := 2 } ++
  dispatch ++ runs (.task 1) 11 { newId := 3 } ++
  dispatch ++ .startSubmitted 2 :: runs (.task 2) 4 { newId := 4 } ++
  .registries ((∅ : CapabilityInfoMap).insert registeredCamera.getKey registeredCamera) ∅ ∅ ::
    runs (.task 2) 1 {} ++ runs (.task 2) 4 { newId := 5 } ++
  dispatch ++ dispatch ++ dispatch ++ [.startSubmitted 5]

/-- The component fails at once. -/
private def firstFailure : List DisableAct :=
  disablingTask.map .sys ++
    [.begin 5, .call 5 (.registered false), .call 5 (.isDeviceOnline true)]

/-- The call returns after its first attempt, though the device has not come online again. -/
theorem exists_no_retry_offline : ∃ s, (disableSystem sampleSha256).Reachable s ∧
    ¬ s.RetriesWhileOffline ∧ ∃ c, s.calls.get 5 = some c ∧
      c.pc = .returned errDhFwkComponentUnregisterFailed ∧ c.results.get 1 = none := by
  have replayed : ∃ s ∈ (disableSystem sampleSha256).replay (fun _ _ => True) {} firstFailure,
      (s.sys.sh.fatherOf 5 = some 2 ∧ s.sys.sh.typeOf 2 = some .offLine) ∧
        s.checkedOnline.get 5 = some false ∧ ∃ c ∈ s.calls.get 5,
          c.pc = .returned errDhFwkComponentUnregisterFailed ∧ c.results.get 1 = none ∧
          c.results.get c.direction.retryMaxTimes = none := by
    decide +kernel
  obtain ⟨s, hs, child, offline, c, hc, returned, once, missing⟩ := replayed
  refine ⟨s, (TransitionSystem.run_of_replay rfl hs).reachable, ?_, c, hc, returned, once⟩
  intro retries
  have online := retries 5 c ⟨2, child⟩ hc ⟨_, returned, by decide, missing⟩
  rw [offline] at online
  cases online

end FirstFailure
end DistributedHardware
