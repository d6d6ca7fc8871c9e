import DistributedHardware.Library.FifoReader
import DistributedHardware.Library.Transition
import DistributedHardware.Library.Store

/-!
`OutputController`: the queue of frames between `PushData` and the control thread.

Any number of callers run one call each, in the sections that the locks and the atomic
members leave; the handler thread and the control thread are the controller's own. A
section under `queueMutex_` and a `ClearQueue` are one step. Of the clocks and the time
statistics only the outcomes of their comparisons matter here, and the scheduler
chooses them.
-/

namespace DistributedHardware

inductive ControlStatus
  | start | stop | release
  deriving DecidableEq

inductive ControlMode
  | smooth | sync
  deriving DecidableEq

/-- Whether the two tags exist that a frame to be synchronized has. -/
structure BufferMeta where
  audioSamplePerFrame : Bool
  mediaStartTime : Bool
  deriving DecidableEq

/-- A buffer, with the address by which the controller compares it. -/
structure Buffer where
  addr : Nat
  pts : Int
  bufferMeta : Option BufferMeta
  deriving DecidableEq

def queueMaxSize : Nat := 100
def invalidTimestamp : Int := 0

/-- Where `LooperControl` is, with the frame it holds. -/
inductive LooperPc
  | check
  | wait
  | control (data : Buffer)
  | balance (data : Buffer)
  | clear (data : Buffer)
  | setBalanced (data : Buffer)
  | post (data : Buffer)
  | pop (data : Buffer)
  | exited
  deriving DecidableEq

/-- `LooperHandle` makes the handler and runs its tasks until its runner is stopped. -/
inductive HandlerPc
  | starting | running | ended
  deriving DecidableEq

/-- What is left of a call. -/
inductive ControllerPc
  | push (data : Option Buffer)
  | storeStart
  | checkHandler
  | createHandler
  | waitHandler
  | checkControl
  | createControl
  | storeStop
  | clearStopped
  | storeRelease
  | stopRunner
  | joinHandler
  | joinControl
  | clearReleased
  deriving DecidableEq

/-- A null pointer is `none`. -/
inductive ControllerCall
  | pushData (data : Option Buffer)
  | startControl
  | prepareControl
  | stopControl
  | releaseControl

structure ControllerState where
  status : ControlStatus := .release
  mode : ControlMode := .smooth
  dataQueue : List Buffer := []
  isInDynamicBalance : Bool := true
  isAllowControl : Bool := true
  dynamicBalanceThre : UInt8 := 0
  dynamicBalanceCount : UInt8 := 0
  /-- `handler_`, and the two threads with where they are. -/
  handler : Bool := false
  handlerThread : Option HandlerPc := none
  controlThread : Option LooperPc := none
  callers : Store Nat ControllerPc := ∅
  /-- A thread was assigned over while it was joinable: `std::terminate`. -/
  terminated : Bool := false
  /-- The buffers of the `PushData` calls, those pushed to the queue and those posted
  to the handler, each in their order. -/
  called : List Buffer := []
  pushed : List Buffer := []
  posted : List Buffer := []

/-- What the clock, the statistics and the handler answer. -/
structure LooperChoice where
  clockInvalid : Bool := false
  balancedOnce : Bool := false
  postTask : Bool := true

inductive ControllerAct
  | call (caller : Nat) (call : ControllerCall)
  | next (caller : Nat)
  | handler
  | control (ch : LooperChoice)

namespace ControllerState
variable (s : ControllerState)

/-- `PrepareSmooth` or `PrepareSync`; `thre` is what the subclass sets in the first. -/
def prepareControl (thre : UInt8) : ControllerState :=
  match s.mode with
  | .smooth =>
      { s with isInDynamicBalance := false, isAllowControl := true, dynamicBalanceThre := thre }
  | .sync => { s with isInDynamicBalance := true, isAllowControl := true }

def setControlMode (thre : UInt8) (mode : ControlMode) : ControllerState :=
  { s with mode }.prepareControl thre

def clearQueue : ControllerState := { s with dataQueue := [] }

/-- The first frame without the tags ends the synchronization, and the first one with
them starts it. -/
def checkSyncInfo (thre : UInt8) (data : Option Buffer) : ControllerState :=
  match data.bind Buffer.bufferMeta with
  | none => s
  | some bufferMeta =>
      let tagged := bufferMeta.audioSamplePerFrame && bufferMeta.mediaStartTime
      if s.mode = .sync ∧ !tagged then s.clearQueue.setControlMode thre .smooth
      else if s.mode = .smooth ∧ tagged then s.clearQueue.setControlMode thre .sync
      else s

/-- The section of `PushData` under the lock. -/
def pushLocked (thre : UInt8) (data : Option Buffer) : ControllerState :=
  let s := if s.dataQueue.length > queueMaxSize then { s with dataQueue := s.dataQueue.tail }
    else s
  let s := s.checkSyncInfo thre data
  match data with
  | none => s
  | some data =>
      if data.bufferMeta = none then s
      else { s with dataQueue := s.dataQueue ++ [data], pushed := s.pushed ++ [data] }

/-- `data == dataQueue_.front()` compares pointers. -/
def popIfFront (data : Buffer) : ControllerState :=
  match s.dataQueue with
  | front :: rest => if front.addr = data.addr then { s with dataQueue := rest } else s
  | [] => s

/-- The head of a call, up to its first load of the status, and where it goes on. -/
def begin (thre : UInt8) : ControllerCall → ControllerState × Option ControllerPc
  | .pushData data =>
      ({ s with called := s.called ++ data.toList },
        if s.status ≠ .start then none else some (.push data))
  | .startControl => (s, if s.status = .start then none else some .storeStart)
  | .prepareControl => (s.prepareControl thre, none)
  | .stopControl => (s, if s.status = .stop then none else some .storeStop)
  | .releaseControl => (s, if s.status = .release then none else some .storeRelease)

/-- The sections of a call; `none` where it waits. -/
def section_ (thre : UInt8) : ControllerPc → Option (ControllerState × Option ControllerPc)
  | .push data => some (s.pushLocked thre data, none)
  | .storeStart => some ({ s with status := .start }, some .checkHandler)
  | .checkHandler =>
      some (s, some (if s.handlerThread.isNone then .createHandler else .checkControl))
  | .createHandler =>
      if s.handlerThread.isSome then some ({ s with terminated := true }, none)
      else some ({ s with handlerThread := some .starting }, some .waitHandler)
  | .waitHandler => if s.handler then some (s, some .checkControl) else none
  | .checkControl => some (s, if s.controlThread.isNone then some .createControl else none)
  | .createControl =>
      if s.controlThread.isSome then some ({ s with terminated := true }, none)
      else some ({ s with controlThread := some .check }, none)
  | .storeStop => some ({ s with status := .stop }, some .clearStopped)
  | .clearStopped => some (s.clearQueue, none)
  | .storeRelease => some ({ s with status := .release }, some .stopRunner)
  | .stopRunner =>
      some (if s.handler ∧ s.handlerThread = some .running then
        { s with handlerThread := some .ended } else s, some .joinHandler)
  | .joinHandler =>
      match s.handlerThread with
      | none => some (s, some .joinControl)
      | some .ended => some ({ s with handlerThread := none }, some .joinControl)
      | some _ => none
  | .joinControl =>
      match s.controlThread with
      | none => some (s, some .clearReleased)
      | some .exited => some ({ s with controlThread := none }, some .clearReleased)
      | some _ => none
  | .clearReleased => some (s.clearQueue, none)

def handlerStep : Option ControllerState :=
  match s.handlerThread with
  | some .starting => some { s with handler := true, handlerThread := some .running }
  | _ => none

/-- The sections of `LooperControl` and of the functions it calls. `ControlOutput` returns
`OUTPUT_FRAME` on every path. -/
def looperSection (ch : LooperChoice) : LooperPc → Option (ControllerState × LooperPc)
  | .check => some (s, if s.status ≠ .release then .wait else .exited)
  | .wait =>
      if s.status = .release then some (s, .check)
      else
        match s.dataQueue with
        | front :: _ => if s.status = .start then some (s, .control front) else none
        | [] => none
  | .control data =>
      if data.pts = invalidTimestamp ∨ !s.isAllowControl then some (s, .post data)
      else if s.mode = .sync ∧ ch.clockInvalid then some (s, .post data)
      else some (s, .balance data)
  | .balance data =>
      if s.mode = .sync ∨ s.isInDynamicBalance then some (s, .post data)
      else
        let count := if ch.balancedOnce then s.dynamicBalanceCount + 1 else 0
        some ({ s with dynamicBalanceCount := count },
          if s.dynamicBalanceThre ≤ count then .clear data else .post data)
  | .clear data => some (s.clearQueue, .setBalanced data)
  | .setBalanced data => some ({ s with isInDynamicBalance := true }, .post data)
  | .post data =>
      if s.handler ∧ ch.postTask then some ({ s with posted := s.posted ++ [data] }, .pop data)
      else some (s, .check)
  | .pop data => some (s.popIfFront data, .check)
  | .exited => none

def goOn (caller : Nat) : Option ControllerPc → ControllerState
  | some pc => { s with callers := s.callers.set caller pc }
  | none => { s with callers := s.callers.erase caller }

def step (thre : UInt8) (a : ControllerAct) : Option ControllerState :=
  if s.terminated then none
  else
    match a with
    | .call caller call =>
        if (s.callers.get caller).isSome then none
        else some ((s.begin thre call).1.goOn caller (s.begin thre call).2)
    | .next caller =>
        ((s.callers.get caller).bind (s.section_ thre)).map (fun next => next.1.goOn caller next.2)
    | .handler => s.handlerStep
    | .control ch =>
        (s.controlThread.bind (s.looperSection ch)).map (fun next =>
          { next.1 with controlThread := some next.2 })

end ControllerState

/-- The controller; `thre` is the threshold of its subclass. -/
def controllerSystem (thre : UInt8) : TransitionSystem ControllerState ControllerAct where
  init := fun s => s = {}
  step := fun s a => s.step thre a

/-- The buffer that a step passes to `PushData`. -/
def ControllerAct.pushes : ControllerAct → Option Buffer
  | .call _ (.pushData data) => data
  | _ => none

/-- No buffer is passed to `PushData` twice. -/
def pushesDistinct (s : ControllerState) (a : ControllerAct) : Prop :=
  ∀ b ∈ a.pushes, b.addr ∉ s.called.map Buffer.addr

instance (s : ControllerState) (a : ControllerAct) : Decidable (pushesDistinct s a) :=
  inferInstanceAs (Decidable (∀ b ∈ a.pushes, b.addr ∉ s.called.map Buffer.addr))

/-- What the control thread holds, and what of it is posted. -/
def LooperPc.held : LooperPc → List Buffer
  | .control data | .balance data | .clear data | .setBalanced data | .post data
  | .pop data => [data]
  | .check | .wait | .exited => []

def LooperPc.output : LooperPc → List Buffer
  | .pop data => [data]
  | _ => []

/-- The frame in hand against the queue. -/
def ControllerState.drawn (s : ControllerState) : Prop :=
  let pc := s.controlThread.getD .exited
  Drawn s.pushed s.posted s.dataQueue pc.held pc.output

/-- All but the queue, which may be shorter, and the settings are as before. -/
structure Shortened (s t : ControllerState) : Prop where
  dataQueue : t.dataQueue <:+ s.dataQueue
  controlThread : t.controlThread = s.controlThread
  callers : t.callers = s.callers
  called : t.called = s.called
  pushed : t.pushed = s.pushed
  posted : t.posted = s.posted

section Sections
variable {s t r : ControllerState} (thre : UInt8)

theorem Shortened.refl (s : ControllerState) : Shortened s s :=
  ⟨List.suffix_refl _, rfl, rfl, rfl, rfl, rfl⟩

theorem Shortened.trans (h : Shortened s t) (h' : Shortened t r) : Shortened s r :=
  ⟨h'.dataQueue.trans h.dataQueue, h'.controlThread.trans h.controlThread,
    h'.callers.trans h.callers, h'.called.trans h.called, h'.pushed.trans h.pushed,
    h'.posted.trans h.posted⟩

theorem Shortened.drawn (h : Shortened s t) (inv : s.drawn) : t.drawn := by
  unfold ControllerState.drawn at inv ⊢
  rw [h.controlThread, h.pushed, h.posted]
  exact inv.drop h.dataQueue

theorem shortened_prepareControl (s : ControllerState) : Shortened s (s.prepareControl thre) := by
  unfold ControllerState.prepareControl
  split <;> exact ⟨List.suffix_refl _, rfl, rfl, rfl, rfl, rfl⟩

theorem shortened_clearQueue (s : ControllerState) : Shortened s s.clearQueue :=
  ⟨List.nil_suffix, rfl, rfl, rfl, rfl, rfl⟩

theorem shortened_setControlMode (s : ControllerState) (mode : ControlMode) :
    Shortened s (s.setControlMode thre mode) := by
  have stored : Shortened s { s with mode } := ⟨List.suffix_refl _, rfl, rfl, rfl, rfl, rfl⟩
  exact stored.trans (shortened_prepareControl thre _)

theorem shortened_checkSyncInfo (s : ControllerState) (data : Option Buffer) :
    Shortened s (s.checkSyncInfo thre data) := by
  unfold ControllerState.checkSyncInfo
  split
  · exact .refl s
  · simp only
    split
    · exact (shortened_clearQueue s).trans (shortened_setControlMode thre _ _)
    · split
      · exact (shortened_clearQueue s).trans (shortened_setControlMode thre _ _)
      · exact .refl s

theorem shortened_popIfFront (s : ControllerState) (data : Buffer) :
    Shortened s (s.popIfFront data) := by
  unfold ControllerState.popIfFront
  split
  case h_1 front rest hqueue =>
    split
    · exact ⟨hqueue ▸ List.suffix_cons front rest, rfl, rfl, rfl, rfl, rfl⟩
    · exact .refl s
  case h_2 => exact .refl s

/-- The queue gets the new frame last, behind what the overflow and the mode have left. -/
theorem pushLocked_eq (s : ControllerState) (data : Option Buffer) :
    ∃ t, Shortened s t ∧
      (s.pushLocked thre data = t ∨
        ∃ b, data = some b ∧ s.pushLocked thre data =
          { t with dataQueue := t.dataQueue ++ [b], pushed := t.pushed ++ [b] }) := by
  have overflow : Shortened s
      (if s.dataQueue.length > queueMaxSize then { s with dataQueue := s.dataQueue.tail }
        else s) := by
    split
    · exact ⟨List.tail_suffix _, rfl, rfl, rfl, rfl, rfl⟩
    · exact .refl s
  refine ⟨_, overflow.trans (shortened_checkSyncInfo thre _ data), ?_⟩
  unfold ControllerState.pushLocked
  cases data with
  | none => exact .inl rfl
  | some b =>
      simp only
      split
      · exact .inl rfl
      · exact .inr ⟨b, rfl, rfl⟩

theorem drawn_goOn (s : ControllerState) (caller : Nat) (pc : Option ControllerPc) :
    (s.goOn caller pc).drawn ↔ s.drawn := by
  cases pc <;> rfl

/-- What a section of a call does to the frames: nothing or one push at the end. -/
theorem drawn_section {pc : ControllerPc} {next : ControllerState × Option ControllerPc}
    (inv : s.drawn) (h : s.section_ thre pc = some next) : next.1.drawn := by
  cases pc with
  | push data =>
      cases h
      obtain ⟨t, short, heq | ⟨b, -, heq⟩⟩ := pushLocked_eq thre s data
      · rw [heq]
        exact short.drawn inv
      · rw [heq]
        exact (short.drawn inv).append
  | storeStart | checkHandler | checkControl | storeStop | storeRelease =>
      cases h
      exact inv
  | clearStopped | clearReleased =>
      cases h
      exact (shortened_clearQueue s).drawn inv
  | stopRunner =>
      cases h
      simp only
      split <;> exact inv
  | createHandler =>
      simp only [ControllerState.section_] at h
      split at h <;> cases h <;> exact inv
  | waitHandler =>
      simp only [ControllerState.section_] at h
      split at h <;> cases h
      exact inv
  | createControl =>
      simp only [ControllerState.section_] at h
      split at h
      · cases h
        exact inv
      case isFalse hnone =>
        cases h
        rw [Bool.not_eq_true, Option.isSome_eq_false_iff, Option.isNone_iff_eq_none] at hnone
        simp only [ControllerState.drawn, hnone] at inv
        exact inv
  | joinHandler =>
      simp only [ControllerState.section_] at h
      split at h <;> cases h <;> exact inv
  | joinControl =>
      simp only [ControllerState.section_] at h
      split at h
      case h_1 =>
        cases h
        exact inv
      case h_2 hexited =>
        cases h
        simp only [ControllerState.drawn, hexited] at inv
        exact inv
      case h_3 => cases h

/-- What a section of the control thread does to them: it takes the front, posts what it
holds, and removes what it has posted. -/
theorem drawn_looperSection {pc : LooperPc} {ch : LooperChoice} {next : ControllerState × LooperPc}
    (hpc : s.controlThread = some pc) (inv : s.drawn) (h : s.looperSection ch pc = some next) :
    { next.1 with controlThread := some next.2 }.drawn := by
  simp only [ControllerState.drawn, hpc, Option.getD_some] at inv ⊢
  cases pc with
  | check =>
      cases h
      simp only
      split <;> exact inv
  | wait =>
      simp only [ControllerState.looperSection] at h
      split at h
      · cases h
        exact inv
      · split at h
        case h_1 front rest hqueue =>
          split at h <;> cases h
          simp only [hqueue] at inv ⊢
          exact inv.take
        case h_2 => cases h
  | control data =>
      simp only [ControllerState.looperSection] at h
      split at h
      · cases h
        exact inv
      · split at h <;> cases h <;> exact inv
  | balance data =>
      simp only [ControllerState.looperSection] at h
      split at h
      · cases h
        exact inv
      · cases h
        simp only
        repeat' split
        all_goals exact inv
  | clear data =>
      cases h
      exact inv.drop List.nil_suffix
  | setBalanced data =>
      cases h
      exact inv
  | post data =>
      simp only [ControllerState.looperSection] at h
      split at h
      · cases h
        exact inv.output
      · cases h
        exact inv.putBack
  | pop data =>
      cases h
      have short := shortened_popIfFront s data
      simp only [short.pushed, short.posted]
      refine inv.remove short.dataQueue (fun rest hqueue => ?_)
      simp only [ControllerState.popIfFront, hqueue, if_pos]
      exact List.suffix_refl _
  | exited => cases h

theorem drawn_step {a : ControllerAct} (inv : s.drawn) (h : s.step thre a = some t) : t.drawn := by
  simp only [ControllerState.step] at h
  split at h
  · cases h
  · cases a with
    | call caller call =>
        simp only at h
        split at h
        · cases h
        · cases h
          rw [drawn_goOn]
          cases call with
          | prepareControl => exact (shortened_prepareControl thre s).drawn inv
          | _ => exact inv
    | next caller =>
        obtain ⟨next, hnext, rfl⟩ := Option.map_eq_some_iff.mp h
        obtain ⟨pc, -, hsection⟩ := Option.bind_eq_some_iff.mp hnext
        rw [drawn_goOn]
        exact drawn_section thre inv hsection
    | handler =>
        simp only [ControllerState.handlerStep] at h
        split at h <;> cases h
        exact inv
    | control ch =>
        obtain ⟨next, hnext, rfl⟩ := Option.map_eq_some_iff.mp h
        obtain ⟨pc, hpc, hsection⟩ := Option.bind_eq_some_iff.mp hnext
        exact drawn_looperSection hpc inv hsection

theorem drawn_of_reachable (h : (controllerSystem thre).Reachable s) : s.drawn := by
  apply h.invariant
  case initial =>
    rintro _ rfl
    exact Drawn.nil
  case preserved => exact fun s a t inv hs => drawn_step thre inv hs

end Sections

/-- The calls that are about to push, against what is pushed. -/
structure PushesApart (s : ControllerState) : Prop where
  nodup : (s.pushed.map Buffer.addr).Nodup
  called : ∀ b ∈ s.pushed, b.addr ∈ s.called.map Buffer.addr
  pending : ∀ caller b, s.callers.get caller = some (.push (some b)) →
    b.addr ∈ s.called.map Buffer.addr ∧ b.addr ∉ s.pushed.map Buffer.addr
  apart : ∀ caller caller' b b', s.callers.get caller = some (.push (some b)) →
    s.callers.get caller' = some (.push (some b')) → b.addr = b'.addr → caller = caller'

section Distinct
variable {s t : ControllerState} {thre : UInt8}

/-- Where nobody pushes, and the caller that acts is not about to, pushes stay apart. -/
theorem PushesApart.goOn (apart : PushesApart s) (hcalled : t.called = s.called)
    (hpushed : t.pushed = s.pushed) (hcallers : t.callers = s.callers) {caller : Nat}
    {pc : Option ControllerPc} (hpc : ∀ b, pc ≠ some (.push (some b))) :
    PushesApart (t.goOn caller pc) := by
  have before {other b} (h : (t.goOn caller pc).callers.get other = some (.push (some b))) :
      s.callers.get other = some (.push (some b)) := by
    cases pc with
    | none =>
        have h : Store.get (t.callers.erase caller) other = _ := h
        rw [Store.get_erase, hcallers] at h
        split at h
        · cases h
        · exact h
    | some pc =>
        have h : (t.callers.set caller pc).get other = _ := h
        rw [Store.get_set, hcallers] at h
        split at h
        · exact absurd h (hpc b)
        · exact h
  have called : (t.goOn caller pc).called = s.called := by cases pc <;> exact hcalled
  have pushed : (t.goOn caller pc).pushed = s.pushed := by cases pc <;> exact hpushed
  refine { nodup := ?_, called := ?_, pending := ?_, apart := ?_ }
  · rw [pushed]
    exact apart.nodup
  · rw [pushed, called]
    exact apart.called
  · intro other b h
    rw [pushed, called]
    exact apart.pending other b (before h)
  · intro other other' b b' h h' heq
    exact apart.apart other other' b b' (before h) (before h') heq

theorem PushesApart.of_same (apart : PushesApart s) (hcalled : t.called = s.called)
    (hpushed : t.pushed = s.pushed) (hcallers : t.callers = s.callers) : PushesApart t where
  nodup := hpushed ▸ apart.nodup
  called := by rw [hpushed, hcalled]; exact apart.called
  pending := by rw [hpushed, hcalled, hcallers]; exact apart.pending
  apart := by rw [hcallers]; exact apart.apart

/-- A call of `PushData` with a new buffer. -/
theorem PushesApart.call (apart : PushesApart s) {caller : Nat} {data : Option Buffer}
    (fresh : ∀ b, data = some b → b.addr ∉ s.called.map Buffer.addr) (started : Bool) :
    PushesApart ({ s with called := s.called ++ data.toList }.goOn caller
      (if started then some (.push data) else none)) := by
  have older {b : Buffer} (h : b.addr ∈ s.called.map Buffer.addr) :
      b.addr ∈ (s.called ++ data.toList).map Buffer.addr := by
    rw [List.map_append]
    exact List.mem_append_left _ h
  have logged : PushesApart { s with called := s.called ++ data.toList } :=
    ⟨apart.nodup, fun b hb => older (apart.called b hb),
      fun other b h => ⟨older (apart.pending other b h).1, (apart.pending other b h).2⟩,
      apart.apart⟩
  cases started with
  | false => exact logged.goOn rfl rfl rfl (by simp)
  | true =>
      cases data with
      | none => exact logged.goOn rfl rfl rfl (by simp)
      | some b =>
          have fresh := fresh b rfl
          have get (other : Nat) : Store.get (s.callers.set caller (.push (some b))) other =
              if other = caller then some (.push (some b)) else s.callers.get other :=
            Store.get_set _ _ _ _
          refine { nodup := apart.nodup, called := logged.called, pending := ?_, apart := ?_ }
          · intro other b' h
            have h := (get other).symm.trans h
            split at h
            · cases h
              refine ⟨List.mem_map_of_mem (List.mem_append_right _ List.mem_cons_self), ?_⟩
              intro hmem
              obtain ⟨b'', hb'', heq⟩ := List.mem_map.mp hmem
              exact fresh (heq ▸ apart.called b'' hb'')
            · exact logged.pending other b' h
          · intro other other' b' b'' h h' heq
            have h := (get other).symm.trans h
            have h' := (get other').symm.trans h'
            split at h
            case isTrue hother =>
              cases h
              split at h'
              case isTrue hother' => rw [hother, hother']
              case isFalse => exact absurd (heq ▸ (apart.pending other' b'' h').1) fresh
            case isFalse =>
              split at h'
              case isTrue =>
                cases h'
                exact absurd (heq ▸ (apart.pending other b' h).1) fresh
              case isFalse => exact apart.apart other other' b' b'' h h' heq

/-- The section that pushes. -/
theorem PushesApart.push (apart : PushesApart s) {caller : Nat} {data : Option Buffer}
    (hcaller : s.callers.get caller = some (.push data)) :
    PushesApart ((s.pushLocked thre data).goOn caller none) := by
  obtain ⟨r, short, heq | ⟨b, rfl, heq⟩⟩ := pushLocked_eq thre s data
  · rw [heq]
    exact apart.goOn short.called short.pushed short.callers (by simp)
  · rw [heq]
    have get {other b'} (h : Store.get (r.callers.erase caller) other = some (.push (some b'))) :
        other ≠ caller ∧ s.callers.get other = some (.push (some b')) := by
      rw [Store.get_erase, short.callers] at h
      split at h
      case isTrue => cases h
      case isFalse hne => exact ⟨hne, h⟩
    obtain ⟨hcalled, hfresh⟩ := apart.pending caller b hcaller
    refine { nodup := ?_, called := ?_, pending := ?_, apart := ?_ }
    · show (List.map Buffer.addr (r.pushed ++ [b])).Nodup
      rw [short.pushed, List.map_append]
      refine List.nodup_append.mpr ⟨apart.nodup, List.nodup_singleton _, ?_⟩
      rintro _ hmem _ hb rfl
      rw [List.map_singleton, List.mem_singleton] at hb
      exact hfresh (hb ▸ hmem)
    · intro b' hb'
      have hb' : b' ∈ r.pushed ++ [b] := hb'
      show b'.addr ∈ r.called.map Buffer.addr
      rw [short.called]
      rw [short.pushed, List.mem_append, List.mem_singleton] at hb'
      obtain hold | rfl := hb'
      · exact apart.called b' hold
      · exact hcalled
    · intro other b' h
      obtain ⟨hne, h⟩ := get h
      show b'.addr ∈ r.called.map Buffer.addr ∧ b'.addr ∉ (r.pushed ++ [b]).map Buffer.addr
      rw [short.called, short.pushed, List.map_append, List.map_singleton]
      refine ⟨(apart.pending other b' h).1, ?_⟩
      intro hmem
      obtain hold | hlast := List.mem_append.mp hmem
      · exact (apart.pending other b' h).2 hold
      · exact hne (apart.apart other caller b' b h hcaller (List.mem_singleton.mp hlast))
    · intro other other' b' b'' h h' heq
      exact apart.apart other other' b' b'' (get h).2 (get h').2 heq

/-- A section that does not push. -/
theorem section_same {pc : ControllerPc} {next : ControllerState × Option ControllerPc}
    (hpc : ∀ data, pc ≠ .push data) (h : s.section_ thre pc = some next) :
    next.1.called = s.called ∧ next.1.pushed = s.pushed ∧ next.1.callers = s.callers ∧
      ∀ b, next.2 ≠ some (.push (some b)) := by
  cases pc with
  | push data => exact absurd rfl (hpc data)
  | storeStart | storeStop | clearStopped | storeRelease | clearReleased =>
      cases h
      exact ⟨rfl, rfl, rfl, by simp⟩
  | checkHandler | checkControl =>
      cases h
      refine ⟨rfl, rfl, rfl, fun b => ?_⟩
      simp only
      split <;> simp
  | stopRunner =>
      cases h
      simp only
      split <;> exact ⟨rfl, rfl, rfl, by simp⟩
  | createHandler | waitHandler | createControl | joinHandler | joinControl =>
      simp only [ControllerState.section_] at h
      split at h <;> cases h <;> exact ⟨rfl, rfl, rfl, by simp⟩

theorem looperSection_same {pc : LooperPc} {ch : LooperChoice}
    {next : ControllerState × LooperPc} (h : s.looperSection ch pc = some next) :
    next.1.called = s.called ∧ next.1.pushed = s.pushed ∧ next.1.callers = s.callers := by
  cases pc with
  | pop data =>
      cases h
      have short := shortened_popIfFront s data
      exact ⟨short.called, short.pushed, short.callers⟩
  | exited => cases h
  | check | clear _ | setBalanced _ =>
      cases h
      exact ⟨rfl, rfl, rfl⟩
  | wait | control _ | balance _ | post _ =>
      simp only [ControllerState.looperSection] at h
      repeat' split at h
      all_goals cases h
      all_goals exact ⟨rfl, rfl, rfl⟩

theorem pushesApart_step {a : ControllerAct} (apart : PushesApart s) (fresh : pushesDistinct s a)
    (h : s.step thre a = some t) : PushesApart t := by
  simp only [ControllerState.step] at h
  split at h
  · cases h
  · cases a with
    | call caller call =>
        simp only at h
        split at h
        · cases h
        · cases h
          cases call with
          | pushData data =>
              have fresh : ∀ b, data = some b → b.addr ∉ s.called.map Buffer.addr := fresh
              have pushes : PushesApart _ :=
                @PushesApart.call s apart caller data fresh (s.status = .start)
              simpa only [ControllerState.begin, decide_eq_true_eq, ite_not] using pushes
          | prepareControl =>
              have short := shortened_prepareControl thre s
              exact apart.goOn short.called short.pushed short.callers
                (by simp [ControllerState.begin])
          | startControl | stopControl | releaseControl =>
              refine apart.goOn rfl rfl rfl (fun b => ?_)
              simp only [ControllerState.begin]
              split <;> simp
    | next caller =>
        obtain ⟨next, hnext, rfl⟩ := Option.map_eq_some_iff.mp h
        obtain ⟨pc, hpc, hsection⟩ := Option.bind_eq_some_iff.mp hnext
        by_cases hpush : ∃ data, pc = .push data
        · obtain ⟨data, rfl⟩ := hpush
          cases hsection
          exact apart.push hpc
        · obtain ⟨called, pushed, callers, other⟩ :=
            section_same (fun data heq => hpush ⟨data, heq⟩) hsection
          exact apart.goOn called pushed callers other
    | handler =>
        simp only [ControllerState.handlerStep] at h
        split at h <;> cases h
        exact apart.of_same rfl rfl rfl
    | control ch =>
        obtain ⟨next, hnext, rfl⟩ := Option.map_eq_some_iff.mp h
        obtain ⟨pc, -, hsection⟩ := Option.bind_eq_some_iff.mp hnext
        obtain ⟨called, pushed, callers⟩ := looperSection_same hsection
        exact apart.of_same called pushed callers

/-- Where no buffer is passed twice, the buffers posted are a subsequence of those pushed,
and none is posted twice. -/
theorem posted_sublist_pushed {acts : List ControllerAct}
    (run : (controllerSystem thre).Run pushesDistinct acts s) :
    s.posted.Sublist s.pushed ∧ (s.posted.map Buffer.addr).Nodup := by
  have drawn : s.drawn := drawn_of_reachable thre run.reachable
  have apart : PushesApart s := by
    refine run.invariant (I := fun _ => PushesApart) ?_ ?_
    · rintro _ rfl
      exact ⟨List.nodup_nil, nofun, nofun, nofun⟩
    · exact fun _ s a t _ apart fresh hs => pushesApart_step apart fresh hs
  have ordered : s.posted.Sublist s.pushed := by
    refine Drawn.sublist drawn ?_
    cases s.controlThread.getD .exited <;>
      simp only [LooperPc.output, LooperPc.held, List.nil_sublist, List.Sublist.refl]
  exact ⟨ordered, apart.nodup.sublist (ordered.map Buffer.addr)⟩

private def frame (addr : Nat) : Buffer :=
  { addr, pts := 40, bufferMeta := some { audioSamplePerFrame := false, mediaStartTime := false } }

/-- A frame is pushed and posted. -/
theorem exists_posted_sublist_pushed : ∃ s : ControllerState, s.posted = [frame 1] ∧
    s.posted.Sublist s.pushed ∧ (s.posted.map Buffer.addr).Nodup := by
  have posts : ∃ s ∈ (controllerSystem 3).replay pushesDistinct {}
      [.call 0 .startControl, .next 0, .next 0, .next 0, .handler, .next 0, .next 0, .next 0,
        .control {}, .call 0 (.pushData (some (frame 1))), .next 0,
        .control {}, .control {}, .control {}, .control {}],
      s.posted = [frame 1] := by
    decide +kernel
  obtain ⟨s, hs, posted⟩ := posts
  exact ⟨s, posted, posted_sublist_pushed (TransitionSystem.run_of_replay rfl hs)⟩

end Distinct
end DistributedHardware
