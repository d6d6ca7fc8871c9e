import Mathlib.Data.Int.Interval
import DistributedHardware.Library.Tickets
import DistributedHardware.AvTransport.ControlCenter
import DistributedHardware.AvTransport.SyncManager

/-!
The engine ids of the control center, over the atomic steps of its calls.

Each thread runs one call at a time. A call that takes an engine id compares it with
`rootEngineId_` before anything else; an initialisation reads `rootEngineId_` and
increments it in two steps, and the id is handed out with the second. What the sections
of a call do is as in the whole calls of `CenterState`.
-/

namespace DistributedHardware

/-- The increment of `std::atomic<int32_t>` wraps around. -/
def wrapInt32 (n : Int) : Int := (n + 2147483648) % 4294967296 - 2147483648

def isInt32 (n : Int) : Bool := -2147483648 ≤ n && n < 2147483648

/-- Where a thread is in its call. -/
inductive EnginePc
  | createServer (transRole : TransRole)
  | registerListener (transRole : TransRole)
  | setInitialized (transRole : TransRole)
  | readEngineId
  | increment (engineId : Int)
  | eraseCallback (engineId : Int)
  | erasePeer (engineId : Int)
  | eraseConnected (peerDevId : String)
  | stopTimeSync (peerDevId : String)
  | closeChannel (peerDevId : String)
  | unRegisterSender
  | unRegisterReceiver
  | checkInitialized (engineId : Int) (peerDevId : String)
  | checkConnected (engineId : Int) (peerDevId : String)
  | registerSender (engineId : Int) (peerDevId : String)
  | openChannel (engineId : Int) (peerDevId : String)
  | insertPeer (engineId : Int) (peerDevId : String)
  | changeStream (event : Option StreamCall)
  | insertCallback (engineId : Int) (callback : Option Nat)

/-- An event of `NotifyAVCenter` that is about no stream is `none`. -/
inductive EngineCall
  | initializeAVCenter (transRole : TransRole)
  | releaseAVCenter (engineId : Int)
  | createControlChannel (engineId : Int) (peerDevId : String)
  | notifyAVCenter (engineId : Int) (event : Option StreamCall)
  | registerCtlCenterCallback (engineId : Int) (callback : Option Nat)

/-- The engine id that a call validates, and where the call goes on with a valid one. -/
def EngineCall.validates : EngineCall → Option (Int × EnginePc)
  | .initializeAVCenter _ => none
  | .releaseAVCenter engineId => some (engineId, .eraseCallback engineId)
  | .createControlChannel engineId peerDevId =>
      some (engineId, .checkInitialized engineId peerDevId)
  | .notifyAVCenter engineId event => some (engineId, .changeStream event)
  | .registerCtlCenterCallback engineId callback =>
      some (engineId, .insertCallback engineId callback)

/-- A validation, and whether its id had been handed out by then. -/
structure EngineIdCheck where
  engineId : Int
  accepted : Bool
  handedOut : Bool

structure EngineIdState where
  center : CenterState := {}
  syncManager : SyncState := {}
  threads : Store Nat EnginePc := ∅
  /-- The ids handed out and the validations, the latest first. -/
  handed : List Int := []
  checks : List EngineIdCheck := []

inductive EngineAct
  | call (thread : Nat) (call : EngineCall)
  | next (thread : Nat) (ch : CenterChoice)

namespace EngineIdState

/-- The thread goes on at `pc`, or returns. -/
def resume (s : EngineIdState) (thread : Nat) : Option EnginePc → EngineIdState
  | some pc => { s with threads := s.threads.set thread pc }
  | none => { s with threads := s.threads.erase thread }

@[simp] theorem checks_resume (s : EngineIdState) (thread : Nat) (pc : Option EnginePc) :
    (s.resume thread pc).checks = s.checks := by
  cases pc <;> rfl

/-- `IsInvalidEngineId`, at the head of a call. -/
def validate (s : EngineIdState) (engineId : Int) : EngineIdState :=
  { s with
    checks := { engineId
                accepted := !s.center.isInvalidEngineId engineId
                handedOut := engineId ∈ s.handed } :: s.checks }

/-- Up to the first section of the call. An engine id is an `int32_t`. -/
def begin (s : EngineIdState) (thread : Nat) (call : EngineCall) : Option EngineIdState :=
  match call.validates with
  | some (engineId, pc) =>
      if !isInt32 engineId then none
      else if s.center.isInvalidEngineId engineId then some (s.validate engineId)
      else some ((s.validate engineId).resume thread (some pc))
  | none =>
      match call with
      | .initializeAVCenter transRole =>
          if transRole ≠ .avSender ∧ transRole ≠ .avReceiver then some s
          else if s.center.initialized then some (s.resume thread (some .readEngineId))
          else some (s.resume thread (some (.createServer transRole)))
      | _ => some s

/-- The id is handed out with the increment. -/
def handOut (s : EngineIdState) (engineId : Int) : EngineIdState :=
  { s with
    center := { s.center with
      rootEngineId := wrapInt32 (s.center.rootEngineId + 1)
      liveEngines := insert engineId s.center.liveEngines }
    handed := engineId :: s.handed }

section Sections
variable (printUnformatted : CJson → Option String) (s : EngineIdState) (ch : CenterChoice)

/-- The sections of a call that leave `rootEngineId_` alone: what they make of the
center and where the call goes on. -/
def centerSection (c : CenterState) : EnginePc → CenterState × Option EnginePc
  | .createServer transRole =>
      let (ret, c) := c.createChannelServer ch pkgNameDhFwk avSyncReceiverControlSessionName
      (c, if ret ≠ dhAvtSuccess then none else some (.registerListener transRole))
  | .registerListener transRole =>
      (c.registerChannelListener avSyncReceiverControlSessionName avTransSpecialDeviceId,
        some (.setInitialized transRole))
  | .setInitialized transRole =>
      ({ c with initialized := true, transRole }, some .readEngineId)
  | .readEngineId => (c, some (.increment c.rootEngineId))
  | .eraseCallback engineId =>
      ({ c with
          callbackMap := c.callbackMap.erase engineId
          liveEngines := c.liveEngines.erase engineId }, some (.erasePeer engineId))
  | .erasePeer engineId =>
      match c.engine2DevIdMap.get engineId with
      | none => (c, none)
      | some peerDevId =>
          let c := { c with engine2DevIdMap := c.engine2DevIdMap.erase engineId }
          (c, if c.isDevIdUsedByOthers peerDevId then none else some (.eraseConnected peerDevId))
  | .eraseConnected peerDevId =>
      if peerDevId ∉ c.connectedDevIds then (c, none)
      else ({ c with connectedDevIds := c.connectedDevIds.erase peerDevId },
        some (.stopTimeSync peerDevId))
  | .stopTimeSync peerDevId =>
      (c.stopDeviceTimeSync ch c.sessionName peerDevId, some (.closeChannel peerDevId))
  | .closeChannel peerDevId =>
      (c.closeSoftbusChannel c.sessionName peerDevId, some .unRegisterSender)
  | .unRegisterSender =>
      (c.unRegisterChannelListener avSyncSenderControlSessionName avTransSpecialDeviceId,
        some .unRegisterReceiver)
  | .unRegisterReceiver =>
      (c.unRegisterChannelListener avSyncReceiverControlSessionName avTransSpecialDeviceId, none)
  | .checkInitialized engineId peerDevId =>
      (c, if !c.initialized then none else some (.checkConnected engineId peerDevId))
  | .checkConnected engineId peerDevId =>
      if peerDevId ∈ c.connectedDevIds then (c.setPeer engineId peerDevId, none)
      else (c, some (.registerSender engineId peerDevId))
  | .registerSender engineId peerDevId =>
      (c.registerChannelListener avSyncSenderControlSessionName avTransSpecialDeviceId,
        some (.openChannel engineId peerDevId))
  | .openChannel engineId peerDevId =>
      (c, if peerDevId = "" ∨ ch.opened = .sessionError then none
        else some (.insertPeer engineId peerDevId))
  | .insertPeer engineId peerDevId => (c.setPeer engineId peerDevId, none)
  | .insertCallback engineId callback =>
      match callback with
      | none => (c, none)
      | some callback =>
          (if (c.callbackMap.get engineId).isSome then c
            else { c with callbackMap := c.callbackMap.set engineId callback }, none)
  | .increment _ | .changeStream _ => (c, none)

/-- The next section of a call. -/
def advance (thread : Nat) (pc : EnginePc) : Option EngineIdState :=
  match pc with
  | .increment engineId => some ((s.handOut engineId).resume thread none)
  | .changeStream none => some (s.resume thread none)
  | .changeStream (some event) =>
      (streamStep printUnformatted s.syncManager event).map (fun syncManager =>
        { s with syncManager }.resume thread none)
  | pc =>
      let (center, pc) := centerSection ch s.center pc
      some ({ s with center }.resume thread pc)

end Sections

def step (printUnformatted : CJson → Option String) (s : EngineIdState) :
    EngineAct → Option EngineIdState
  | .call thread call => if (s.threads.get thread).isSome then none else s.begin thread call
  | .next thread ch => (s.threads.get thread).bind (s.advance printUnformatted ch thread)

end EngineIdState

def engineIdSystem (printUnformatted : CJson → Option String) :
    TransitionSystem EngineIdState EngineAct where
  init := fun s => s = {}
  step := EngineIdState.step printUnformatted

/-- The ids handed out are pairwise distinct, and a validation accepts an id exactly if
it had been handed out. -/
structure EngineIdsRight (s : EngineIdState) : Prop where
  distinct : s.handed.Nodup
  exact : ∀ check ∈ s.checks, check.accepted = check.handedOut

/-- The comparison with `rootEngineId_` tells the ids handed out from the others: of all
ids but the next one while the counter has not wrapped around; then of the ids that
have not been handed out; and of the first id alone once all have been. -/
def EngineIdState.tellsApart (s : EngineIdState) (engineId : Int) : Prop :=
  if s.handed.length = 4294967296 then engineId = baseEngineId
  else if s.center.rootEngineId < baseEngineId then
    s.center.rootEngineId ≤ engineId ∧ engineId < baseEngineId
  else engineId ≠ s.center.rootEngineId

/-- A call brings an id on which the comparison is right. An increment finds the value
that its initialisation has read, and some id is left. -/
def keepsEngineIds (s : EngineIdState) : EngineAct → Prop
  | .call _ call => ∀ engineId pc, call.validates = some (engineId, pc) → s.tellsApart engineId
  | .next thread _ =>
      ∀ engineId, s.threads.get thread = some (.increment engineId) →
        engineId = s.center.rootEngineId ∧ s.handed.length < 4294967296

section Sections
variable (ch : CenterChoice) (c : CenterState) (pc : EnginePc)

/-- Outside the increment `rootEngineId_` is only read. -/
theorem rootEngineId_centerSection :
    (EngineIdState.centerSection ch c pc).1.rootEngineId = c.rootEngineId := by
  cases pc with
  | createServer transRole =>
      obtain ⟨servers, heq⟩ := c.createChannelServer_eq ch avSyncReceiverControlSessionName
        pkgNameDhFwk
      show (c.createChannelServer _ _ _).2.rootEngineId = _
      rw [heq]
  | stopTimeSync peerDevId =>
      obtain ⟨names, heq⟩ := c.stopDeviceTimeSync_eq ch c.sessionName peerDevId
      show (c.stopDeviceTimeSync _ _ _).rootEngineId = _
      rw [heq]
  | closeChannel peerDevId =>
      show (c.closeSoftbusChannel _ _).rootEngineId = _
      rw [c.closeSoftbusChannel_eq]
  | erasePeer engineId =>
      simp only [EngineIdState.centerSection]
      split <;> rfl
  | eraseConnected peerDevId =>
      simp only [EngineIdState.centerSection]
      split <;> rfl
  | checkConnected engineId peerDevId =>
      simp only [EngineIdState.centerSection, CenterState.setPeer]
      split
      · split <;> rfl
      · rfl
  | insertPeer engineId peerDevId =>
      simp only [EngineIdState.centerSection, CenterState.setPeer]
      split <;> rfl
  | insertCallback engineId callback =>
      cases callback with
      | none => rfl
      | some callback =>
          simp only [EngineIdState.centerSection]
          split <;> rfl
  | _ => rfl

/-- A call that goes on to its increment has just read `rootEngineId_`. -/
theorem centerSection_increment {engineId : Int}
    (h : (EngineIdState.centerSection ch c pc).2 = some (.increment engineId)) :
    engineId = c.rootEngineId := by
  cases pc with
  | readEngineId =>
      cases h
      rfl
  | erasePeer _ | eraseConnected _ | checkConnected _ _ | insertCallback _ _ =>
      simp only [EngineIdState.centerSection] at h
      repeat' split at h
      all_goals cases h
  | createServer _ | checkInitialized _ _ | openChannel _ _ =>
      simp only [EngineIdState.centerSection] at h
      split at h <;> cases h
  | _ => cases h

end Sections

/-- The value of `rootEngineId_` after `n` increments. -/
def engineIdAt (n : Nat) : Int := wrapInt32 (baseEngineId + n)

/-- Nothing is handed out, and an increment yet to come has its value from before or
from `rootEngineId_`. -/
structure HandsOutNothing (s t : EngineIdState) : Prop where
  handed : t.handed = s.handed
  root : t.center.rootEngineId = s.center.rootEngineId
  readings : ∀ thread engineId, t.threads.get thread = some (.increment engineId) →
    s.threads.get thread = some (.increment engineId) ∨ engineId = s.center.rootEngineId

structure EngineIdInv (s : EngineIdState) : Prop where
  tickets : Tickets engineIdAt s.handed
  root : s.center.rootEngineId = engineIdAt s.handed.length
  readings : ∀ thread engineId, s.threads.get thread = some (.increment engineId) →
    ∃ j ≤ s.handed.length, engineId = engineIdAt j

section Steps
variable {s t : EngineIdState} {thread : Nat}

theorem handsOutNothing_resume {pc : Option EnginePc} (h : HandsOutNothing s t)
    (hpc : ∀ engineId, pc = some (.increment engineId) → engineId = s.center.rootEngineId) :
    HandsOutNothing s (t.resume thread pc) := by
  cases pc with
  | none =>
      refine ⟨h.handed, h.root, fun other engineId hother => ?_⟩
      have hother : Store.get (t.threads.erase thread) other = _ := hother
      rw [Store.get_erase] at hother
      split at hother
      · cases hother
      · exact h.readings other engineId hother
  | some pc =>
      refine ⟨h.handed, h.root, fun other engineId hother => ?_⟩
      have hother : (t.threads.set thread pc).get other = _ := hother
      rw [Store.get_set] at hother
      split at hother
      · exact .inr (hpc engineId hother)
      · exact h.readings other engineId hother

theorem not_increment_of_validates {call : EngineCall} {engineId : Int} {pc : EnginePc}
    (h : call.validates = some (engineId, pc)) (other : Int) : pc ≠ .increment other := by
  cases call <;> cases h <;> exact EnginePc.noConfusion

/-- A call hands nothing out, and adds the one validation it makes. -/
theorem begin_eq_some {call : EngineCall} (h : s.begin thread call = some t) :
    HandsOutNothing s t ∧
      match call.validates with
      | some (engineId, _) => isInt32 engineId = true ∧ t.checks = (s.validate engineId).checks
      | none => t.checks = s.checks := by
  have same : HandsOutNothing s s := ⟨rfl, rfl, fun _ _ hpc => .inl hpc⟩
  unfold EngineIdState.begin at h
  cases hcall : call.validates with
  | some found =>
      obtain ⟨engineId, pc⟩ := found
      have validated : HandsOutNothing s (s.validate engineId) := ⟨rfl, rfl, same.readings⟩
      simp only [hcall] at h ⊢
      split at h
      case isTrue => cases h
      case isFalse typed =>
        have typed : isInt32 engineId = true := by simpa using typed
        split at h
        · cases h
          exact ⟨validated, typed, rfl⟩
        · cases h
          exact ⟨handsOutNothing_resume validated (fun other hother =>
            absurd (Option.some.inj hother) (not_increment_of_validates hcall other)), typed, rfl⟩
  | none =>
      simp only [hcall] at h ⊢
      cases call with
      | initializeAVCenter transRole =>
          simp only at h
          split at h
          · cases h
            exact ⟨same, rfl⟩
          · split at h
            all_goals
              cases h
              exact ⟨handsOutNothing_resume same (fun other hother => nomatch hother), rfl⟩
      | _ => cases hcall

/-- A section other than the increment hands nothing out. -/
theorem advance_eq_some {printUnformatted : CJson → Option String} {ch : CenterChoice}
    {pc : EnginePc} (hpc : ∀ engineId, pc ≠ .increment engineId)
    (h : s.advance printUnformatted ch thread pc = some t) :
    HandsOutNothing s t ∧ t.checks = s.checks := by
  have same : HandsOutNothing s s := ⟨rfl, rfl, fun _ _ hreading => .inl hreading⟩
  unfold EngineIdState.advance at h
  split at h
  case h_1 engineId => exact absurd rfl (hpc engineId)
  case h_2 =>
    cases h
    exact ⟨handsOutNothing_resume same (fun other hother => nomatch hother), rfl⟩
  case h_3 event =>
    obtain ⟨syncManager, -, rfl⟩ := Option.map_eq_some_iff.mp h
    exact ⟨handsOutNothing_resume ⟨rfl, rfl, same.readings⟩
      (fun other hother => nomatch hother), rfl⟩
  case h_4 =>
    cases h
    refine ⟨handsOutNothing_resume ⟨rfl, rootEngineId_centerSection ch _ pc, same.readings⟩
      (fun other hother => centerSection_increment ch _ pc hother), ?_⟩
    exact EngineIdState.checks_resume _ _ _

variable {printUnformatted : CJson → Option String}

/-- What a step is: an increment, or a step that hands nothing out. -/
theorem engineIdStep_cases {a : EngineAct} (h : s.step printUnformatted a = some t) :
    (∃ thread ch engineId, a = .next thread ch ∧
      s.threads.get thread = some (.increment engineId) ∧
      t = (s.handOut engineId).resume thread none) ∨
    (∃ thread ch pc, a = .next thread ch ∧ s.threads.get thread = some pc ∧
      (∀ engineId, pc ≠ .increment engineId) ∧ HandsOutNothing s t ∧ t.checks = s.checks) ∨
    ∃ thread call, a = .call thread call ∧ HandsOutNothing s t ∧
      match call.validates with
      | some (engineId, _) => isInt32 engineId = true ∧ t.checks = (s.validate engineId).checks
      | none => t.checks = s.checks := by
  cases a with
  | call thread call =>
      simp only [EngineIdState.step] at h
      split at h
      · cases h
      · exact .inr (.inr ⟨thread, call, rfl, begin_eq_some h⟩)
  | next thread ch =>
      obtain ⟨pc, hpc, h⟩ := Option.bind_eq_some_iff.mp h
      by_cases hincrement : ∃ engineId, pc = .increment engineId
      · obtain ⟨engineId, rfl⟩ := hincrement
        exact .inl ⟨thread, ch, engineId, rfl, hpc, (Option.some.inj h).symm⟩
      · rw [not_exists] at hincrement
        exact .inr (.inl ⟨thread, ch, pc, rfl, hpc, hincrement, advance_eq_some hincrement h⟩)

theorem wrapInt32_engineIdAt_succ (n : Nat) :
    wrapInt32 (engineIdAt n + 1) = engineIdAt (n + 1) := by
  simp only [engineIdAt, wrapInt32]
  omega

theorem EngineIdInv.of_handsOutNothing (inv : EngineIdInv s) (h : HandsOutNothing s t) :
    EngineIdInv t := by
  constructor
  case tickets => exact h.handed ▸ inv.tickets
  case root => rw [h.root, h.handed, inv.root]
  case readings =>
    intro thread engineId hpc
    rw [h.handed]
    obtain before | rfl := h.readings thread engineId hpc
    · exact inv.readings thread engineId before
    · exact ⟨s.handed.length, Nat.le_refl _, inv.root⟩

theorem EngineIdInv.handOut (inv : EngineIdInv s) {engineId : Int}
    (hpc : s.threads.get thread = some (.increment engineId)) :
    EngineIdInv ((s.handOut engineId).resume thread none) := by
  obtain ⟨j, hj, heq⟩ := inv.readings thread engineId hpc
  constructor
  case tickets => exact heq ▸ inv.tickets.cons hj
  case root =>
    show wrapInt32 (s.center.rootEngineId + 1) = engineIdAt (s.handed.length + 1)
    rw [inv.root, wrapInt32_engineIdAt_succ]
  case readings =>
    intro other engineId hother
    have hother : Store.get (s.threads.erase thread) other = _ := hother
    rw [Store.get_erase] at hother
    split at hother
    · cases hother
    · obtain ⟨i, hi, heq⟩ := inv.readings other engineId hother
      exact ⟨i, Nat.le_succ_of_le hi, heq⟩

theorem engineIdInv_of_reachable (h : (engineIdSystem printUnformatted).Reachable s) :
    EngineIdInv s := by
  apply h.invariant
  case initial =>
    rintro _ rfl
    exact ⟨.nil, by simp [engineIdAt, wrapInt32, baseEngineId],
      fun thread engineId hpc => nomatch hpc⟩
  case preserved =>
    intro s a t inv hs
    obtain ⟨thread, ch, engineId, -, hpc, rfl⟩ | ⟨_, _, _, -, -, -, nothing, -⟩ |
      ⟨_, _, -, nothing, -⟩ := engineIdStep_cases hs
    · exact inv.handOut hpc
    · exact inv.of_handsOutNothing nothing
    · exact inv.of_handsOutNothing nothing

end Steps

section Exact
variable {s : EngineIdState} {engineId : Int}

theorem isInt32_engineIdAt (n : Nat) : isInt32 (engineIdAt n) = true := by
  rw [isInt32, Bool.and_eq_true, decide_eq_true_eq, decide_eq_true_eq, engineIdAt, wrapInt32]
  omega

theorem EngineIdInv.length_le (inv : EngineIdInv s) (distinct : s.handed.Nodup) :
    s.handed.length ≤ 4294967296 := by
  have within : s.handed.toFinset ⊆ Finset.Ico (-2147483648) 2147483648 := by
    intro id hid
    obtain ⟨j, -, heq⟩ := inv.tickets.earlier id (List.mem_toFinset.mp hid)
    have typed := isInt32_engineIdAt j
    rw [← heq] at typed
    simp only [isInt32, Bool.and_eq_true, decide_eq_true_eq] at typed
    exact Finset.mem_Ico.mpr typed
  calc s.handed.length = s.handed.toFinset.card := (List.toFinset_card_of_nodup distinct).symm
    _ ≤ (Finset.Ico (-2147483648 : Int) 2147483648).card := Finset.card_le_card within
    _ = 4294967296 := by rw [Int.card_Ico]; rfl

/-- An id is handed out where the counter has passed it. -/
theorem EngineIdInv.mem_handed_iff (inv : EngineIdInv s) (distinct : s.handed.Nodup)
    (typed : isInt32 engineId = true) :
    engineId ∈ s.handed ↔ (engineId - baseEngineId) % 4294967296 < s.handed.length := by
  have few := inv.length_le distinct
  simp only [isInt32, Bool.and_eq_true, decide_eq_true_eq] at typed
  rw [inv.tickets.mem_iff distinct]
  simp only [engineIdAt, wrapInt32, baseEngineId]
  constructor
  · intro ⟨j, hj, heq⟩
    omega
  · intro passed
    exact ⟨((engineId - 1000) % 4294967296).toNat, by omega, by omega⟩

theorem EngineIdInv.accepted_iff (inv : EngineIdInv s) (distinct : s.handed.Nodup)
    (typed : isInt32 engineId = true) :
    (!s.center.isInvalidEngineId engineId) = decide (engineId ∈ s.handed) ↔
      s.tellsApart engineId := by
  have few := inv.length_le distinct
  have hmem := inv.mem_handed_iff distinct typed
  have accepted : (!s.center.isInvalidEngineId engineId) = true ↔
      baseEngineId ≤ engineId ∧ engineId ≤ s.center.rootEngineId := by
    simp only [CenterState.isInvalidEngineId, Bool.not_eq_true', Bool.or_eq_false_iff,
      decide_eq_false_iff_not, not_lt]
  rw [Bool.eq_iff_iff, accepted, decide_eq_true_eq, hmem]
  have hroot := inv.root
  have hbase : baseEngineId = 1000 := rfl
  simp only [isInt32, Bool.and_eq_true, decide_eq_true_eq] at typed
  simp only [engineIdAt, wrapInt32] at hroot
  rw [EngineIdState.tellsApart]
  split
  · omega
  · split <;> omega

theorem EngineIdInv.fresh_iff (inv : EngineIdInv s) (distinct : s.handed.Nodup) {thread : Nat}
    (hpc : s.threads.get thread = some (.increment engineId)) :
    engineId ∉ s.handed ↔ engineId = s.center.rootEngineId ∧ s.handed.length < 4294967296 := by
  have few := inv.length_le distinct
  obtain ⟨j, hj, heq⟩ := inv.readings thread engineId hpc
  have typed : isInt32 engineId = true := heq ▸ isInt32_engineIdAt j
  rw [inv.mem_handed_iff distinct typed, inv.root]
  simp only [engineIdAt, wrapInt32, baseEngineId] at heq ⊢
  omega

end Exact

section Runs
variable {printUnformatted : CJson → Option String} {s t : EngineIdState} {a : EngineAct}

theorem engineIdsRight_of_handOut (right : EngineIdsRight s) {thread : Nat} {engineId : Int} :
    EngineIdsRight ((s.handOut engineId).resume thread none) ↔ engineId ∉ s.handed := by
  constructor
  · exact fun after => (List.nodup_cons.mp after.distinct).1
  · exact fun fresh => ⟨List.nodup_cons.mpr ⟨fresh, right.distinct⟩, right.exact⟩

theorem engineIdsRight_of_same (right : EngineIdsRight s) (handed : t.handed = s.handed)
    (checks : t.checks = s.checks) : EngineIdsRight t :=
  ⟨handed ▸ right.distinct, checks ▸ right.exact⟩

theorem engineIdsRight_of_validate (right : EngineIdsRight s) {engineId : Int}
    (handed : t.handed = s.handed) (checks : t.checks = (s.validate engineId).checks) :
    EngineIdsRight t ↔
      (!s.center.isInvalidEngineId engineId) = decide (engineId ∈ s.handed) := by
  constructor
  · intro after
    exact after.exact { engineId, accepted := !s.center.isInvalidEngineId engineId,
                        handedOut := engineId ∈ s.handed }
      (checks ▸ List.mem_cons_self)
  · intro agree
    refine ⟨handed ▸ right.distinct, fun check hcheck => ?_⟩
    rw [checks] at hcheck
    obtain rfl | before := List.mem_cons.mp hcheck
    · exact agree
    · exact right.exact check before

/-- From a state with right ids, one step keeps them right exactly where it meets the
condition. -/
theorem engineIdsRight_step (reach : (engineIdSystem printUnformatted).Reachable s)
    (right : EngineIdsRight s) (hs : s.step printUnformatted a = some t) :
    EngineIdsRight t ↔ keepsEngineIds s a := by
  have inv := engineIdInv_of_reachable reach
  obtain ⟨thread, ch, engineId, rfl, hpc, rfl⟩ |
    ⟨thread, ch, pc, rfl, hpc, other, nothing, checks⟩ |
    ⟨thread, call, rfl, nothing, checks⟩ := engineIdStep_cases hs
  · rw [engineIdsRight_of_handOut right, inv.fresh_iff right.distinct hpc]
    constructor
    · intro fresh id hid
      rw [hpc] at hid
      cases hid
      exact fresh
    · exact fun keeps => keeps engineId hpc
  · refine iff_of_true (engineIdsRight_of_same right nothing.handed checks) ?_
    intro engineId hid
    rw [hpc] at hid
    exact absurd (Option.some.inj hid) (other engineId)
  · cases hcall : call.validates with
    | none =>
        rw [hcall] at checks
        refine iff_of_true (engineIdsRight_of_same right nothing.handed checks) ?_
        intro engineId pc hid
        rw [hcall] at hid
        cases hid
    | some found =>
        obtain ⟨engineId, pc⟩ := found
        rw [hcall] at checks
        obtain ⟨typed, checks⟩ := checks
        rw [engineIdsRight_of_validate right nothing.handed checks,
          inv.accepted_iff right.distinct typed]
        constructor
        · intro apart id pc hid
          rw [hcall] at hid
          cases hid
          exact apart
        · exact fun keeps => keeps engineId pc hcall

/-- The runs through states with right ids are those whose steps meet the condition. -/
theorem run_engineIdsRight_iff {acts : List EngineAct} :
    (engineIdSystem printUnformatted).RunIn EngineIdsRight acts s ↔
      (engineIdSystem printUnformatted).Run keepsEngineIds acts s := by
  apply TransitionSystem.runIn_iff_run
  case initial =>
    rintro _ rfl
    exact ⟨List.nodup_nil, fun check hcheck => absurd hcheck List.not_mem_nil⟩
  case step_iff => exact fun s a t reach right hs => engineIdsRight_step reach right hs

/-- Two initialisations overlap and both hand out the first id; before any, a release of
that id is accepted. -/
theorem exists_engineIds_wrong :
    (∃ s, (engineIdSystem (fun _ => none)).Reachable s ∧
      s.handed = [baseEngineId, baseEngineId]) ∧
    ∃ s, (engineIdSystem (fun _ => none)).Reachable s ∧
      ∃ check ∈ s.checks, check.accepted = true ∧ check.handedOut = false := by
  have overlapping : ∃ s ∈ (engineIdSystem (fun _ => none)).replay (fun _ _ => True) {}
      [.call 0 (.initializeAVCenter .avSender), .next 0 {}, .next 0 {}, .next 0 {},
        .call 1 (.initializeAVCenter .avSender), .next 0 {}, .next 1 {}, .next 0 {},
        .next 1 {}],
      s.handed = [baseEngineId, baseEngineId] := by
    decide +kernel
  have early : ∃ s ∈ (engineIdSystem (fun _ => none)).replay (fun _ _ => True) {}
      [.call 0 (.releaseAVCenter baseEngineId)],
      ∃ check ∈ s.checks, check.accepted = true ∧ check.handedOut = false := by
    decide +kernel
  obtain ⟨s, hs, handed⟩ := overlapping
  obtain ⟨t, ht, wrong⟩ := early
  exact ⟨⟨s, (TransitionSystem.run_of_replay rfl hs).reachable, handed⟩,
    t, (TransitionSystem.run_of_replay rfl ht).reachable, wrong⟩

end Runs
end DistributedHardware
