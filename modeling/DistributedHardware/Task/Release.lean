import DistributedHardware.InnerKits.SaManager
import DistributedHardware.Task.UnInit
import DistributedHardware.Transport.Messages

/-!
Who releases the framework.

`UnInit` is called by an `OffLineTask` that has left the board and finds no device online,
no isomerism device connected and the board empty. A task that is removed later, or an
isomerism device that disconnects later, does not look again.
-/

namespace DistributedHardware

def isomerismEventKey : String := "isomerism_event"
def isomerismEventConnectVal : String := "isomerism_connect"
def isomerismEventDisconnectVal : String := "isomerism_disconnect"
def devIdKey : String := "dev_id"

def addIsomerismConnectDev (isomerismDeviceId : String) (devs : Finset String) : Finset String :=
  if !isIdLengthValid isomerismDeviceId then devs else insert isomerismDeviceId devs

def delIsomerismConnectDev (isomerismDeviceId : String) (devs : Finset String) : Finset String :=
  if !isIdLengthValid isomerismDeviceId then devs
  else if isomerismDeviceId ∉ devs then devs
  else devs.erase isomerismDeviceId

/-- `DHFWKIsomerismListener::OnMessage`. The members are found with regard to case and
checked without: where that yields another value than a string, there is no state after. -/
def onIsomerismMessage (parse : String → Option CJson) (topic : DHTopic) (message : String)
    (devs : Finset String) : Option (Finset String) :=
  if !isMessageLengthValid message then some devs
  else if topic ≠ .isomerism then some devs
  else
    match parse (cStr message) with
    | none => some devs
    | some messageJson =>
        match messageJson.getObjectItemCaseSensitive isomerismEventKey with
        | none => some devs
        | some eventObj =>
            if !messageJson.isString isomerismEventKey then some devs
            else
              match messageJson.getObjectItemCaseSensitive devIdKey with
              | none => some devs
              | some devObj =>
                  if !messageJson.isString devIdKey then some devs
                  else
                    match eventObj, devObj with
                    | .string event, .string deviceId =>
                        if event = isomerismEventConnectVal then
                          some (addIsomerismConnectDev deviceId devs)
                        else if event = isomerismEventDisconnectVal then
                          some (delIsomerismConnectDev deviceId devs)
                        else some devs
                    | _, _ => none

structure ReleaseState where
  sys : Sys := {}
  /-- A device went offline since the last `Init`. -/
  wentOffline : Bool := false

/-- The isomerism events come as messages. -/
inductive ReleaseAct
  | act (a : Act)
  | onMessage (topic : DHTopic) (message : String)

/-- `isInit_` after a section. -/
def initAfter (isInit : Bool) : Pc → Bool
  | .sendOnLine .storeIsInit _ => true
  | .sendOffLine .storeIsInit _ => true
  | .body .storeIsInitAgain => true
  | .body .storeIsInit => false
  | _ => isInit

/-- Whether a device went offline since the last `Init`, after a section. -/
def wentOfflineAfter (wentOffline : Bool) : Pc → Bool
  | .sendOffLine .deleteRealTime _ => true
  | .sendOnLine .storeIsInit _ => false
  | .sendOffLine .storeIsInit _ => false
  | .body .storeIsInitAgain => false
  | _ => wentOffline

section System
variable (sha256 : String → String) (parse : String → Option CJson)

def ReleaseState.step (s : ReleaseState) : ReleaseAct → Option ReleaseState
  | .act (.isomerism ..) => none
  | .act (.run p ch) =>
      (DistributedHardware.step sha256 s.sys (.run p ch)).map (fun sys =>
        { sys, wentOffline := wentOfflineAfter s.wentOffline (s.sys.pc p) })
  | .act a => (DistributedHardware.step sha256 s.sys a).map (fun sys => { s with sys })
  | .onMessage topic message =>
      (onIsomerismMessage parse topic message s.sys.sh.connectedDevIds).map (fun connectedDevIds =>
        { s with sys := { s.sys with sh := { s.sys.sh with connectedDevIds } } })

def releaseSystem : TransitionSystem ReleaseState ReleaseAct where
  init s := s = {}
  step := ReleaseState.step sha256 parse

end System

/-- A thread that goes on to call `UnInit` if nothing is left: an event that has taken its
device out and will add an `OffLineTask`, an `OffLineTask` that decides, or `UnInit` before
it has cleared `isInit_`. -/
def releasing (sh : Shared) : Pc → Bool
  | .sendOffLine pt _ =>
      pt = .realTimeCount || pt = .isomerismCount || pt = .storeFlagUnInit || pt = .createTask
  | .addTask id _ => sh.typeOf id = some .offLine
  | .body pt => pt.deciding || pt = .release || pt = .storeIsInit
  | _ => false

/-- The removal of a task that is not an `OffLineTask`. -/
def removesTask : Pc → Bool
  | .body .removeTask => true
  | .body .onLineRemoveTask => true
  | _ => false

namespace ReleaseState

def SomeoneReleases (s : ReleaseState) : Prop := ∃ p, releasing s.sys.sh (s.sys.pc p) = true

/-- Nothing is left, and the framework is initialised though a device went offline. -/
def NothingLeft (s : ReleaseState) : Prop :=
  s.sys.sh.tasks = ∅ ∧ s.sys.sh.realTimeOnLineNetworkIdSet = ∅ ∧ s.sys.sh.connectedDevIds = ∅ ∧
    s.wentOffline = true ∧ s.sys.sh.isInit = true

/-- Where nothing is left, someone goes on to release the framework. -/
def ReleaseComes (s : ReleaseState) : Prop := s.NothingLeft → s.SomeoneReleases

/-- The step takes away the last thing that was left: a task other than an `OffLineTask`,
or an isomerism device. -/
def TakesLast (parse : String → Option CJson) (s : ReleaseState) : ReleaseAct → Prop
  | .act (.run (.task id) _) =>
      removesTask (s.sys.pc (.task id)) = true ∧ s.sys.sh.tasks.erase id = ∅ ∧
        s.sys.sh.realTimeOnLineNetworkIdSet = ∅ ∧ s.sys.sh.connectedDevIds = ∅ ∧
        s.wentOffline = true ∧ s.sys.sh.isInit = true
  | .onMessage topic message =>
      onIsomerismMessage parse topic message s.sys.sh.connectedDevIds = some ∅ ∧
        s.sys.sh.tasks = ∅ ∧ s.sys.sh.realTimeOnLineNetworkIdSet = ∅ ∧
        s.wentOffline = true ∧ s.sys.sh.isInit = true
  | _ => False

/-- The last thing that is left is taken away while someone still goes on to release. -/
def LastIsSeen (parse : String → Option CJson) (s : ReleaseState) (a : ReleaseAct) : Prop :=
  s.TakesLast parse a → s.SomeoneReleases

/-- No call is in progress. -/
def Quiet (s : ReleaseState) : Prop := ∀ p, s.sys.pc p = .idle ∨ ∃ ret, s.sys.pc p = .returned ret

end ReleaseState

section Sections
variable {sha256 : String → String} {sh sh' : Shared} {ch : Choice} {p : ProcId} {c c' : Pc}

/-- What a section does to the sets that `UnInit` waits for, and to `isInit_`. -/
structure ReleaseEffect (sh sh' : Shared) (c : Pc) : Prop where
  isInit : sh'.isInit = initAfter sh.isInit c
  connectedDevIds : sh'.connectedDevIds = sh.connectedDevIds

theorem exec_release (h : exec sha256 sh ch p c = some (sh', c')) : ReleaseEffect sh sh' c := by
  have after := exec_outside h
  cases c with
  | sendOnLine pt param | sendOffLine pt param =>
      cases p with
      | task id => cases h
      | call n =>
          cases pt <;>
            exact ⟨congrArg Outside.isInit after, congrArg Outside.connectedDevIds after⟩
  | body pt =>
      cases p with
      | call n => cases h
      | task id =>
          obtain ⟨param, hparam, -⟩ := exec_body h
          simp only [outsideAfter, hparam] at after
          cases pt <;>
            exact ⟨congrArg Outside.isInit after, congrArg Outside.connectedDevIds after⟩
  | _ =>
      cases p <;> exact ⟨congrArg Outside.isInit after, congrArg Outside.connectedDevIds after⟩

/-- A section that takes the last thing away, or begins a release. -/
theorem exec_takesLast (h : exec sha256 sh ch p c = some (sh', c')) (tasks : sh'.tasks = ∅)
    (realTime : sh'.realTimeOnLineNetworkIdSet = ∅) :
    releasing sh' c' = true ∨ (sh.realTimeOnLineNetworkIdSet = ∅ ∧
      (sh.tasks = ∅ ∨ ∃ id, p = .task id ∧ removesTask c = true ∧ sh.tasks.erase id = ∅)) := by
  have before : releasing sh' c' = true ∨ sh.realTimeOnLineNetworkIdSet = ∅ := by
    cases exec_devices h with
    | same same => exact .inr (same.realTime ▸ realTime)
    | addRealTime => exact absurd realTime (Finset.insert_ne_empty _ _)
    | deleteRealTime => exact .inl rfl
    | addOnlineDevice | storeFlagUnInit | clearFlagUnInit | removeOnlineEntry | registerHardware
    | unRegisterHardware => exact .inr realTime
  refine before.elim .inl (fun online => ?_)
  cases exec_effect h with
  | call same | body same | finish same | bodyReturn same =>
      exact .inr ⟨online, .inl (same.tasks ▸ tasks)⟩
  | callCreate new | bodyCreate new =>
      exact .inr ⟨online, .inl (Shared.tasks_newTask new ▸ tasks)⟩
  | addChildrenTask =>
      exact .inr ⟨online, .inl (by simpa [Shared.tasks_addChildrenTask] using tasks)⟩
  | @addTask _ id =>
      have mem : id ∈ (sh.addTask id).tasks := (Shared.mem_tasks_addTask _ _ _).mpr (.inl rfl)
      rw [tasks] at mem
      exact absurd mem (Finset.notMem_empty id)
  | pushTask =>
      exact .inr ⟨online, .inl (by simpa [(Shared.sameBoard_pushTask sh _).tasks] using tasks)⟩
  | passWait => exact .inr ⟨online, .inl tasks⟩
  | notifyFather =>
      exact .inr ⟨online, .inl (by simpa [Shared.tasks_notifyFatherFinish] using tasks)⟩
  | @leaveBoard id pt _ _ same hpt =>
      rcases hpt with ⟨-, rfl⟩ | ⟨hstage, hkind⟩
      · exact .inl rfl
      · refine .inr ⟨online, .inr ⟨id, rfl, ?_, same.tasks.symm.trans tasks⟩⟩
        cases pt <;> first | rfl | cases hstage

/-- A removal changes the board only, and ends its thread. -/
theorem exec_removesTask (h : exec sha256 sh ch p c = some (sh', c')) (hc : removesTask c = true) :
    ∃ id, p = .task id ∧ sh'.tasks = sh.tasks.erase id ∧
      (∀ id', sh'.typeOf id' = sh.typeOf id') ∧
      sh'.realTimeOnLineNetworkIdSet = sh.realTimeOnLineNetworkIdSet ∧
      sh'.connectedDevIds = sh.connectedDevIds ∧ sh'.isInit = sh.isInit ∧
      c' = .returned dhFwkSuccess := by
  cases c with
  | body pt =>
      cases p with
      | call n => cases h
      | task id =>
          obtain ⟨param, -, h⟩ := exec_body h
          cases pt with
          | removeTask =>
              obtain ⟨rfl, rfl⟩ := h
              exact ⟨id, rfl, rfl, fun _ => rfl, rfl, rfl, rfl, rfl⟩
          | onLineRemoveTask =>
              obtain ⟨rfl, rfl⟩ := h
              have same := Shared.sameTasks_setTaskState sh id .success
              exact ⟨id, rfl, rfl, same.typeOf, rfl, rfl, rfl, rfl⟩
          | _ => cases hc
  | _ => cases hc

theorem not_releasing_of_removesTask (hc : removesTask c = true) : releasing sh c = false := by
  cases c with
  | body pt => cases pt <;> first | rfl | cases hc
  | _ => cases hc

theorem wentOfflineAfter_of_removesTask (hc : removesTask c = true) (wentOffline : Bool) :
    wentOfflineAfter wentOffline c = wentOffline := by
  cases c with
  | body pt => cases pt <;> first | rfl | cases hc
  | _ => cases hc

/-- A device is out from its event on, which goes on to release. -/
theorem exec_wentOffline (h : exec sha256 sh ch p c = some (sh', c')) {isInit wentOffline : Bool}
    (hinit : initAfter isInit c = true) (hwent : wentOfflineAfter wentOffline c = true) :
    releasing sh' c' = true ∨ (wentOffline = true ∧ isInit = true) := by
  cases c with
  | sendOnLine pt param =>
      cases pt with
      | storeIsInit => cases hwent
      | _ => exact .inr ⟨hwent, hinit⟩
  | sendOffLine pt param =>
      cases pt with
      | deleteRealTime =>
          cases p with
          | task id => cases h
          | call n =>
              obtain ⟨rfl, rfl⟩ := h
              exact .inl rfl
      | storeIsInit => cases hwent
      | _ => exact .inr ⟨hwent, hinit⟩
  | body pt =>
      cases pt with
      | storeIsInit => cases hinit
      | storeIsInitAgain => cases hwent
      | _ => exact .inr ⟨hwent, hinit⟩
  | _ => exact .inr ⟨hwent, hinit⟩

/-- A thread that goes on to release does so while nothing is left. -/
theorem exec_releasing (h : exec sha256 sh ch p c = some (sh', c')) (hc : releasing sh c = true)
    (tasks : sh.tasks = ∅) (realTime : sh.realTimeOnLineNetworkIdSet = ∅)
    (connected : sh.connectedDevIds = ∅) :
    releasing sh' c' = true ∨ sh'.tasks ≠ ∅ ∨ sh'.isInit = false := by
  cases c with
  | sendOffLine pt param =>
      cases p with
      | task id => cases h
      | call n =>
          cases pt with
          | realTimeCount | isomerismCount =>
              obtain ⟨rfl, rfl⟩ := h
              left
              simp [Shared.getRealTimeOnlineDeviceCount, Shared.getIsomerismConnectCount, realTime,
                connected, releasing]
          | storeFlagUnInit =>
              obtain ⟨rfl, rfl⟩ := h
              exact .inl rfl
          | createTask =>
              obtain ⟨hnew, rfl⟩ := createThen_eq_some h
              exact .inl (by simp [releasing, Shared.typeOf_newTask hnew])
          | _ => cases hc
  | addTask id next =>
      have he : sh' = sh.addTask id := by cases p <;> obtain ⟨rfl, -⟩ := h <;> rfl
      subst he
      have mem : id ∈ (sh.addTask id).tasks := (Shared.mem_tasks_addTask _ _ _).mpr (.inl rfl)
      exact .inr (.inl (Finset.ne_empty_of_mem mem))
  | body pt =>
      cases p with
      | call n => cases h
      | task id =>
          obtain ⟨param, -, h⟩ := exec_body h
          cases pt with
          | realTimeCount | isomerismCount | allTaskFinish =>
              obtain ⟨rfl, rfl⟩ := h
              left
              simp [Shared.getRealTimeOnlineDeviceCount, Shared.getIsomerismConnectCount,
                Shared.isAllTaskFinish, realTime, connected, tasks, releasing, TaskPoint.deciding]
          | release =>
              obtain ⟨rfl, rfl⟩ := h
              exact .inl rfl
          | storeIsInit =>
              obtain ⟨rfl, rfl⟩ := h
              exact .inr (.inr rfl)
          | _ => cases hc
  | _ => cases hc

end Sections

section Steps
variable {sha256 : String → String} {parse : String → Option CJson} {s t : Sys} {a : Act}

/-- Steps that are neither a section of a thread nor a message touch none of the sets. -/
structure SameRelease (sh sh' : Shared) : Prop where
  tasks : sh'.tasks = sh.tasks
  realTime : sh'.realTimeOnLineNetworkIdSet = sh.realTimeOnLineNetworkIdSet
  connectedDevIds : sh'.connectedDevIds = sh.connectedDevIds
  isInit : sh'.isInit = sh.isInit

theorem step_sameRelease (h : step sha256 s a = some t) (norun : ∀ p ch, a ≠ .run p ch)
    (nomessage : ∀ connected deviceId, a ≠ .isomerism connected deviceId) :
    SameRelease s.sh t.sh := by
  cases a with
  | run p ch => exact absurd rfl (norun p ch)
  | isomerism connected deviceId => exact absurd rfl (nomessage connected deviceId)
  | call _ _ | popTask | postTask _ =>
      simp only [step] at h
      split at h <;> cases h
      exact ⟨rfl, rfl, rfl, rfl⟩
  | runPosted =>
      simp only [step] at h
      split at h
      · split at h <;> cases h <;> exact ⟨rfl, rfl, rfl, rfl⟩
      · cases h
  | startSubmitted id =>
      simp only [step] at h
      split at h
      · split at h <;> cases h
        exact ⟨rfl, rfl, rfl, rfl⟩
      · cases h
  | registries _ _ _ =>
      cases h
      exact ⟨rfl, rfl, rfl, rfl⟩

theorem releasing_of_keeps {sh sh' : Shared} {c : Pc} (h : releasing sh c = true)
    (keeps : ∀ id, sh.allocated id → sh'.typeOf id = sh.typeOf id) : releasing sh' c = true := by
  cases c with
  | addTask id next =>
      have hk : sh.typeOf id = some .offLine := by simpa [releasing] using h
      simpa [releasing] using (keeps id (Shared.allocated_of_typeOf hk)).trans hk
  | sendOffLine _ _ | body _ => exact h
  | _ => cases h

/-- Threads that a step does not move go on releasing. -/
theorem releasing_stays (hs : step sha256 s a = some t) {q : ProcId} (stays : t.pc q = s.pc q)
    (h : releasing s.sh (s.pc q) = true) : releasing t.sh (t.pc q) = true := by
  rw [stays]
  exact releasing_of_keeps h (fun id hid => (step_keepsTask hs hid).typeOf)

namespace ReleaseState
variable {s t : ReleaseState}

theorem nothingLeft_of_sameRelease {sys : Sys} (same : SameRelease s.sys.sh sys.sh) :
    ReleaseState.NothingLeft { s with sys } ↔ s.NothingLeft := by
  simp only [NothingLeft, same.tasks, same.realTime, same.connectedDevIds, same.isInit]

/-- A step that is no section of a thread leaves every releasing thread in place. -/
theorem releaseComes_of_move {sys : Sys} (h : ReleaseComes s) (life : Lifecycle s.sys)
    (hs : DistributedHardware.step sha256 s.sys a = some sys) (norun : ∀ p ch, a ≠ .run p ch)
    (nomessage : ∀ connected deviceId, a ≠ .isomerism connected deviceId) :
    ReleaseComes { s with sys } := by
  intro nothing
  obtain ⟨q, hq⟩ :=
    h ((nothingLeft_of_sameRelease (step_sameRelease hs norun nomessage)).mp nothing)
  refine ⟨q, ?_⟩
  cases thread_step life hs q with
  | stays hpc => exact releasing_stays hs hpc hq
  | called _ hidle | started _ hidle =>
      rw [hidle] at hq
      cases hq
  | @runs ch => exact absurd rfl (norun q ch)

variable (parse) in
/-- Where nothing is left after a section, it was so before, or the section began a release
or took the last thing away. -/
theorem nothingLeft_before {p : ProcId} {ch : Choice} {sh' : Shared} {c' : Pc}
    (h : exec sha256 s.sys.sh ch p (s.sys.pc p) = some (sh', c'))
    (nothing : ReleaseState.NothingLeft
      ⟨{ s.sys with sh := sh' }.setPc p c', wentOfflineAfter s.wentOffline (s.sys.pc p)⟩) :
    releasing sh' c' = true ∨ s.NothingLeft ∨ s.TakesLast parse (.act (.run p ch)) := by
  obtain ⟨tasks, realTime, connected, went, isInit⟩ := nothing
  have effect := exec_release h
  obtain begins | ⟨online, board⟩ := exec_takesLast h tasks realTime
  · exact .inl begins
  · have isomerism : s.sys.sh.connectedDevIds = ∅ := effect.connectedDevIds.symm.trans connected
    obtain begins | ⟨wentBefore, initBefore⟩ :=
      exec_wentOffline h (effect.isInit.symm.trans isInit) went
    · exact .inl begins
    · obtain board | ⟨id, rfl, removes, last⟩ := board
      · exact .inr (.inl ⟨board, online, isomerism, wentBefore, initBefore⟩)
      · exact .inr (.inr ⟨removes, last, online, isomerism, wentBefore, initBefore⟩)

theorem releaseComes_run_iff {p : ProcId} {ch : Choice} {sys : Sys} (h : ReleaseComes s)
    (hs : DistributedHardware.step sha256 s.sys (.run p ch) = some sys) :
    ReleaseComes ⟨sys, wentOfflineAfter s.wentOffline (s.sys.pc p)⟩ ↔
      s.LastIsSeen parse (.act (.run p ch)) := by
  have hstep := hs
  obtain ⟨sh', c', he, rfl⟩ := step_run hs
  have others {q : ProcId} (hne : q ≠ p) (hq : releasing s.sys.sh (s.sys.pc q) = true) :
      SomeoneReleases ⟨{ s.sys with sh := sh' }.setPc p c',
        wentOfflineAfter s.wentOffline (s.sys.pc p)⟩ :=
    ⟨q, releasing_stays hstep (by rw [Sys.pc_setPc, if_neg hne]; rfl) hq⟩
  constructor
  · intro comes takes
    cases p with
    | call n => exact takes.elim
    | task id =>
        obtain ⟨removes, last, realTime, connected, went, isInit⟩ := takes
        obtain ⟨_, hid, tasks, types, online, isomerism, init, rfl⟩ := exec_removesTask he removes
        cases hid
        have wentAfter := (wentOfflineAfter_of_removesTask removes s.wentOffline).trans went
        obtain ⟨q, hq⟩ := comes ⟨tasks.trans last, online.trans realTime,
          isomerism.trans connected, wentAfter, init.trans isInit⟩
        rw [Sys.pc_setPc] at hq
        split at hq
        case isTrue => cases hq
        case isFalse => exact ⟨q, releasing_of_keeps hq (fun id _ => (types id).symm)⟩
  · intro seen nothing
    obtain begins | before | takes := nothingLeft_before parse he nothing
    · exact ⟨p, by rw [Sys.pc_setPc_self]; exact begins⟩
    · obtain ⟨q, hq⟩ := h before
      by_cases hqp : q = p
      · subst hqp
        obtain goes | added | uninit := exec_releasing he hq before.1 before.2.1 before.2.2.1
        · exact ⟨q, by rw [Sys.pc_setPc_self]; exact goes⟩
        · exact absurd nothing.1 added
        · exact absurd (uninit.symm.trans nothing.2.2.2.2) Bool.false_ne_true
      · exact others hqp hq
    · obtain ⟨q, hq⟩ := seen takes
      by_cases hqp : q = p
      · subst hqp
        cases q with
        | call n => exact takes.elim
        | task id =>
            rw [not_releasing_of_removesTask takes.1] at hq
            cases hq
      · exact others hqp hq

/-- A step is a section of a thread, another step of the system, or a message. -/
inductive Moves (sha256 : String → String) (parse : String → Option CJson) (s : ReleaseState) :
    ReleaseAct → ReleaseState → Prop
  | run {p : ProcId} {ch : Choice} {sys : Sys} :
      DistributedHardware.step sha256 s.sys (.run p ch) = some sys →
      Moves sha256 parse s (.act (.run p ch)) ⟨sys, wentOfflineAfter s.wentOffline (s.sys.pc p)⟩
  | other {a : Act} {sys : Sys} : DistributedHardware.step sha256 s.sys a = some sys →
      (∀ p ch, a ≠ .run p ch) → (∀ connected deviceId, a ≠ .isomerism connected deviceId) →
      Moves sha256 parse s (.act a) { s with sys }
  | onMessage {topic : DHTopic} {message : String} {devs : Finset String} :
      onIsomerismMessage parse topic message s.sys.sh.connectedDevIds = some devs →
      Moves sha256 parse s (.onMessage topic message)
        { s with sys := { s.sys with sh := { s.sys.sh with connectedDevIds := devs } } }

theorem moves_of_step {a : ReleaseAct} (hs : s.step sha256 parse a = some t) :
    Moves sha256 parse s a t := by
  cases a with
  | onMessage topic message =>
      obtain ⟨devs, hdevs, rfl⟩ := Option.map_eq_some_iff.mp hs
      exact .onMessage hdevs
  | act a =>
      cases a with
      | isomerism => cases hs
      | run p ch =>
          obtain ⟨sys, hstep, rfl⟩ := Option.map_eq_some_iff.mp hs
          exact .run hstep
      | registries caps localCaps metas =>
          cases hs
          exact .other rfl (fun _ _ heq => by cases heq) (fun _ _ heq => by cases heq)
      | _ =>
          obtain ⟨sys, hstep, rfl⟩ := Option.map_eq_some_iff.mp hs
          exact .other hstep (fun _ _ heq => by cases heq) (fun _ _ heq => by cases heq)

/-- The release comes after a step exactly if the step takes nothing last that no one will
see. -/
theorem releaseComes_step_iff {a : ReleaseAct} (h : ReleaseComes s) (life : Lifecycle s.sys)
    (hs : s.step sha256 parse a = some t) : ReleaseComes t ↔ s.LastIsSeen parse a := by
  cases moves_of_step hs with
  | run hstep => exact releaseComes_run_iff h hstep
  | @other a sys hstep norun nomessage =>
      refine iff_of_true (releaseComes_of_move h life hstep norun nomessage) ?_
      intro takes
      cases a with
      | run p ch => exact absurd rfl (norun p ch)
      | _ => exact takes.elim
  | @onMessage topic message devs hdevs =>
      constructor
      · intro comes takes
        obtain ⟨hnone, tasks, realTime, went, isInit⟩ := takes
        have hempty : devs = ∅ := Option.some.inj (hdevs.symm.trans hnone)
        exact comes ⟨tasks, realTime, hempty, went, isInit⟩
      · intro seen nothing
        obtain ⟨tasks, realTime, connected, went, isInit⟩ := nothing
        have hempty : devs = ∅ := connected
        exact seen ⟨hempty ▸ hdevs, tasks, realTime, went, isInit⟩

/-- A message connects or disconnects one device, or changes nothing. -/
theorem onIsomerismMessage_cases {topic : DHTopic} {message : String} {devs devs' : Finset String}
    (h : onIsomerismMessage parse topic message devs = some devs') :
    devs' = devs ∨ ∃ (connected : Bool) (deviceId : String), devs' =
      if !isIdLengthValid deviceId then devs
      else if connected then insert deviceId devs else devs.erase deviceId := by
  have unchanged (h : some devs = some devs') : devs' = devs := (Option.some.inj h).symm
  unfold onIsomerismMessage at h
  split at h
  · exact .inl (unchanged h)
  split at h
  · exact .inl (unchanged h)
  split at h
  · exact .inl (unchanged h)
  split at h
  · exact .inl (unchanged h)
  split at h
  · exact .inl (unchanged h)
  split at h
  · exact .inl (unchanged h)
  split at h
  · exact .inl (unchanged h)
  split at h
  case h_1 event deviceId _ _ =>
    split at h
    · refine .inr ⟨true, deviceId, ?_⟩
      rw [← Option.some.inj h]
      rfl
    split at h
    · refine .inr ⟨false, deviceId, ?_⟩
      rw [← Option.some.inj h]
      unfold delIsomerismConnectDev
      split
      · rfl
      · split
        case isTrue absent => simp [Finset.erase_eq_of_notMem absent]
        case isFalse => rfl
    · exact .inl (unchanged h)
  case h_2 => cases h

theorem reachable_sys_release (h : (releaseSystem sha256 parse).Reachable s) :
    (taskSystem sha256).Reachable s.sys := by
  refine h.invariant (I := fun s => (taskSystem sha256).Reachable s.sys) ?_ ?_
  · rintro _ rfl
    exact .init rfl
  · intro s a t reach hs
    cases moves_of_step hs with
    | run hstep => exact reachable_step reach hstep
    | other hstep => exact reachable_step reach hstep
    | onMessage hdevs =>
        obtain rfl | ⟨connected, deviceId, rfl⟩ := onIsomerismMessage_cases hdevs
        · exact reach
        · exact reach.step (a := .isomerism connected deviceId) rfl

/-- In every run the release comes where nothing is left, exactly as long as nothing is
taken away last that no one sees; where no call is in progress, it has come. -/
theorem released_run_iff {acts : List ReleaseAct} :
    ((releaseSystem sha256 parse).RunIn ReleaseComes acts s ↔
        (releaseSystem sha256 parse).Run (LastIsSeen parse) acts s) ∧
      ((releaseSystem sha256 parse).Run (LastIsSeen parse) acts s → s.Quiet →
        s.sys.sh.tasks = ∅ → s.sys.sh.realTimeOnLineNetworkIdSet = ∅ →
        s.sys.sh.connectedDevIds = ∅ → s.wentOffline = true → s.sys.sh.isInit = false) := by
  have initial (s : ReleaseState) (hi : (releaseSystem sha256 parse).init s) :
      ReleaseComes s := by
    cases hi
    intro nothing
    cases nothing.2.2.2.1
  have runs : (releaseSystem sha256 parse).RunIn ReleaseComes acts s ↔
      (releaseSystem sha256 parse).Run (LastIsSeen parse) acts s :=
    TransitionSystem.runIn_iff_run initial (fun _ _ _ reach comes hs =>
      releaseComes_step_iff comes (lifecycle (reachable_sys_release reach)) hs)
  refine ⟨runs, ?_⟩
  intro run quiet tasks realTime connected went
  by_contra isInit
  obtain ⟨p, hp⟩ := (runs.mpr run).good initial
    ⟨tasks, realTime, connected, went, Bool.eq_true_of_not_eq_false isInit⟩
  obtain idle | ⟨ret, returned⟩ := quiet p
  · rw [idle] at hp
    cases hp
  · rw [returned] at hp
    cases hp

instance (parse : String → Option CJson) (s : ReleaseState) (a : ReleaseAct) :
    Decidable (s.TakesLast parse a) := by
  unfold TakesLast
  split <;> infer_instance

end ReleaseState
end Steps

section Schedules

/-- The messages of an isomerism device that connects and disconnects. -/
def sampleMessage (message : String) : Option CJson :=
  some (.object [(isomerismEventKey, .string message), (devIdKey, .string "D")])

/-- Device A comes online. -/
def onlineA : List Act :=
  .call 0 (.sendOnLineEvent deviceA) :: runs (.call 0) 10 { newId := 1 } ++
  dispatch ++ runs (.task 1) 11 { newId := 2 } ++
  dispatch ++ .startSubmitted 2 :: runs (.task 2) 2 {}

/-- It goes offline: `sections` of its event, and `decision` of its `OffLineTask` from the
wait for its `MetaDisableTask` on. -/
def offlineA (sections decision : Nat) : List Act :=
  .call 1 (.sendOffLineEvent deviceA) :: runs (.call 1) sections { newId := 3 } ++
  dispatch ++ .startSubmitted 3 :: runs (.task 3) 8 { newId := 4 } ++
  dispatch ++ .startSubmitted 4 :: runs (.task 4) 3 {} ++ runs (.task 3) decision {}

theorem quiet_of_keys {s : ReleaseState}
    (h : ∀ p ∈ s.sys.pcs.keys, s.sys.pc p = .returned dhFwkSuccess) : s.Quiet := by
  intro p
  by_cases mem : p ∈ s.sys.pcs.keys
  · exact .inr ⟨_, h p mem⟩
  · exact .inl (Sys.pc_of_notMem_keys mem)

/-- The last device goes offline with nothing else left, and the framework is released. -/
theorem released_run_deviceA : ∃ s : ReleaseState,
    s.Quiet ∧ s.wentOffline = true ∧ s.sys.sh.isInit = false := by
  have replayed : ∃ s ∈ (releaseSystem sampleSha256 sampleMessage).replay
      (fun s a => ¬ s.TakesLast sampleMessage a) {} ((onlineA ++ offlineA 9 11).map .act),
      (∀ p ∈ s.sys.pcs.keys, s.sys.pc p = .returned dhFwkSuccess) ∧ s.sys.sh.tasks = ∅ ∧
        s.sys.sh.realTimeOnLineNetworkIdSet = ∅ ∧ s.sys.sh.connectedDevIds = ∅ ∧
        s.wentOffline = true := by
    decide +kernel
  obtain ⟨s, hs, keys, tasks, realTime, connected, went⟩ := replayed
  have quiet := quiet_of_keys keys
  have run : (releaseSystem sampleSha256 sampleMessage).Run
      (ReleaseState.LastIsSeen sampleMessage) _ s :=
    (TransitionSystem.run_of_replay rfl hs).mono
      (fun s a notLast takes => absurd takes notLast)
  exact ⟨s, quiet, went,
    ReleaseState.released_run_iff.2 run quiet tasks realTime connected went⟩

/-- An isomerism device that disconnects after the last device went offline. -/
theorem exists_not_released : ∃ s, (releaseSystem sampleSha256 sampleMessage).Reachable s ∧
    s.Quiet ∧ s.sys.sh.tasks = ∅ ∧ s.sys.sh.realTimeOnLineNetworkIdSet = ∅ ∧
    s.sys.sh.connectedDevIds = ∅ ∧ s.wentOffline = true ∧ s.sys.sh.isInit = true := by
  have replayed : ∃ s ∈ (releaseSystem sampleSha256 sampleMessage).replay (fun _ _ => True) {}
      (.onMessage .isomerism isomerismEventConnectVal :: (onlineA ++ offlineA 8 6).map .act ++
        [.onMessage .isomerism isomerismEventDisconnectVal]),
      (∀ p ∈ s.sys.pcs.keys, s.sys.pc p = .returned dhFwkSuccess) ∧ s.sys.sh.tasks = ∅ ∧
        s.sys.sh.realTimeOnLineNetworkIdSet = ∅ ∧ s.sys.sh.connectedDevIds = ∅ ∧
        s.wentOffline = true ∧ s.sys.sh.isInit = true := by
    decide +kernel
  obtain ⟨s, hs, keys, left⟩ := replayed
  exact ⟨s, (TransitionSystem.run_of_replay rfl hs).reachable, quiet_of_keys keys, left⟩

end Schedules
end DistributedHardware
