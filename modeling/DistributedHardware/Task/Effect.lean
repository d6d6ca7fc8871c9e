import Mathlib.Data.List.Perm.Basic
import DistributedHardware.Task.Step

/-!
What a step can do to the structures that carry tasks.

The board, the executor's queue and the waiting sets of the `OffLineTask`s change
in few of the sections. `Effect` and `StepEffect` list the ways, with the facts
about the thread's position that the invariants need; `step_effect` is the only
place where the sections are taken apart for them.
-/

namespace DistributedHardware

/-- How far a body has got: 0 while it works, 1 for an `OffLineTask` past its
wait, 2 when only the removal from the board is left, 3 after that removal. -/
def TaskPoint.stage : TaskPoint → Nat
  | .removeOnlineEntry | .clearOffLineInfo | .offLineRemoveTask => 1
  | .removeTask | .onLineRemoveTask => 2
  | .realTimeCount | .isomerismCount | .allTaskFinish | .release | .storeIsInit
  | .storeFlagUnInit | .checkExitSa | .managerInitialize | .storeIsInitAgain => 3
  | _ => 0

/-- The kinds of task a section belongs to. -/
def TaskPoint.kinds : TaskPoint → List TaskType
  | .registerHardware | .saveEnabledDevice => [.enable]
  | .unRegisterHardware | .removeEnabledDevice => [.disable]
  | .notifyFather => [.disable, .metaDisable]
  | .metaEnable => [.metaEnable]
  | .metaDisable => [.metaDisable]
  | .removeTask => [.enable, .disable, .metaEnable, .metaDisable]
  | .syncLocal | .syncMeta | .onLineReadCaps | .onLineReadLocal | .onLineReadMeta
  | .createEnable _ | .createMetaEnable | .onLineRemoveTask => [.onLine]
  | _ => [.offLine]

theorem TaskPoint.eq_removeTask {pt : TaskPoint} {kind : TaskType}
    (disabling : kind = .disable ∨ kind = .metaDisable) (hk : kind ∈ pt.kinds)
    (h : 2 ≤ pt.stage) : pt = .removeTask := by
  obtain rfl | rfl := disabling <;> cases pt <;> simp_all [kinds, stage]

def Next.stage : Next → Nat
  | .returned _ => 3
  | .body pt => pt.stage

/-- Where a task of one kind can go on after creating another. -/
def Next.Fits (taskType : TaskType) : Next → Prop
  | .returned _ => False
  | .body pt => taskType ∈ pt.kinds ∧ pt.stage ≠ 3

namespace Pc

/-- The task a thread is creating, up to its `PushTask`. -/
def creating : Pc → Option TaskId
  | .addChildrenTask id _ | .addTask id _ | .pushTask id _ => some id
  | _ => none

/-- The task a thread is creating, while it is not yet on the board. -/
def adding : Pc → Option TaskId
  | .addChildrenTask id _ | .addTask id _ => some id
  | _ => none

/-- Where a body is, or goes on after the task it is creating. -/
def point : Pc → Option TaskPoint
  | .body pt | .addChildrenTask _ (.body pt) | .addTask _ (.body pt)
  | .pushTask _ (.body pt) => some pt
  | _ => none

def stage : Pc → Nat
  | .returned _ => 3
  | .body pt => pt.stage
  | .addChildrenTask _ next | .addTask _ next | .pushTask _ next => next.stage
  | _ => 0

@[simp] theorem stage_idle : idle.stage = 0 := rfl

@[simp] theorem stage_returned (ret : Int) : (returned ret).stage = 3 := rfl

@[simp] theorem stage_body (pt : TaskPoint) : (body pt).stage = pt.stage := rfl

@[simp] theorem stage_addChildrenTask (id : TaskId) (next : Next) :
    (addChildrenTask id next).stage = next.stage := rfl

@[simp] theorem stage_addTask (id : TaskId) (next : Next) :
    (addTask id next).stage = next.stage := rfl

@[simp] theorem stage_pushTask (id : TaskId) (next : Next) :
    (pushTask id next).stage = next.stage := rfl

/-- The program points a task of one kind can be at. -/
def Fits (taskType : TaskType) : Pc → Prop
  | .idle | .returned _ => True
  | .body pt => taskType ∈ pt.kinds
  | .addChildrenTask _ next | .addTask _ next | .pushTask _ next =>
      (taskType = .onLine ∨ taskType = .offLine) ∧ next.Fits taskType
  | .sendOnLine _ _ | .sendOffLine _ _ | .createTask _ _ => False

end Pc

@[simp] theorem Next.stage_body (pt : TaskPoint) : (Next.body pt).stage = pt.stage := rfl

@[simp] theorem Next.stage_pc (next : Next) : next.pc.stage = next.stage := by
  cases next <;> rfl

@[simp] theorem Next.creating_pc (next : Next) : next.pc.creating = none := by
  cases next <;> rfl

@[simp] theorem Next.adding_pc (next : Next) : next.pc.adding = none := by
  cases next <;> rfl

theorem Next.Fits.pc {next : Next} {taskType : TaskType} (h : next.Fits taskType) :
    next.pc.Fits taskType := by
  cases next with
  | returned ret => exact h.elim
  | body pt => exact h.1

theorem Pc.creating_of_adding {c : Pc} {id : TaskId} (h : c.adding = some id) :
    c.creating = some id := by
  cases c <;> first | exact h | cases h

theorem Pc.adding_eq_none {c : Pc} (h : c.creating = none) : c.adding = none := by
  cases hc : c.adding with
  | none => rfl
  | some id => rw [Pc.creating_of_adding hc] at h; cases h

theorem creating_entryOfCall (c : Call) : (entryOfCall c).creating = none := by
  cases c <;> simp only [entryOfCall] <;> (try split) <;> rfl

@[simp] theorem stage_entryOf (taskType : TaskType) : (entryOf taskType).stage = 0 := by
  cases taskType <;> rfl

theorem fits_entryOf (taskType : TaskType) : (Pc.body (entryOf taskType)).Fits taskType := by
  cases taskType <;> simp [entryOf, Pc.Fits, TaskPoint.kinds]

open Shared

/-- What a body creates: the kind and the parameters of the child, and where the
body goes on. -/
inductive Child (sh : Shared) (f : TaskId) :
    TaskPoint → TaskPoint → TaskType → TaskParam → Prop
  | enabling {pt next : TaskPoint} {taskType : TaskType} {param : TaskParam} :
      pt.kinds = [.onLine] → next.kinds = [.onLine] → pt.stage = 0 → next.stage ≠ 3 →
      (taskType = .enable ∨ taskType = .metaEnable) → Child sh f pt next taskType param
  | metaDisable {param : TaskParam} : sh.paramOf f = some param →
      Child sh f .createMetaDisable .offLineReadCaps .metaDisable { param with udid := "" }
  | disable {param : TaskParam} {info : String × DhType} {infos : List (String × DhType)} :
      sh.paramOf f = some param →
      Child sh f (.createDisable (info :: infos)) (.createDisable infos) .disable
        { param with udid := "", dhId := info.1, dhType := info.2 }

theorem Child.spec {sh : Shared} {f : TaskId} {pt next : TaskPoint} {taskType : TaskType}
    {param : TaskParam} (h : Child sh f pt next taskType param) :
    pt.stage = 0 ∧ taskType ≠ .offLine ∧ ∃ kind, pt.kinds = [kind] ∧ next.kinds = [kind] ∧
      (kind = .onLine ∧ next.stage ≠ 3 ∨
        kind = .offLine ∧ next.stage = 0 ∧ (taskType = .disable ∨ taskType = .metaDisable)) := by
  cases h with
  | enabling hpt hnext hstage hnext' hkind =>
      refine ⟨hstage, ?_, _, hpt, hnext, .inl ⟨rfl, hnext'⟩⟩
      obtain rfl | rfl := hkind <;> decide
  | metaDisable => exact ⟨rfl, by decide, _, rfl, rfl, .inr ⟨rfl, rfl, .inr rfl⟩⟩
  | disable => exact ⟨rfl, by decide, _, rfl, rfl, .inr ⟨rfl, rfl, .inl rfl⟩⟩

/-- One section of a thread, by what it does to the structures that carry tasks. -/
inductive Effect (sh : Shared) : ProcId → Pc → Shared → Pc → Prop
  | call {n : Nat} {c c' : Pc} {sh' : Shared} :
      SameTasks sh sh' → c.creating = none → c'.creating = none → Effect sh (.call n) c sh' c'
  | callCreate {n : Nat} {c : Pc} {id : TaskId} {taskType : TaskType} {param : TaskParam}
      {sh' : Shared} {ret : Int} :
      sh.newTask id taskType param none = some sh' → c.creating = none →
      taskType ≠ .metaDisable →
      (taskType = .offLine →
        ∃ event, c = .sendOffLine .createTask event ∧ param = eventParam event) →
      Effect sh (.call n) c sh' (.addTask id (.returned ret))
  | bodyCreate {f id : TaskId} {pt next : TaskPoint} {taskType : TaskType} {param : TaskParam}
      {sh' : Shared} :
      sh.newTask id taskType param (some f) = some sh' → Child sh f pt next taskType param →
      Effect sh (.task f) (.body pt) sh' (.addChildrenTask id (.body next))
  | addChildrenTask {p : ProcId} {id : TaskId} {next : Next} :
      Effect sh p (.addChildrenTask id next) (sh.addChildrenTask id) (.addTask id next)
  | addTask {p : ProcId} {id : TaskId} {next : Next} :
      Effect sh p (.addTask id next) (sh.addTask id) (.pushTask id next)
  | pushTask {p : ProcId} {id : TaskId} {next : Next} :
      Effect sh p (.pushTask id next) (sh.pushTask id) next.pc
  | body {id : TaskId} {pt pt' : TaskPoint} {sh' : Shared} :
      SameTasks sh sh' → (∀ t ∈ pt.kinds, t ∈ pt'.kinds) → pt'.stage = pt.stage →
      Effect sh (.task id) (.body pt) sh' (.body pt')
  | passWait {id : TaskId} : sh.unFinishChildren id = ∅ →
      Effect sh (.task id) (.body .waitDisable) sh (.body .removeOnlineEntry)
  | finish {id : TaskId} {pt : TaskPoint} {sh' : Shared} :
      SameTasks sh sh' → (∀ t ∈ pt.kinds, t ∈ [TaskType.enable, .metaEnable]) → pt.stage = 0 →
      Effect sh (.task id) (.body pt) sh' (.body .removeTask)
  | notifyFather {id : TaskId} :
      Effect sh (.task id) (.body .notifyFather) (sh.notifyFatherFinish id) (.body .removeTask)
  | leaveBoard {id : TaskId} {pt : TaskPoint} {sh' : Shared} {c' : Pc} :
      SameTasks (sh.removeTask id) sh' →
      (pt = .offLineRemoveTask ∧ c' = .body .realTimeCount ∨
        pt.stage = 2 ∧ .offLine ∉ pt.kinds) →
      c'.stage = 3 → c'.creating = none → (∀ t ∈ pt.kinds, c'.Fits t) →
      Effect sh (.task id) (.body pt) sh' c'
  | bodyReturn {id : TaskId} {pt : TaskPoint} {sh' : Shared} {ret : Int} :
      SameTasks sh sh' → pt.stage = 3 → Effect sh (.task id) (.body pt) sh' (.returned ret)

variable {sha256 : String → String}

theorem createThen_eq_some {sh sh' : Shared} {ch : Choice} {taskType : TaskType}
    {param : TaskParam} {father : Option TaskId} {next : Next} {c' : Pc}
    (h : createThen sh ch taskType param father next = some (sh', c')) :
    sh.newTask ch.newId taskType param father = some sh' ∧
      c' = if father.isSome then .addChildrenTask ch.newId next else .addTask ch.newId next := by
  simp only [createThen, Option.map_eq_some_iff, Prod.mk.injEq] at h
  obtain ⟨_, hnew, rfl, rfl⟩ := h
  exact ⟨hnew, rfl⟩

theorem sendOnLineEvent_effect {sh sh' : Shared} {ch : Choice} {n : Nat} {param : TaskParam}
    {pt : SendOnLinePoint} {c' : Pc}
    (h : sendOnLineEvent sha256 sh ch param pt = some (sh', c')) :
    Effect sh (.call n) (.sendOnLine pt param) sh' c' := by
  cases pt with
  | createTask =>
      obtain ⟨hnew, rfl⟩ := createThen_eq_some h
      exact .callCreate hnew rfl (by decide) (by simp)
  | loadFlagUnInit | isDeviceOnline =>
      simp only [sendOnLineEvent] at h
      split at h <;> obtain ⟨rfl, rfl⟩ := h <;> exact .call (.refl _) rfl rfl
  | loadIsInit =>
      obtain ⟨rfl, rfl⟩ := h
      exact .call (.refl _) rfl rfl
  | addOnlineDevice | addRealTime | managerInitialize | storeIsInit =>
      obtain ⟨rfl, rfl⟩ := h
      exact .call (.of_eq rfl rfl rfl) rfl rfl

theorem sendOffLineEvent_effect {sh sh' : Shared} {ch : Choice} {n : Nat} {param : TaskParam}
    {pt : SendOffLinePoint} {c' : Pc}
    (h : sendOffLineEvent sh ch param pt = some (sh', c')) :
    Effect sh (.call n) (.sendOffLine pt param) sh' c' := by
  cases pt with
  | createTask =>
      obtain ⟨hnew, rfl⟩ := createThen_eq_some h
      exact .callCreate hnew rfl (by decide) (fun _ => ⟨param, rfl, rfl⟩)
  | isDeviceOnline =>
      simp only [sendOffLineEvent] at h
      split at h <;> obtain ⟨rfl, rfl⟩ := h <;> exact .call (.refl _) rfl rfl
  | loadIsInit | realTimeCount | isomerismCount =>
      obtain ⟨rfl, rfl⟩ := h
      exact .call (.refl _) rfl rfl
  | managerInitialize | storeIsInit | deleteRealTime | storeFlagUnInit =>
      obtain ⟨rfl, rfl⟩ := h
      exact .call (.of_eq rfl rfl rfl) rfl rfl

theorem taskBody_effect {sh sh' : Shared} {ch : Choice} {id : TaskId} {param : TaskParam}
    {pt : TaskPoint} {c' : Pc} (hparam : sh.paramOf id = some param)
    (h : taskBody sha256 id param sh ch pt = some (sh', c')) :
    Effect sh (.task id) (.body pt) sh' c' := by
  have frame := sameTasks_setTaskState sh id
  cases pt with
  | registerHardware =>
      simp only [taskBody] at h
      split at h <;> obtain ⟨rfl, rfl⟩ := h
      · exact .body (.trans (frame _) (.of_eq rfl rfl rfl)) (by decide) rfl
      · exact .finish (frame _) (by decide) rfl
  | unRegisterHardware =>
      simp only [taskBody] at h
      split at h <;> obtain ⟨rfl, rfl⟩ := h
      · exact .body (.of_eq rfl rfl rfl) (by decide) rfl
      · exact .body (frame _) (by decide) rfl
  | saveEnabledDevice =>
      obtain ⟨rfl, rfl⟩ := h
      exact .finish (.of_eq rfl rfl rfl) (by decide) rfl
  | syncLocal | syncMeta | removeOnlineEntry | clearOffLineInfo | release
  | storeIsInit | storeFlagUnInit | managerInitialize =>
      obtain ⟨rfl, rfl⟩ := h
      exact .body (.of_eq rfl rfl rfl) (by decide) rfl
  | removeEnabledDevice =>
      obtain ⟨rfl, rfl⟩ := h
      have removed (key : String) : SameTasks sh (sh.removeEnabledDevice key) :=
        .of_eq rfl rfl rfl
      exact .body ((removed _).trans (sameTasks_setTaskState _ _ _)) (by decide) rfl
  | notifyFather =>
      obtain ⟨rfl, rfl⟩ := h
      exact .notifyFather
  | metaEnable =>
      obtain ⟨rfl, rfl⟩ := h
      exact .finish (frame _) (by decide) rfl
  | metaDisable =>
      obtain ⟨rfl, rfl⟩ := h
      exact .body (frame _) (by decide) rfl
  | onLineReadCaps | onLineReadLocal | offLineReadCaps =>
      obtain ⟨rfl, rfl⟩ := h
      split <;> exact .body (.refl _) (by simp [TaskPoint.kinds]) rfl
  | onLineReadMeta | offLineUdidHash | offLineReadMeta _ =>
      obtain ⟨rfl, rfl⟩ := h
      exact .body (.refl _) (by simp [TaskPoint.kinds]) rfl
  | createEnable infos =>
      cases infos with
      | nil =>
          obtain ⟨rfl, rfl⟩ := h
          exact .body (.refl _) (by decide) rfl
      | cons info infos =>
          obtain ⟨hnew, rfl⟩ := createThen_eq_some h
          exact .bodyCreate hnew (.enabling rfl rfl rfl (by simp [TaskPoint.stage]) (.inl rfl))
  | createMetaEnable =>
      obtain ⟨hnew, rfl⟩ := createThen_eq_some h
      exact .bodyCreate hnew (.enabling rfl rfl rfl (by decide) (.inr rfl))
  | createMetaDisable =>
      obtain ⟨hnew, rfl⟩ := createThen_eq_some h
      exact .bodyCreate hnew (.metaDisable hparam)
  | createDisable infos =>
      cases infos with
      | nil =>
          obtain ⟨rfl, rfl⟩ := h
          exact .body (.refl _) (by decide) rfl
      | cons info infos =>
          obtain ⟨hnew, rfl⟩ := createThen_eq_some h
          exact .bodyCreate hnew (.disable hparam)
  | waitDisable =>
      simp only [taskBody] at h
      split at h
      case isTrue done =>
        obtain ⟨rfl, rfl⟩ := h
        exact .passWait done
      case isFalse => cases h
  | offLineRemoveTask =>
      obtain ⟨rfl, rfl⟩ := h
      exact .leaveBoard (sameTasks_setTaskState (sh.removeTask id) id .success)
        (.inl ⟨rfl, rfl⟩) rfl rfl (by simp [TaskPoint.kinds, Pc.Fits])
  | onLineRemoveTask =>
      obtain ⟨rfl, rfl⟩ := h
      exact .leaveBoard
        (.trans (sameTasks_setTaskState (sh.removeTask id) id .success) (.of_eq rfl rfl rfl))
        (.inr ⟨rfl, by decide⟩) rfl rfl (fun _ _ => trivial)
  | removeTask =>
      obtain ⟨rfl, rfl⟩ := h
      exact .leaveBoard (.refl _) (.inr ⟨rfl, by decide⟩) rfl rfl (fun _ _ => trivial)
  | realTimeCount | isomerismCount | allTaskFinish =>
      obtain ⟨rfl, rfl⟩ := h
      split
      · exact .body (.refl _) (by decide) rfl
      · exact .bodyReturn (.refl _) rfl
  | checkExitSa =>
      obtain ⟨rfl, rfl⟩ := h
      split
      · exact .bodyReturn (.refl _) rfl
      · exact .body (.refl _) (by decide) rfl
  | storeIsInitAgain =>
      obtain ⟨rfl, rfl⟩ := h
      exact .bodyReturn (.of_eq rfl rfl rfl) rfl

theorem exec_effect {sh sh' : Shared} {ch : Choice} {p : ProcId} {c c' : Pc}
    (h : exec sha256 sh ch p c = some (sh', c')) : Effect sh p c sh' c' := by
  cases c with
  | idle | returned _ => cases p <;> cases h
  | sendOnLine pt param =>
      cases p with
      | call n => exact sendOnLineEvent_effect h
      | task id => cases h
  | sendOffLine pt param =>
      cases p with
      | call n => exact sendOffLineEvent_effect h
      | task id => cases h
  | createTask kind param =>
      cases p with
      | call n =>
          obtain ⟨hnew, rfl⟩ := createThen_eq_some h
          exact .callCreate hnew rfl (by cases kind <;> decide)
            (by cases kind <;> simp [ClientTask.taskType])
      | task id => cases h
  | body pt =>
      cases p with
      | call n => cases h
      | task id =>
          obtain ⟨param, hparam, h⟩ := exec_body h
          exact taskBody_effect hparam h
  | addChildrenTask id next =>
      cases p <;> obtain ⟨rfl, rfl⟩ := h <;> exact .addChildrenTask
  | addTask id next =>
      cases p <;> obtain ⟨rfl, rfl⟩ := h <;> exact .addTask
  | pushTask id next =>
      cases p <;> obtain ⟨rfl, rfl⟩ := h <;> exact .pushTask

/-- One step of the system, by what it does to the structures that carry tasks. -/
inductive StepEffect (s : Sys) : Act → Sys → Prop
  | run {p : ProcId} {ch : Choice} {sh' : Shared} {c' : Pc} :
      Effect s.sh p (s.pc p) sh' c' →
      StepEffect s (.run p ch) ({ s with sh := sh' }.setPc p c')
  | call {n : Nat} {c : Call} : s.pc (.call n) = .idle →
      StepEffect s (.call n c) (s.setPc (.call n) (entryOfCall c))
  | start {a : Act} {id : TaskId} {taskType : TaskType} {sh' : Shared} :
      s.sh.typeOf id = some taskType → SameBoard s.sh sh' →
      s.sh.pipeline.Perm (id :: sh'.pipeline) →
      StepEffect s a ({ s with sh := sh' }.setPc (.task id) (.body (entryOf taskType)))
  | move {a : Act} {sh' : Shared} : SameBoard s.sh sh' → s.sh.pipeline.Perm sh'.pipeline →
      StepEffect s a { s with sh := sh' }
  | reject {id : TaskId} {sh' : Shared} : SameBoard s.sh sh' →
      s.sh.pipeline.Perm (id :: sh'.pipeline) →
      StepEffect s (.postTask false) { s with sh := sh' }

theorem step_effect {s t : Sys} {a : Act} (h : step sha256 s a = some t) : StepEffect s a t := by
  cases a with
  | call n c =>
      simp only [step] at h
      split at h
      case isTrue idle =>
        cases h
        exact .call idle
      case isFalse => cases h
  | run p ch =>
      obtain ⟨sh', c', he, rfl⟩ := step_run h
      exact .run (exec_effect he)
  | popTask =>
      simp only [step] at h
      split at h
      case h_1 id rest hpopped hqueue =>
        cases h
        refine .move (.of_eq rfl rfl) ?_
        simp [Shared.pipeline, hpopped, hqueue]
      case h_2 => cases h
  | postTask accepted =>
      simp only [step] at h
      split at h
      case h_1 id hpopped =>
        cases h
        cases accepted with
        | true =>
            refine .move (.of_eq rfl rfl) ?_
            simp [Shared.pipeline, hpopped]
        | false =>
            refine .reject (.of_eq rfl rfl) (?_ : List.Perm _ (id :: _))
            simp only [Shared.pipeline, hpopped, Option.toList_some, Option.toList_none,
              Bool.false_eq_true, if_false, List.append_nil, List.append_assoc,
              List.singleton_append]
            rw [← List.append_assoc, ← List.append_assoc]
            exact List.perm_middle
      case h_2 => cases h
  | runPosted =>
      simp only [step] at h
      split at h
      case h_1 id rest hhandler hposted =>
        split at h
        case h_1 htype =>
          cases h
          have taken : SameBoard s.sh { s.sh with posted := rest, handlerTask := some id } :=
            .of_eq rfl rfl
          refine .start htype (taken.trans (sameTasks_setTaskState _ _ _).toSameBoard) ?_
          simp only [pipeline, setTaskState, hposted, List.append_assoc, List.cons_append]
          exact List.perm_middle
        case h_2 =>
          cases h
          refine .move (.of_eq rfl rfl) ?_
          simp [Shared.pipeline, hposted]
      case h_2 => cases h
  | startSubmitted id =>
      simp only [step] at h
      split at h
      case h_1 taskType htype =>
        split at h
        case isTrue mem =>
          cases h
          have taken : SameBoard s.sh { s.sh with submitted := s.sh.submitted.erase id } :=
            .of_eq rfl rfl
          refine .start htype (taken.trans (sameTasks_setTaskState _ _ _).toSameBoard) ?_
          simp only [pipeline, setTaskState, ← List.cons_append]
          exact (((List.perm_cons_erase mem).append_right _).append_right _).append_right _
        case isFalse => cases h
      case h_2 => cases h
  | isomerism connected deviceId =>
      cases h
      exact .move (.of_eq rfl rfl) (.refl _)
  | registries caps localCaps metas =>
      cases h
      exact .move (.of_eq rfl rfl) (.refl _)

/-- A task that exists keeps its kind, its parameters and its father. -/
structure KeepsTask (sh sh' : Shared) (id : TaskId) : Prop where
  allocated : sh'.allocated id
  typeOf : sh'.typeOf id = sh.typeOf id
  paramOf : sh'.paramOf id = sh.paramOf id
  fatherOf : sh'.fatherOf id = sh.fatherOf id

theorem Shared.SameHeads.keepsTask {sh sh' : Shared} (h : SameHeads sh sh') {id : TaskId}
    (ha : sh.allocated id) : KeepsTask sh sh' id :=
  ⟨(h.allocated id).mpr ha, h.typeOf id, h.paramOf id, h.fatherOf id⟩

theorem keepsTask_newTask {sh sh' : Shared} {id id' : TaskId} {taskType : TaskType}
    {param : TaskParam} {father : Option TaskId}
    (h : sh.newTask id taskType param father = some sh') (ha : sh.allocated id') :
    KeepsTask sh sh' id' := by
  have hne : id' ≠ id := fun heq => (newTask_eq_some h).1 (heq ▸ ha)
  refine ⟨(allocated_newTask h id').mpr (.inr ha), ?_, ?_, ?_⟩
  · rw [typeOf_newTask h, if_neg hne]
  · rw [paramOf_newTask h, if_neg hne]
  · rw [fatherOf_newTask h, if_neg hne]

theorem Effect.keepsTask {sh sh' : Shared} {p : ProcId} {c c' : Pc} (h : Effect sh p c sh' c')
    {id : TaskId} (ha : sh.allocated id) : KeepsTask sh sh' id := by
  cases h with
  | call same | body same | finish same | bodyReturn same => exact same.toSameHeads.keepsTask ha
  | leaveBoard same =>
      exact ⟨(same.allocated id).mpr ha, same.typeOf id, same.paramOf id, same.fatherOf id⟩
  | callCreate new | bodyCreate new => exact keepsTask_newTask new ha
  | addChildrenTask => exact (sameHeads_addChildrenTask _ _).keepsTask ha
  | addTask => exact (sameHeads_addTask _ _).keepsTask ha
  | pushTask => exact (sameBoard_pushTask _ _).toSameHeads.keepsTask ha
  | passWait => exact ⟨ha, rfl, rfl, rfl⟩
  | notifyFather => exact (sameHeads_notifyFatherFinish _ _).keepsTask ha

theorem step_keepsTask {s t : Sys} {a : Act} (h : step sha256 s a = some t) {id : TaskId}
    (ha : s.sh.allocated id) : KeepsTask s.sh t.sh id := by
  cases step_effect h with
  | run effect => exact effect.keepsTask ha
  | call => exact ⟨ha, rfl, rfl, rfl⟩
  | start _ same | move same | reject same => exact same.toSameHeads.keepsTask ha

/-- A step makes a task. -/
inductive Creates (s t : Sys) (id : TaskId) : Act → Prop
  | byCall {n : Nat} {ch : Choice} {taskType : TaskType} {param : TaskParam} :
      t.sh.typeOf id = some taskType → t.sh.paramOf id = some param → t.sh.fatherOf id = none →
      taskType ≠ .metaDisable →
      (taskType = .offLine →
        ∃ event, s.pc (.call n) = .sendOffLine .createTask event ∧ param = eventParam event) →
      Creates s t id (.run (.call n) ch)
  | byTask {f : TaskId} {ch : Choice} {pt next : TaskPoint} {taskType : TaskType}
      {param : TaskParam} :
      t.sh.typeOf id = some taskType → t.sh.paramOf id = some param → t.sh.fatherOf id = some f →
      s.pc (.task f) = .body pt → Child s.sh f pt next taskType param →
      t.pc (.task f) = .addChildrenTask id (.body next) → Creates s t id (.run (.task f) ch)

theorem step_creates {s t : Sys} {a : Act} (h : step sha256 s a = some t) {id : TaskId}
    (fresh : ¬ s.sh.allocated id) (ha : t.sh.allocated id) : Creates s t id a := by
  have new_id {id' : TaskId} {taskType : TaskType} {param : TaskParam} {father : Option TaskId}
      {sh' : Shared} (new : s.sh.newTask id' taskType param father = some sh')
      (ha : sh'.allocated id) : id = id' :=
    ((allocated_newTask new id).mp ha).resolve_right fresh
  cases step_effect h with
  | @run p ch sh' c' effect =>
      generalize hc : s.pc p = c at effect
      cases effect with
      | callCreate new _ hmeta hoff =>
          obtain rfl := new_id new ha
          exact .byCall ((typeOf_newTask new id).trans (if_pos rfl))
            ((paramOf_newTask new id).trans (if_pos rfl))
            ((fatherOf_newTask new id).trans (if_pos rfl)) hmeta
            (fun ht => by rw [hc]; exact hoff ht)
      | bodyCreate new child =>
          obtain rfl := new_id new ha
          exact .byTask ((typeOf_newTask new id).trans (if_pos rfl))
            ((paramOf_newTask new id).trans (if_pos rfl))
            ((fatherOf_newTask new id).trans (if_pos rfl)) hc child (by simp)
      | call same | body same | finish same | bodyReturn same =>
          exact absurd ((same.allocated id).mp ha) fresh
      | leaveBoard same => exact absurd ((same.allocated id).mp ha) fresh
      | addChildrenTask => exact absurd (((sameHeads_addChildrenTask _ _).allocated id).mp ha) fresh
      | addTask => exact absurd (((sameHeads_addTask _ _).allocated id).mp ha) fresh
      | pushTask => exact absurd (((sameBoard_pushTask _ _).allocated id).mp ha) fresh
      | passWait => exact absurd ha fresh
      | notifyFather => exact absurd (((sameHeads_notifyFatherFinish _ _).allocated id).mp ha) fresh
  | call => exact absurd ha fresh
  | start _ same | move same | reject same => exact absurd ((same.allocated id).mp ha) fresh

/-- The children of a task after a step: those it had, and the one it makes. -/
theorem step_fatherOf {s t : Sys} {a : Act} (h : step sha256 s a = some t) {c f : TaskId}
    (hf : t.sh.fatherOf c = some f) :
    s.sh.fatherOf c = some f ∨ ¬ s.sh.allocated c ∧ Creates s t c a := by
  by_cases ha : s.sh.allocated c
  · exact .inl ((step_keepsTask h ha).fatherOf ▸ hf)
  · exact .inr ⟨ha, step_creates h ha (allocated_of_fatherOf hf)⟩

/-- Two states agree on the devices, the enabled hardware and the flag. -/
structure SameDevices (sh sh' : Shared) : Prop where
  flagUnInit : sh'.flagUnInit = sh.flagUnInit
  devIdEntrySet : sh'.devIdEntrySet = sh.devIdEntrySet
  realTime : sh'.realTimeOnLineNetworkIdSet = sh.realTimeOnLineNetworkIdSet
  enabledHardware : sh'.enabledHardware = sh.enabledHardware

/-- One section of a thread, by what it does to the devices. -/
inductive DeviceEffect (sha256 : String → String) (sh : Shared) (ch : Choice) :
    ProcId → Pc → Shared → Pc → Prop
  | same {p : ProcId} {c c' : Pc} {sh' : Shared} :
      SameDevices sh sh' → DeviceEffect sha256 sh ch p c sh' c'
  | addOnlineDevice {n : Nat} {param : TaskParam} :
      DeviceEffect sha256 sh ch (.call n) (.sendOnLine .addOnlineDevice param)
        { sh with
          devIdEntrySet :=
            addOnlineDevice sha256 param.udid param.uuid param.networkId sh.devIdEntrySet }
        (.sendOnLine .addRealTime param)
  | addRealTime {n : Nat} {param : TaskParam} :
      DeviceEffect sha256 sh ch (.call n) (.sendOnLine .addRealTime param)
        (sh.addRealTimeOnlineDeviceNetworkId param.networkId) (.sendOnLine .loadIsInit param)
  | deleteRealTime {n : Nat} {param : TaskParam} :
      DeviceEffect sha256 sh ch (.call n) (.sendOffLine .deleteRealTime param)
        (sh.deleteRealTimeOnlineDeviceNetworkId param.networkId)
        (.sendOffLine .realTimeCount param)
  | storeFlagUnInit {n : Nat} {param : TaskParam} :
      DeviceEffect sha256 sh ch (.call n) (.sendOffLine .storeFlagUnInit param)
        { sh with flagUnInit := true } (.sendOffLine .createTask param)
  | clearFlagUnInit {id : TaskId} :
      DeviceEffect sha256 sh ch (.task id) (.body .storeFlagUnInit) { sh with flagUnInit := false }
        (.body .checkExitSa)
  | removeOnlineEntry {id : TaskId} {param : TaskParam} : sh.paramOf id = some param →
      DeviceEffect sha256 sh ch (.task id) (.body .removeOnlineEntry)
        { sh with
          devIdEntrySet := removeOnlineDeviceIdEntryByNetworkId param.networkId sh.devIdEntrySet }
        (.body .clearOffLineInfo)
  | registerHardware {id : TaskId} {param : TaskParam} :
      sh.paramOf id = some param → componentSucceeds ch param = true →
      DeviceEffect sha256 sh ch (.task id) (.body .registerHardware)
        { sh.setTaskState id .success with
          enabledHardware := insert (param.networkId, param.dhId) sh.enabledHardware }
        (.body .saveEnabledDevice)
  | unRegisterHardware {id : TaskId} {param : TaskParam} : sh.paramOf id = some param →
      DeviceEffect sha256 sh ch (.task id) (.body .unRegisterHardware)
        { sh with enabledHardware := sh.enabledHardware.erase (param.networkId, param.dhId) }
        (.body .removeEnabledDevice)

theorem sameDevices_newTask {sh sh' : Shared} {id : TaskId} {taskType : TaskType}
    {param : TaskParam} {father : Option TaskId}
    (h : sh.newTask id taskType param father = some sh') : SameDevices sh sh' := by
  obtain ⟨-, rfl⟩ := newTask_eq_some h
  exact ⟨rfl, rfl, rfl, rfl⟩

theorem exec_devices {sh sh' : Shared} {ch : Choice} {p : ProcId} {c c' : Pc}
    (h : exec sha256 sh ch p c = some (sh', c')) : DeviceEffect sha256 sh ch p c sh' c' := by
  cases c with
  | idle | returned _ => cases p <;> cases h
  | sendOnLine pt param =>
      cases p with
      | task id => cases h
      | call n =>
          cases pt with
          | addOnlineDevice => obtain ⟨rfl, rfl⟩ := h; exact .addOnlineDevice
          | addRealTime => obtain ⟨rfl, rfl⟩ := h; exact .addRealTime
          | createTask => exact .same (sameDevices_newTask (createThen_eq_some h).1)
          | loadFlagUnInit | isDeviceOnline =>
              simp only [exec, sendOnLineEvent] at h
              split at h <;> obtain ⟨rfl, rfl⟩ := h <;> exact .same ⟨rfl, rfl, rfl, rfl⟩
          | loadIsInit | managerInitialize | storeIsInit =>
              obtain ⟨rfl, rfl⟩ := h
              exact .same ⟨rfl, rfl, rfl, rfl⟩
  | sendOffLine pt param =>
      cases p with
      | task id => cases h
      | call n =>
          cases pt with
          | deleteRealTime => obtain ⟨rfl, rfl⟩ := h; exact .deleteRealTime
          | storeFlagUnInit => obtain ⟨rfl, rfl⟩ := h; exact .storeFlagUnInit
          | createTask => exact .same (sameDevices_newTask (createThen_eq_some h).1)
          | isDeviceOnline =>
              simp only [exec, sendOffLineEvent] at h
              split at h <;> obtain ⟨rfl, rfl⟩ := h <;> exact .same ⟨rfl, rfl, rfl, rfl⟩
          | loadIsInit | managerInitialize | storeIsInit | realTimeCount | isomerismCount =>
              obtain ⟨rfl, rfl⟩ := h
              exact .same ⟨rfl, rfl, rfl, rfl⟩
  | createTask kind param =>
      cases p with
      | task id => cases h
      | call n => exact .same (sameDevices_newTask (createThen_eq_some h).1)
  | addChildrenTask id next =>
      have he : sh' = sh.addChildrenTask id := by cases p <;> obtain ⟨rfl, -⟩ := h <;> rfl
      rw [he, addChildrenTask_eq]
      exact .same ⟨rfl, rfl, rfl, rfl⟩
  | addTask id next =>
      have he : sh' = sh.addTask id := by cases p <;> obtain ⟨rfl, -⟩ := h <;> rfl
      subst he
      unfold Shared.addTask
      split <;> exact .same ⟨rfl, rfl, rfl, rfl⟩
  | pushTask id next =>
      have he : sh' = sh.pushTask id := by cases p <;> obtain ⟨rfl, -⟩ := h <;> rfl
      subst he
      unfold Shared.pushTask
      split <;> exact .same ⟨rfl, rfl, rfl, rfl⟩
  | body pt =>
      cases p with
      | call n => cases h
      | task id =>
          obtain ⟨param, hparam, h⟩ := exec_body h
          cases pt with
          | registerHardware =>
              simp only [taskBody] at h
              split at h
              case isTrue hsucc =>
                obtain ⟨rfl, rfl⟩ := h
                exact .registerHardware hparam hsucc
              case isFalse =>
                obtain ⟨rfl, rfl⟩ := h
                exact .same ⟨rfl, rfl, rfl, rfl⟩
          | unRegisterHardware =>
              simp only [taskBody] at h
              split at h <;> obtain ⟨rfl, rfl⟩ := h
              · exact .unRegisterHardware hparam
              · exact .same ⟨rfl, rfl, rfl, rfl⟩
          | removeOnlineEntry => obtain ⟨rfl, rfl⟩ := h; exact .removeOnlineEntry hparam
          | storeFlagUnInit => obtain ⟨rfl, rfl⟩ := h; exact .clearFlagUnInit
          | notifyFather =>
              obtain ⟨rfl, rfl⟩ := h
              rw [notifyFatherFinish_eq]
              exact .same ⟨rfl, rfl, rfl, rfl⟩
          | createEnable infos | createDisable infos =>
              cases infos with
              | nil => obtain ⟨rfl, rfl⟩ := h; exact .same ⟨rfl, rfl, rfl, rfl⟩
              | cons info infos => exact .same (sameDevices_newTask (createThen_eq_some h).1)
          | createMetaEnable | createMetaDisable =>
              exact .same (sameDevices_newTask (createThen_eq_some h).1)
          | waitDisable =>
              simp only [taskBody] at h
              split at h
              · obtain ⟨rfl, rfl⟩ := h; exact .same ⟨rfl, rfl, rfl, rfl⟩
              · cases h
          | _ => obtain ⟨rfl, rfl⟩ := h; exact .same ⟨rfl, rfl, rfl, rfl⟩

/-- Only the sections of threads touch the devices. -/
theorem step_devices {s t : Sys} {a : Act} (h : step sha256 s a = some t)
    (norun : ∀ p ch, a ≠ .run p ch) : SameDevices s.sh t.sh := by
  cases a with
  | run p ch => exact absurd rfl (norun p ch)
  | call _ _ | popTask | postTask _ =>
      simp only [step] at h
      split at h <;> cases h
      exact ⟨rfl, rfl, rfl, rfl⟩
  | runPosted =>
      simp only [step] at h
      split at h
      · split at h <;> cases h <;> exact ⟨rfl, rfl, rfl, rfl⟩
      · cases h
  | startSubmitted id =>
      simp only [step] at h
      split at h
      · split at h <;> cases h
        exact ⟨rfl, rfl, rfl, rfl⟩
      · cases h
  | isomerism _ _ | registries _ _ _ => cases h; exact ⟨rfl, rfl, rfl, rfl⟩

/-- What the sections share beside the tasks: the initialisation, the isomerism devices, the
online table, the meta registry and the enabled hardware. -/
structure Outside where
  isInit : Bool
  connectedDevIds : Finset String
  devIdEntrySet : DeviceIdEntrySet
  globalMetaInfoMap : MetaCapInfoMap
  enabledDevices : Store String TaskParam

def Shared.outside (sh : Shared) : Outside where
  isInit := sh.isInit
  connectedDevIds := sh.connectedDevIds
  devIdEntrySet := sh.devIdEntrySet
  globalMetaInfoMap := sh.globalMetaInfoMap
  enabledDevices := sh.enabledDevices

section Outside
variable (sha256 : String → String)

/-- What a section of a task's body leaves there. -/
def bodyOutside (param : TaskParam) (ch : Choice) (o : Outside) : TaskPoint → Outside
  | .saveEnabledDevice => { o with
      enabledDevices := o.enabledDevices.set
        (getCapabilityKey (getDeviceIdByUuid sha256 param.uuid) param.dhId) param }
  | .removeEnabledDevice => { o with
      enabledDevices := o.enabledDevices.erase
        (getCapabilityKey (getDeviceIdByUuid sha256 param.uuid) param.dhId) }
  | .syncMeta => { o with
      globalMetaInfoMap := saveRecords MetaCapabilityInfo.getKey o.globalMetaInfoMap ch.metas }
  | .removeOnlineEntry => { o with
      devIdEntrySet := removeOnlineDeviceIdEntryByNetworkId param.networkId o.devIdEntrySet }
  | .storeIsInit => { o with isInit := false }
  | .storeIsInitAgain => { o with isInit := true }
  | _ => o

/-- What a section leaves there. -/
def outsideAfter (sh : Shared) (ch : Choice) : ProcId → Pc → Outside
  | .call _, .sendOnLine .storeIsInit _ => { sh.outside with isInit := true }
  | .call _, .sendOffLine .storeIsInit _ => { sh.outside with isInit := true }
  | .call _, .sendOnLine .addOnlineDevice param => { sh.outside with
      devIdEntrySet :=
        addOnlineDevice sha256 param.udid param.uuid param.networkId sh.devIdEntrySet }
  | .task id, .body pt =>
      match sh.paramOf id with
      | some param => bodyOutside sha256 param ch sh.outside pt
      | none => sh.outside
  | _, _ => sh.outside

end Outside

theorem outside_createThen {sh sh' : Shared} {ch : Choice} {taskType : TaskType}
    {param : TaskParam} {father : Option TaskId} {next : Next} {c' : Pc}
    (h : createThen sh ch taskType param father next = some (sh', c')) :
    sh'.outside = sh.outside := by
  rw [(newTask_eq_some (createThen_eq_some h).1).2]
  rfl

theorem exec_outside {sh sh' : Shared} {ch : Choice} {p : ProcId} {c c' : Pc}
    (h : exec sha256 sh ch p c = some (sh', c')) :
    sh'.outside = outsideAfter sha256 sh ch p c := by
  cases c with
  | idle | returned _ => cases p <;> cases h
  | sendOnLine pt param =>
      cases p with
      | task id => cases h
      | call n =>
          cases pt with
          | createTask => exact outside_createThen h
          | loadFlagUnInit | isDeviceOnline =>
              simp only [exec, sendOnLineEvent] at h
              split at h <;> obtain ⟨rfl, rfl⟩ := h <;> rfl
          | _ =>
              obtain ⟨rfl, rfl⟩ := h
              rfl
  | sendOffLine pt param =>
      cases p with
      | task id => cases h
      | call n =>
          cases pt with
          | createTask => exact outside_createThen h
          | isDeviceOnline =>
              simp only [exec, sendOffLineEvent] at h
              split at h <;> obtain ⟨rfl, rfl⟩ := h <;> rfl
          | _ =>
              obtain ⟨rfl, rfl⟩ := h
              rfl
  | createTask kind param =>
      cases p with
      | task id => cases h
      | call n => exact outside_createThen h
  | addChildrenTask id next =>
      have he : sh' = sh.addChildrenTask id := by cases p <;> obtain ⟨rfl, -⟩ := h <;> rfl
      rw [he, addChildrenTask_eq]
      cases p <;> rfl
  | addTask id next =>
      have he : sh' = sh.addTask id := by cases p <;> obtain ⟨rfl, -⟩ := h <;> rfl
      subst he
      unfold Shared.addTask
      cases p <;> split <;> rfl
  | pushTask id next =>
      have he : sh' = sh.pushTask id := by cases p <;> obtain ⟨rfl, -⟩ := h <;> rfl
      subst he
      unfold Shared.pushTask
      cases p <;> split <;> rfl
  | body pt =>
      cases p with
      | call n => cases h
      | task id =>
          obtain ⟨param, hparam, h⟩ := exec_body h
          simp only [outsideAfter, hparam]
          cases pt with
          | registerHardware | unRegisterHardware =>
              simp only [taskBody] at h
              split at h <;> obtain ⟨rfl, rfl⟩ := h <;> rfl
          | notifyFather =>
              obtain ⟨rfl, rfl⟩ := h
              rw [notifyFatherFinish_eq]
              rfl
          | createEnable infos | createDisable infos =>
              cases infos with
              | nil => obtain ⟨rfl, rfl⟩ := h; rfl
              | cons info infos => exact outside_createThen h
          | createMetaEnable | createMetaDisable => exact outside_createThen h
          | waitDisable =>
              simp only [taskBody] at h
              split at h
              · obtain ⟨rfl, rfl⟩ := h; rfl
              · cases h
          | _ => obtain ⟨rfl, rfl⟩ := h; rfl

end DistributedHardware
