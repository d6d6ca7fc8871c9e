import Mathlib.Data.Finset.Basic
import Mathlib.Data.Finset.Card
import DistributedHardware.Library.Store
import DistributedHardware.Common.DhContext
import DistributedHardware.Resource.Registry

/-!
The state the online and offline handling shares, and its lock sections.

`Shared` gathers the members of the manager factory, `DHContext`, `TaskBoard`,
`TaskExecutor` and the three registries that the tasks touch, and the task
objects themselves. Every operation below is one section of one of their
mutexes, or one access to an atomic. `GetRandomID` draws 122 random bits; a task
id is here a number no earlier task has.
-/

namespace DistributedHardware

abbrev TaskId := Nat

inductive TaskType
  | enable | disable | onLine | offLine | metaEnable | metaDisable
  deriving DecidableEq

inductive TaskState
  | init | running | success | fail
  deriving DecidableEq

structure TaskParam where
  networkId : String
  uuid : String
  udid : String := ""
  dhId : String := ""
  dhType : DhType := DhType.unknown
  deriving DecidableEq

/-- A `Task`. `unFinishChildrenTasks` is the member of `OffLineTask`; the other
kinds leave it empty. -/
structure TaskObj where
  taskType : TaskType
  param : TaskParam
  fatherTask : Option TaskId
  taskState : TaskState := .init
  unFinishChildrenTasks : Finset TaskId := ∅

structure Shared where
  /-- `DistributedHardwareManagerFactory`. -/
  isInit : Bool := false
  flagUnInit : Bool := false
  /-- `DistributedHardwareManager`. -/
  isAllInit : Bool := false
  /-- `DHContext`. -/
  devIdEntrySet : DeviceIdEntrySet := ∅
  realTimeOnLineNetworkIdSet : Finset String := ∅
  connectedDevIds : Finset String := ∅
  /-- `CapabilityInfoManager`, `LocalCapabilityInfoManager`, `MetaInfoManager`. -/
  globalCapInfoMap : CapabilityInfoMap := ∅
  localCapInfoMap : CapabilityInfoMap := ∅
  globalMetaInfoMap : MetaCapInfoMap := ∅
  /-- `TaskBoard`: the ids in `tasks_`, and `enabledDevices_`. -/
  tasks : Finset TaskId := ∅
  enabledDevices : Store String TaskParam := ∅
  /-- Every task object made so far. -/
  objects : Store TaskId TaskObj := ∅
  /-- `TaskExecutor`: its queue, and the task its thread holds between the pop
  and the post. -/
  taskQueue : List TaskId := []
  popped : Option TaskId := none
  /-- The closures in the event handler's queue, and the `OnLineTask` its thread
  is running, which it runs in place. -/
  posted : List TaskId := []
  handlerTask : Option TaskId := none
  /-- The `DoTaskInner` bodies given to `ffrt::submit`. -/
  submitted : List TaskId := []
  /-- The hardware, by network id and dhId, that an `EnableTask` has enabled and
  no `DisableTask` has disabled since. -/
  enabledHardware : Finset (String × String) := ∅

def maxTaskQueueLength : Nat := 256

namespace Shared

/-- The object of a new task: its id is fresh. -/
def newTask (sh : Shared) (id : TaskId) (taskType : TaskType) (param : TaskParam)
    (fatherTask : Option TaskId) : Option Shared :=
  if (sh.objects.get id).isSome then none
  else some { sh with objects := sh.objects.set id { taskType, param, fatherTask } }

/-- `AddChildrenTask` on the task's father. Only `OffLineTask` overrides it to
record the id it has to wait for. -/
def addChildrenTask (sh : Shared) (id : TaskId) : Shared :=
  match (sh.objects.get id).bind TaskObj.fatherTask with
  | none => sh
  | some father =>
      { sh with
        objects := sh.objects.modify father (fun o =>
          if o.taskType = .offLine then
            { o with unFinishChildrenTasks := insert id o.unFinishChildrenTasks }
          else o) }

/-- `TaskBoard::AddTask`: a duplicate id is refused. -/
def addTask (sh : Shared) (id : TaskId) : Shared :=
  if id ∈ sh.tasks then sh else { sh with tasks := insert id sh.tasks }

/-- `TaskBoard::RemoveTask`. -/
def removeTask (sh : Shared) (id : TaskId) : Shared :=
  { sh with tasks := sh.tasks.erase id }

def isAllTaskFinish (sh : Shared) : Bool := sh.tasks = ∅

/-- `TaskExecutor::PushTask`: a task that finds the queue full is dropped. -/
def pushTask (sh : Shared) (id : TaskId) : Shared :=
  if sh.taskQueue.length > maxTaskQueueLength then sh
  else { sh with taskQueue := sh.taskQueue ++ [id] }

def setTaskState (sh : Shared) (id : TaskId) (state : TaskState) : Shared :=
  { sh with objects := sh.objects.modify id (fun o => { o with taskState := state }) }

/-- `OffLineTask::NotifyFatherFinish` on the father of a finished task. The
father is held by the board alone, so its weak pointer locks while it is there. -/
def notifyFatherFinish (sh : Shared) (id : TaskId) : Shared :=
  match (sh.objects.get id).bind TaskObj.fatherTask with
  | none => sh
  | some father =>
      if father ∈ sh.tasks then
        { sh with
          objects := sh.objects.modify father (fun o =>
            { o with unFinishChildrenTasks := o.unFinishChildrenTasks.erase id }) }
      else sh

def saveEnabledDevice (sh : Shared) (key : String) (param : TaskParam) : Shared :=
  { sh with enabledDevices := sh.enabledDevices.set key param }

def removeEnabledDevice (sh : Shared) (key : String) : Shared :=
  { sh with enabledDevices := sh.enabledDevices.erase key }

/-- `TaskBoard::IsEnabledDevice`. -/
def isEnabledDevice (sh : Shared) (key : String) : Bool := (sh.enabledDevices.get key).isSome

def addRealTimeOnlineDeviceNetworkId (sh : Shared) (networkId : String) : Shared :=
  { sh with realTimeOnLineNetworkIdSet := insert networkId sh.realTimeOnLineNetworkIdSet }

def deleteRealTimeOnlineDeviceNetworkId (sh : Shared) (networkId : String) : Shared :=
  { sh with realTimeOnLineNetworkIdSet := sh.realTimeOnLineNetworkIdSet.erase networkId }

def getRealTimeOnlineDeviceCount (sh : Shared) : Nat := sh.realTimeOnLineNetworkIdSet.card

def getIsomerismConnectCount (sh : Shared) : Nat := sh.connectedDevIds.card

/-- The kind, the parameters and the father of a task, and what it waits for. A
task that was never made has none of them. -/
def allocated (sh : Shared) (id : TaskId) : Prop := (sh.objects.get id).isSome

instance (sh : Shared) (id : TaskId) : Decidable (sh.allocated id) :=
  inferInstanceAs (Decidable ((sh.objects.get id).isSome = true))

def typeOf (sh : Shared) (id : TaskId) : Option TaskType := (sh.objects.get id).map TaskObj.taskType

def paramOf (sh : Shared) (id : TaskId) : Option TaskParam := (sh.objects.get id).map TaskObj.param

def fatherOf (sh : Shared) (id : TaskId) : Option TaskId :=
  (sh.objects.get id).bind TaskObj.fatherTask

def unFinishChildren (sh : Shared) (id : TaskId) : Finset TaskId :=
  ((sh.objects.get id).map TaskObj.unFinishChildrenTasks).getD ∅

theorem allocated_of_fatherOf {sh : Shared} {c f : TaskId} (h : sh.fatherOf c = some f) :
    sh.allocated c := by
  obtain ⟨o, ho, -⟩ := Option.bind_eq_some_iff.mp h
  simp [allocated, ho]

theorem allocated_of_paramOf {sh : Shared} {id : TaskId} {param : TaskParam}
    (h : sh.paramOf id = some param) : sh.allocated id := by
  obtain ⟨o, ho, -⟩ := Option.map_eq_some_iff.mp h
  simp [allocated, ho]

theorem allocated_of_typeOf {sh : Shared} {id : TaskId} {kind : TaskType}
    (h : sh.typeOf id = some kind) : sh.allocated id := by
  obtain ⟨o, ho, -⟩ := Option.map_eq_some_iff.mp h
  simp [allocated, ho]

/-- The tasks between their `PushTask` and the start of their body. -/
def pipeline (sh : Shared) : List TaskId :=
  sh.submitted ++ sh.posted ++ sh.popped.toList ++ sh.taskQueue

/-- Two states have the same tasks, apart from their states and waiting sets. -/
structure SameHeads (sh sh' : Shared) : Prop where
  allocated : ∀ id, sh'.allocated id ↔ sh.allocated id
  typeOf : ∀ id, sh'.typeOf id = sh.typeOf id
  paramOf : ∀ id, sh'.paramOf id = sh.paramOf id
  fatherOf : ∀ id, sh'.fatherOf id = sh.fatherOf id

/-- They also agree on the board and on the waiting sets. -/
structure SameBoard (sh sh' : Shared) : Prop extends SameHeads sh sh' where
  tasks : sh'.tasks = sh.tasks
  unFinish : ∀ id, sh'.unFinishChildren id = sh.unFinishChildren id

/-- They agree on everything that carries tasks. -/
structure SameTasks (sh sh' : Shared) : Prop extends SameBoard sh sh' where
  pipeline : sh'.pipeline = sh.pipeline

/-- Tasks changed one by one keep their kind, parameters and father where each
change does. -/
theorem SameHeads.of_map {sh sh' : Shared} {g : TaskId → TaskObj → TaskObj}
    (reads : ∀ id, sh'.objects.get id = (sh.objects.get id).map (g id))
    (keeps : ∀ id o, (g id o).taskType = o.taskType ∧ (g id o).param = o.param ∧
      (g id o).fatherTask = o.fatherTask) : SameHeads sh sh' := by
  constructor <;> intro id <;>
    simp only [Shared.allocated, Shared.typeOf, Shared.paramOf, Shared.fatherOf, reads] <;>
    cases sh.objects.get id with
    | none => simp
    | some o => simp [keeps id o]

theorem SameHeads.of_eq {sh sh' : Shared} (objects : sh'.objects = sh.objects) :
    SameHeads sh sh' :=
  .of_map (g := fun _ o => o) (by simp [objects]) (by simp)

theorem SameBoard.of_eq {sh sh' : Shared} (objects : sh'.objects = sh.objects)
    (tasks : sh'.tasks = sh.tasks) : SameBoard sh sh' where
  toSameHeads := .of_eq objects
  tasks := tasks
  unFinish := by simp [Shared.unFinishChildren, objects]

theorem SameTasks.of_eq {sh sh' : Shared} (objects : sh'.objects = sh.objects)
    (tasks : sh'.tasks = sh.tasks) (pipeline : sh'.pipeline = sh.pipeline) : SameTasks sh sh' :=
  ⟨.of_eq objects tasks, pipeline⟩

theorem SameTasks.refl (sh : Shared) : SameTasks sh sh := .of_eq rfl rfl rfl

theorem SameBoard.trans {a b c : Shared} (h : SameBoard a b) (h' : SameBoard b c) :
    SameBoard a c where
  tasks := h'.tasks.trans h.tasks
  allocated id := (h'.allocated id).trans (h.allocated id)
  typeOf id := (h'.typeOf id).trans (h.typeOf id)
  paramOf id := (h'.paramOf id).trans (h.paramOf id)
  fatherOf id := (h'.fatherOf id).trans (h.fatherOf id)
  unFinish id := (h'.unFinish id).trans (h.unFinish id)

theorem SameTasks.trans {a b c : Shared} (h : SameTasks a b) (h' : SameTasks b c) :
    SameTasks a c :=
  ⟨h.toSameBoard.trans h'.toSameBoard, h'.pipeline.trans h.pipeline⟩

theorem sameTasks_setTaskState (sh : Shared) (id : TaskId) (state : TaskState) :
    SameTasks sh (sh.setTaskState id state) := by
  have reads : ∀ id', (sh.setTaskState id state).objects.get id' =
      (sh.objects.get id').map (fun o =>
        if id' = id then { o with taskState := state } else o) := by
    intro id'
    by_cases h : id' = id
    · simp [setTaskState, h]
    · simp [setTaskState, h]
  refine { SameHeads.of_map reads (fun id' o => ?_) with
    tasks := rfl, pipeline := rfl, unFinish := fun id' => ?_ }
  · by_cases h : id' = id <;> simp [h]
  · simp only [Shared.unFinishChildren, reads]
    cases sh.objects.get id' with
    | none => rfl
    | some o => by_cases h : id' = id <;> simp [h]

section NewTask
variable {sh sh' : Shared} {id : TaskId} {taskType : TaskType} {param : TaskParam}
  {father : Option TaskId}

/-- A new task is fresh, and it is the only difference it makes. -/
theorem newTask_eq_some (h : sh.newTask id taskType param father = some sh') :
    ¬ sh.allocated id ∧
      sh' = { sh with objects := sh.objects.set id { taskType, param, fatherTask := father } } := by
  unfold newTask at h
  split at h
  case isTrue => cases h
  case isFalse fresh => exact ⟨fresh, (Option.some.inj h).symm⟩

theorem tasks_newTask (h : sh.newTask id taskType param father = some sh') :
    sh'.tasks = sh.tasks := by
  rw [(newTask_eq_some h).2]

theorem pipeline_newTask (h : sh.newTask id taskType param father = some sh') :
    sh'.pipeline = sh.pipeline := by
  rw [(newTask_eq_some h).2]
  rfl

theorem taskQueue_newTask (h : sh.newTask id taskType param father = some sh') :
    sh'.taskQueue = sh.taskQueue := by
  rw [(newTask_eq_some h).2]

theorem allocated_newTask (h : sh.newTask id taskType param father = some sh') (id' : TaskId) :
    sh'.allocated id' ↔ id' = id ∨ sh.allocated id' := by
  rw [(newTask_eq_some h).2]
  by_cases heq : id' = id <;> simp [Shared.allocated, heq]

theorem typeOf_newTask (h : sh.newTask id taskType param father = some sh') (id' : TaskId) :
    sh'.typeOf id' = if id' = id then some taskType else sh.typeOf id' := by
  rw [(newTask_eq_some h).2]
  by_cases heq : id' = id <;> simp [Shared.typeOf, heq]

theorem paramOf_newTask (h : sh.newTask id taskType param father = some sh') (id' : TaskId) :
    sh'.paramOf id' = if id' = id then some param else sh.paramOf id' := by
  rw [(newTask_eq_some h).2]
  by_cases heq : id' = id <;> simp [Shared.paramOf, heq]

theorem fatherOf_newTask (h : sh.newTask id taskType param father = some sh') (id' : TaskId) :
    sh'.fatherOf id' = if id' = id then father else sh.fatherOf id' := by
  rw [(newTask_eq_some h).2]
  by_cases heq : id' = id <;> simp [Shared.fatherOf, heq]

theorem unFinish_newTask (h : sh.newTask id taskType param father = some sh') (id' : TaskId) :
    sh'.unFinishChildren id' = sh.unFinishChildren id' := by
  obtain ⟨fresh, rfl⟩ := newTask_eq_some h
  by_cases heq : id' = id
  · have : sh.objects.get id = none := by simpa [Shared.allocated] using fresh
    simp [Shared.unFinishChildren, heq, this]
  · simp [Shared.unFinishChildren, heq]

end NewTask

section BoardAndQueue
variable (sh : Shared) (id : TaskId)

theorem mem_tasks_addTask (id' : TaskId) :
    id' ∈ (sh.addTask id).tasks ↔ id' = id ∨ id' ∈ sh.tasks := by
  unfold addTask
  split
  case isTrue mem => exact ⟨.inr, fun h => h.elim (fun heq => heq ▸ mem) (fun hmem => hmem)⟩
  case isFalse => simp

theorem objects_addTask : (sh.addTask id).objects = sh.objects := by
  unfold addTask
  split <;> rfl

theorem sameHeads_addTask : SameHeads sh (sh.addTask id) := .of_eq (objects_addTask sh id)

theorem unFinish_addTask (id' : TaskId) :
    (sh.addTask id).unFinishChildren id' = sh.unFinishChildren id' := by
  simp only [unFinishChildren, objects_addTask]

theorem pipeline_addTask : (sh.addTask id).pipeline = sh.pipeline := by
  unfold addTask
  split <;> rfl

theorem taskQueue_addTask : (sh.addTask id).taskQueue = sh.taskQueue := by
  unfold addTask
  split <;> rfl

theorem taskQueue_pushTask (room : sh.taskQueue.length ≤ maxTaskQueueLength) :
    (sh.pushTask id).taskQueue = sh.taskQueue ++ [id] := by
  unfold pushTask
  rw [if_neg (Nat.not_lt.mpr room)]

theorem sameBoard_pushTask : SameBoard sh (sh.pushTask id) := by
  unfold pushTask
  split
  · exact .of_eq rfl rfl
  · exact .of_eq rfl rfl

theorem mem_pipeline_of_mem_pushTask {id' : TaskId} (h : id' ∈ (sh.pushTask id).pipeline) :
    id' = id ∨ id' ∈ sh.pipeline := by
  unfold pushTask at h
  split at h
  · exact .inr h
  · simp only [pipeline, ← List.append_assoc, List.mem_append, List.mem_singleton] at h ⊢
    tauto

theorem nodup_pipeline_pushTask (nodup : sh.pipeline.Nodup) (h : id ∉ sh.pipeline) :
    (sh.pushTask id).pipeline.Nodup := by
  unfold pushTask
  split
  · exact nodup
  · have append : ({ sh with taskQueue := sh.taskQueue ++ [id] } : Shared).pipeline =
        sh.pipeline ++ [id] := by
      simp only [pipeline, List.append_assoc]
    rw [append, List.nodup_append]
    refine ⟨nodup, List.nodup_singleton id, ?_⟩
    rintro a ha b hb rfl
    exact h (List.mem_singleton.mp hb ▸ ha)

end BoardAndQueue

section Children
variable (sh : Shared) (id id' : TaskId)

theorem addChildrenTask_eq :
    sh.addChildrenTask id = { sh with objects := (sh.addChildrenTask id).objects } := by
  unfold addChildrenTask
  split <;> rfl

theorem notifyFatherFinish_eq :
    sh.notifyFatherFinish id = { sh with objects := (sh.notifyFatherFinish id).objects } := by
  unfold notifyFatherFinish
  split
  · rfl
  · split <;> rfl

/-- Registering a child changes the waiting set of its father, where that is an
`OffLineTask`, and nothing else. -/
theorem get_addChildrenTask :
    (sh.addChildrenTask id).objects.get id' =
      (sh.objects.get id').map (fun o =>
        if sh.fatherOf id = some id' ∧ o.taskType = .offLine then
          { o with unFinishChildrenTasks := insert id o.unFinishChildrenTasks } else o) := by
  unfold addChildrenTask fatherOf
  split
  case h_1 h => simp [h]
  case h_2 father h =>
    by_cases heq : id' = father
    · subst heq
      simp only [Store.get_modify, if_true, h, true_and]
    · simp [heq, h, Ne.symm heq]

/-- A report changes the waiting set of the father alone. -/
theorem get_notifyFatherFinish :
    (sh.notifyFatherFinish id).objects.get id' =
      (sh.objects.get id').map (fun o =>
        if sh.fatherOf id = some id' ∧ id' ∈ sh.tasks then
          { o with unFinishChildrenTasks := o.unFinishChildrenTasks.erase id } else o) := by
  unfold notifyFatherFinish fatherOf
  split
  case h_1 h => simp [h]
  case h_2 father h =>
    by_cases heq : id' = father
    · subst heq
      split
      case isTrue board => simp [h, board]
      case isFalse board => simp [board]
    · split
      case isTrue => simp [heq, h, Ne.symm heq]
      case isFalse => simp [h, Ne.symm heq]

theorem sameHeads_addChildrenTask : SameHeads sh (sh.addChildrenTask id) :=
  .of_map (get_addChildrenTask sh id) (fun _ o => by split <;> simp)

theorem sameHeads_notifyFatherFinish : SameHeads sh (sh.notifyFatherFinish id) :=
  .of_map (get_notifyFatherFinish sh id) (fun _ o => by split <;> simp)

theorem unFinish_addChildrenTask :
    (sh.addChildrenTask id).unFinishChildren id' =
      if sh.fatherOf id = some id' ∧ sh.typeOf id' = some .offLine then
        insert id (sh.unFinishChildren id') else sh.unFinishChildren id' := by
  obtain h | ⟨o, h⟩ := Option.eq_none_or_eq_some (sh.objects.get id')
  · simp [unFinishChildren, typeOf, get_addChildrenTask, h]
  · by_cases child : sh.fatherOf id = some id' ∧ o.taskType = .offLine <;>
      simp [unFinishChildren, typeOf, get_addChildrenTask, h, child]

theorem unFinish_notifyFatherFinish :
    (sh.notifyFatherFinish id).unFinishChildren id' =
      if sh.fatherOf id = some id' ∧ id' ∈ sh.tasks then
        (sh.unFinishChildren id').erase id else sh.unFinishChildren id' := by
  simp only [unFinishChildren, get_notifyFatherFinish]
  cases sh.objects.get id' with
  | none => simp
  | some o => by_cases h : sh.fatherOf id = some id' ∧ id' ∈ sh.tasks <;> simp [h]

theorem tasks_addChildrenTask : (sh.addChildrenTask id).tasks = sh.tasks := by
  rw [addChildrenTask_eq]

theorem tasks_notifyFatherFinish : (sh.notifyFatherFinish id).tasks = sh.tasks := by
  rw [notifyFatherFinish_eq]

theorem pipeline_addChildrenTask : (sh.addChildrenTask id).pipeline = sh.pipeline := by
  rw [addChildrenTask_eq]
  rfl

theorem pipeline_notifyFatherFinish : (sh.notifyFatherFinish id).pipeline = sh.pipeline := by
  rw [notifyFatherFinish_eq]
  rfl

end Children
end Shared
end DistributedHardware
