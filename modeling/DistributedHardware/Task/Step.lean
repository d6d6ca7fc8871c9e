import DistributedHardware.Library.Transition
import DistributedHardware.Task.Model

/-!
The threads of the online and offline handling, one lock section a step.

A thread is either a call from outside (`SendOnLineEvent`, `SendOffLineEvent`, or
a handler that creates one task) or the body of one task. Its program point names
the section it executes next; code between two sections is part of the step that
precedes it. `CreateTask` followed by `PushTask` is three sections: the father's
list of children, the board, the queue.
-/

namespace DistributedHardware

inductive ProcId
  | call (n : Nat)
  | task (id : TaskId)
  deriving DecidableEq

inductive SendOnLinePoint
  | loadFlagUnInit | isDeviceOnline | addOnlineDevice | addRealTime | loadIsInit
  | managerInitialize | storeIsInit | createTask
  deriving DecidableEq

inductive SendOffLinePoint
  | loadIsInit | managerInitialize | storeIsInit | isDeviceOnline | deleteRealTime
  | realTimeCount | isomerismCount | storeFlagUnInit | createTask
  deriving DecidableEq

/-- The sections of the six kinds of task. A removal from the board ends every
kind but `OffLineTask`, which goes on to decide about `UnInit`. -/
inductive TaskPoint
  | registerHardware | saveEnabledDevice
  | unRegisterHardware | removeEnabledDevice | notifyFather
  | metaEnable
  | metaDisable
  | syncLocal | syncMeta | onLineReadCaps | onLineReadLocal | onLineReadMeta
  | createEnable (devDhInfos : List (String × DhType)) | createMetaEnable | onLineRemoveTask
  | createMetaDisable | offLineReadCaps | offLineUdidHash | offLineReadMeta (udidHash : String)
  | createDisable (devDhInfos : List (String × DhType))
  | waitDisable | removeOnlineEntry | clearOffLineInfo | offLineRemoveTask
  | realTimeCount | isomerismCount | allTaskFinish
  | release | storeIsInit | storeFlagUnInit | checkExitSa | managerInitialize | storeIsInitAgain
  | removeTask
  deriving DecidableEq

/-- The tasks that are created outside the two events and the tasks' own bodies. -/
inductive ClientTask
  | enable | disable
  deriving DecidableEq

def ClientTask.taskType : ClientTask → TaskType
  | .enable => .enable
  | .disable => .disable

/-- Where a thread goes on after creating a task. -/
inductive Next
  | returned (ret : Int)
  | body (pt : TaskPoint)
  deriving DecidableEq

inductive Pc
  | idle
  | returned (ret : Int)
  | sendOnLine (pt : SendOnLinePoint) (param : TaskParam)
  | sendOffLine (pt : SendOffLinePoint) (param : TaskParam)
  | createTask (kind : ClientTask) (param : TaskParam)
  | body (pt : TaskPoint)
  | addChildrenTask (id : TaskId) (next : Next)
  | addTask (id : TaskId) (next : Next)
  | pushTask (id : TaskId) (next : Next)
  deriving DecidableEq

def Next.pc : Next → Pc
  | .returned ret => .returned ret
  | .body pt => .body pt

/-- What the environment decides in a step: the id drawn for a new task, whether
a component call succeeds, the records a sync finds in the DB and the trusted
devices the device manager lists. -/
structure Choice where
  newId : TaskId := 0
  ok : Bool := true
  caps : List CapabilityInfo := []
  metas : List MetaCapabilityInfo := []
  trusted : List String := []

/-- Calls into this part of the service. `createTask` is what the change handlers
of the registries, `ProcessFullCapsRsp`, `UpdateBusinessState` and
`RecoverDistributedHardware` do for each of their tasks. -/
inductive Call
  | sendOnLineEvent (param : TaskParam)
  | sendOffLineEvent (param : TaskParam)
  | createTask (kind : ClientTask) (param : TaskParam)

structure Sys where
  sh : Shared := {}
  pcs : Store ProcId Pc := ∅

namespace Sys

def pc (s : Sys) (p : ProcId) : Pc := (s.pcs.get p).getD .idle

def setPc (s : Sys) (p : ProcId) (c : Pc) : Sys := { s with pcs := s.pcs.set p c }

@[simp] theorem pc_setPc (s : Sys) (p q : ProcId) (c : Pc) :
    (s.setPc p c).pc q = if q = p then c else s.pc q := by
  by_cases h : q = p <;> simp [pc, setPc, h]

theorem pc_of_notMem_keys {s : Sys} {p : ProcId} (h : p ∉ s.pcs.keys) : s.pc p = .idle := by
  cases hp : s.pcs.get p with
  | none => simp [pc, hp]
  | some c => exact absurd ((Store.mem_keys_iff s.pcs p).mpr ⟨c, hp⟩) h

theorem pc_setPc_self (s : Sys) (p : ProcId) (c : Pc) : (s.setPc p c).pc p = c := by
  simp

@[simp] theorem pc_with_sh (s : Sys) (sh' : Shared) (p : ProcId) :
    ({ s with sh := sh' } : Sys).pc p = s.pc p := rfl

@[simp] theorem sh_setPc (s : Sys) (p : ProcId) (c : Pc) : (s.setPc p c).sh = s.sh := rfl

end Sys

/-- Creation of a task by a thread that goes on at `next`. -/
def createThen (sh : Shared) (ch : Choice) (taskType : TaskType) (param : TaskParam)
    (father : Option TaskId) (next : Next) : Option (Shared × Pc) :=
  (sh.newTask ch.newId taskType param father).map (fun sh' =>
    (sh', if father.isSome then .addChildrenTask ch.newId next else .addTask ch.newId next))

/-- The parameters of the task an event creates. -/
def eventParam (param : TaskParam) : TaskParam :=
  { networkId := param.networkId, uuid := param.uuid, udid := param.udid }

/-- The result of `ComponentManager::Enable` or `Disable`, which check the ids they
are given. -/
def componentSucceeds (ch : Choice) (param : TaskParam) : Bool :=
  ch.ok && isIdLengthValid param.networkId && isIdLengthValid param.uuid &&
    isIdLengthValid param.dhId

def validIds (param : TaskParam) : Bool :=
  isIdLengthValid param.networkId && isIdLengthValid param.uuid && isIdLengthValid param.udid

section Bodies
variable (sha256 : String → String)

def sendOnLineEvent (sh : Shared) (ch : Choice) (param : TaskParam) :
    SendOnLinePoint → Option (Shared × Pc)
  | .loadFlagUnInit =>
      if sh.flagUnInit then some (sh, .returned errDhFwkHardwareManagerInitFailed)
      else some (sh, .sendOnLine .isDeviceOnline param)
  | .isDeviceOnline =>
      if isDeviceOnline param.uuid sh.devIdEntrySet then
        some (sh, .returned errDhFwkHardwareManagerDeviceRepeatOnline)
      else some (sh, .sendOnLine .addOnlineDevice param)
  | .addOnlineDevice =>
      some ({ sh with
        devIdEntrySet :=
          addOnlineDevice sha256 param.udid param.uuid param.networkId sh.devIdEntrySet },
        .sendOnLine .addRealTime param)
  | .addRealTime =>
      some (sh.addRealTimeOnlineDeviceNetworkId param.networkId, .sendOnLine .loadIsInit param)
  | .loadIsInit =>
      some (sh, .sendOnLine (if sh.isInit then .createTask else .managerInitialize) param)
  -- `Initialize` always reports success: the results of its parts are not looked at
  | .managerInitialize => some ({ sh with isAllInit := true }, .sendOnLine .storeIsInit param)
  | .storeIsInit => some ({ sh with isInit := true }, .sendOnLine .createTask param)
  | .createTask => createThen sh ch .onLine (eventParam param) none (.returned dhFwkSuccess)

def sendOffLineEvent (sh : Shared) (ch : Choice) (param : TaskParam) :
    SendOffLinePoint → Option (Shared × Pc)
  | .loadIsInit =>
      some (sh, .sendOffLine (if sh.isInit then .isDeviceOnline else .managerInitialize) param)
  | .managerInitialize => some ({ sh with isAllInit := true }, .sendOffLine .storeIsInit param)
  | .storeIsInit => some ({ sh with isInit := true }, .sendOffLine .isDeviceOnline param)
  | .isDeviceOnline =>
      if isDeviceOnline param.uuid sh.devIdEntrySet then
        some (sh, .sendOffLine .deleteRealTime param)
      else some (sh, .returned errDhFwkHardwareManagerDeviceRepeatOffline)
  | .deleteRealTime =>
      some (sh.deleteRealTimeOnlineDeviceNetworkId param.networkId,
        .sendOffLine .realTimeCount param)
  | .realTimeCount =>
      some (sh, .sendOffLine
        (if sh.getRealTimeOnlineDeviceCount = 0 then .isomerismCount else .createTask) param)
  | .isomerismCount =>
      some (sh, .sendOffLine
        (if sh.getIsomerismConnectCount = 0 then .storeFlagUnInit else .createTask) param)
  | .storeFlagUnInit => some ({ sh with flagUnInit := true }, .sendOffLine .createTask param)
  | .createTask => createThen sh ch .offLine (eventParam param) none (.returned dhFwkSuccess)

/-- The hardware `OnLineTask::CreateEnableTask` and `OffLineTask::CreateDisableTask`
list from records. -/
def devDhInfosOf (caps : List CapabilityInfo) : List (String × DhType) :=
  caps.map (fun cap => (cap.dhId, cap.dhType))

/-- One section of the body of task `id`, whose parameters are `param`. -/
def taskBody (id : TaskId) (param : TaskParam) (sh : Shared) (ch : Choice) :
    TaskPoint → Option (Shared × Pc)
  -- EnableTask::DoTaskInner
  | .registerHardware =>
      if componentSucceeds ch param then
        some ({ sh.setTaskState id .success with
          enabledHardware := insert (param.networkId, param.dhId) sh.enabledHardware },
          .body .saveEnabledDevice)
      else some (sh.setTaskState id .fail, .body .removeTask)
  | .saveEnabledDevice =>
      some (sh.saveEnabledDevice
        (getCapabilityKey (getDeviceIdByUuid sha256 param.uuid) param.dhId) param,
        .body .removeTask)
  -- DisableTask::DoTaskInner
  | .unRegisterHardware =>
      if componentSucceeds ch param then
        some ({ sh with
          enabledHardware := sh.enabledHardware.erase (param.networkId, param.dhId) },
          .body .removeEnabledDevice)
      else some (sh.setTaskState id .fail, .body .notifyFather)
  | .removeEnabledDevice =>
      let key := getCapabilityKey (getDeviceIdByUuid sha256 param.uuid) param.dhId
      some ((sh.removeEnabledDevice key).setTaskState id .success, .body .notifyFather)
  | .notifyFather => some (sh.notifyFatherFinish id, .body .removeTask)
  -- MetaEnableTask::DoTaskInner and MetaDisableTask::DoTaskInner
  | .metaEnable =>
      some (sh.setTaskState id (if ch.ok then .success else .fail), .body .removeTask)
  | .metaDisable =>
      some (sh.setTaskState id (if ch.ok then .success else .fail), .body .notifyFather)
  -- OnLineTask::DoTask
  | .syncLocal =>
      some ({ sh with
        localCapInfoMap := saveRecords CapabilityInfo.getKey sh.localCapInfoMap ch.caps },
        .body .syncMeta)
  | .syncMeta =>
      some ({ sh with
        globalMetaInfoMap := saveRecords MetaCapabilityInfo.getKey sh.globalMetaInfoMap ch.metas },
        .body .onLineReadCaps)
  | .onLineReadCaps =>
      let infos := devDhInfosOf
        (getCapabilitiesByDeviceId sh.globalCapInfoMap (getDeviceIdByUuid sha256 param.uuid) [])
      some (sh, .body (if infos = [] then .onLineReadLocal else .createEnable infos))
  | .onLineReadLocal =>
      let infos := devDhInfosOf
        (localGetCapabilitiesByDeviceId sh.localCapInfoMap (getDeviceIdByUuid sha256 param.uuid) [])
      some (sh, .body (if infos = [] then .onLineReadMeta else .createEnable infos))
  | .onLineReadMeta =>
      some (sh, .body (.createEnable (devDhInfosOf
        ((getMetaCapInfosByUdidHash sh.globalMetaInfoMap (sha256 param.udid) []).map
          MetaCapabilityInfo.toCapabilityInfo))))
  | .createEnable [] => some (sh, .body .createMetaEnable)
  | .createEnable (info :: infos) =>
      createThen sh ch .enable { param with dhId := info.1, dhType := info.2 } (some id)
        (.body (.createEnable infos))
  | .createMetaEnable => createThen sh ch .metaEnable param (some id) (.body .onLineRemoveTask)
  | .onLineRemoveTask =>
      some ({ (sh.setTaskState id .success).removeTask id with handlerTask := none },
        .returned dhFwkSuccess)
  -- OffLineTask::DoTaskInner, its steps in the order its constructor sets
  | .createMetaDisable =>
      createThen sh ch .metaDisable { param with udid := "" } (some id) (.body .offLineReadCaps)
  | .offLineReadCaps =>
      let infos := devDhInfosOf
        (getCapabilitiesByDeviceId sh.globalCapInfoMap (getDeviceIdByUuid sha256 param.uuid) [])
      some (sh, .body (if infos = [] then .offLineUdidHash else .createDisable infos))
  | .offLineUdidHash =>
      some (sh, .body (.offLineReadMeta (getUdidHashIdByUuid param.uuid sh.devIdEntrySet)))
  | .offLineReadMeta udidHash =>
      some (sh, .body (.createDisable (devDhInfosOf
        ((getMetaCapInfosByUdidHash sh.globalMetaInfoMap udidHash []).map
          MetaCapabilityInfo.toCapabilityInfo))))
  | .createDisable [] => some (sh, .body .waitDisable)
  | .createDisable (info :: infos) =>
      createThen sh ch .disable { param with udid := "", dhId := info.1, dhType := info.2 }
        (some id) (.body (.createDisable infos))
  | .waitDisable =>
      if sh.unFinishChildren id = ∅ then some (sh, .body .removeOnlineEntry) else none
  | .removeOnlineEntry =>
      some ({ sh with
        devIdEntrySet := removeOnlineDeviceIdEntryByNetworkId param.networkId sh.devIdEntrySet },
        .body .clearOffLineInfo)
  | .clearOffLineInfo =>
      some ({ sh with
        globalCapInfoMap := (removeCapabilityInfoInMem sh.globalCapInfoMap
          (getDeviceIdByUuid sha256 param.uuid)).2 },
        .body .offLineRemoveTask)
  | .offLineRemoveTask =>
      some ((sh.setTaskState id .success).removeTask id, .body .realTimeCount)
  | .realTimeCount =>
      some (sh, if sh.getRealTimeOnlineDeviceCount = 0 then .body .isomerismCount
        else .returned dhFwkSuccess)
  | .isomerismCount =>
      some (sh, if sh.getIsomerismConnectCount = 0 then .body .allTaskFinish
        else .returned dhFwkSuccess)
  | .allTaskFinish =>
      some (sh, if sh.isAllTaskFinish then .body .release else .returned dhFwkSuccess)
  -- DistributedHardwareManagerFactory::UnInit and CheckExitSAOrNot
  | .release => some ({ sh with isAllInit := false }, .body .storeIsInit)
  | .storeIsInit => some ({ sh with isInit := false }, .body .storeFlagUnInit)
  | .storeFlagUnInit => some ({ sh with flagUnInit := false }, .body .checkExitSa)
  -- the threads it starts for the trusted devices are calls like any other
  | .checkExitSa =>
      some (sh, if (ch.trusted = [] ∨ ch.trusted.length > maxOnlineDeviceSize) ∧
          sh.getIsomerismConnectCount = 0 then .returned dhFwkSuccess else .body .managerInitialize)
  | .managerInitialize => some ({ sh with isAllInit := true }, .body .storeIsInitAgain)
  | .storeIsInitAgain => some ({ sh with isInit := true }, .returned dhFwkSuccess)
  -- the end of the enabling and disabling kinds
  | .removeTask => some (sh.removeTask id, .returned dhFwkSuccess)

/-- The first section of each kind of task. -/
def entryOf : TaskType → TaskPoint
  | .enable => .registerHardware
  | .disable => .unRegisterHardware
  | .onLine => .syncLocal
  | .offLine => .createMetaDisable
  | .metaEnable => .metaEnable
  | .metaDisable => .metaDisable

/-- One section of a thread: calls run the code of the events and of the
creation of single tasks, tasks run their bodies. -/
def exec (sh : Shared) (ch : Choice) : ProcId → Pc → Option (Shared × Pc)
  | .call _, .sendOnLine pt param => sendOnLineEvent sha256 sh ch param pt
  | .call _, .sendOffLine pt param => sendOffLineEvent sh ch param pt
  | .call _, .createTask kind param =>
      createThen sh ch kind.taskType param none (.returned dhFwkSuccess)
  | .task id, .body pt => (sh.objects.get id).bind (fun o => taskBody sha256 id o.param sh ch pt)
  | _, .addChildrenTask id next => some (sh.addChildrenTask id, .addTask id next)
  | _, .addTask id next => some (sh.addTask id, .pushTask id next)
  | _, .pushTask id next => some (sh.pushTask id, next.pc)
  | _, _ => none

/-- The first section of a call, or its immediate return. -/
def entryOfCall : Call → Pc
  | .sendOnLineEvent param =>
      if validIds param then .sendOnLine .loadFlagUnInit param else .returned errDhFwkParaInvalid
  | .sendOffLineEvent param =>
      if validIds param then .sendOffLine .loadIsInit param else .returned errDhFwkParaInvalid
  | .createTask kind param => .createTask kind param

inductive Act
  | call (n : Nat) (c : Call)
  | run (p : ProcId) (ch : Choice)
  | popTask
  | postTask (accepted : Bool)
  | runPosted
  | startSubmitted (id : TaskId)
  | isomerism (connected : Bool) (deviceId : String)
  | registries (caps localCaps : CapabilityInfoMap) (metas : MetaCapInfoMap)

/-- The body of a task begins. -/
def startTask (s : Sys) (id : TaskId) (taskType : TaskType) : Sys :=
  { s with sh := s.sh.setTaskState id .running }.setPc (.task id) (.body (entryOf taskType))

def step (s : Sys) : Act → Option Sys
  | .call n c =>
      if s.pc (.call n) = .idle then some (s.setPc (.call n) (entryOfCall c)) else none
  | .run p ch =>
      (exec sha256 s.sh ch p (s.pc p)).map (fun r => { s with sh := r.1 }.setPc p r.2)
  -- TaskExecutor::TriggerTask
  | .popTask =>
      match s.sh.popped, s.sh.taskQueue with
      | none, id :: rest => some { s with sh := { s.sh with popped := some id, taskQueue := rest } }
      | _, _ => none
  | .postTask accepted =>
      match s.sh.popped with
      | some id =>
          some { s with sh := { s.sh with
            popped := none
            posted := if accepted then s.sh.posted ++ [id] else s.sh.posted } }
      | none => none
  -- the event handler's thread calls `DoTask`: an `OnLineTask` runs in place, the
  -- other kinds submit their bodies
  | .runPosted =>
      match s.sh.handlerTask, s.sh.posted with
      | none, id :: rest =>
          match s.sh.typeOf id with
          | some .onLine =>
              some (startTask { s with sh := { s.sh with posted := rest, handlerTask := some id } }
                id .onLine)
          | _ =>
              some { s with sh := { s.sh with
                posted := rest, submitted := s.sh.submitted ++ [id] } }
      | _, _ => none
  | .startSubmitted id =>
      match s.sh.typeOf id with
      | some taskType =>
          if id ∈ s.sh.submitted then
            some (startTask { s with sh := { s.sh with submitted := s.sh.submitted.erase id } }
              id taskType)
          else none
      | none => none
  | .isomerism connected deviceId =>
      some { s with sh := { s.sh with
        connectedDevIds :=
          if !isIdLengthValid deviceId then s.sh.connectedDevIds
          else if connected then insert deviceId s.sh.connectedDevIds
          else s.sh.connectedDevIds.erase deviceId } }
  -- notifications from the DB and syncs change the registries between any two steps
  | .registries caps localCaps metas =>
      some { s with sh := { s.sh with
        globalCapInfoMap := caps, localCapInfoMap := localCaps, globalMetaInfoMap := metas } }

def taskSystem : TransitionSystem Sys Act where
  init := fun s => s = {}
  step := step sha256

variable {sha256}

/-- A thread that takes a step executes the section it is at. -/
theorem step_run {s t : Sys} {p : ProcId} {ch : Choice}
    (h : step sha256 s (.run p ch) = some t) :
    ∃ sh' c', exec sha256 s.sh ch p (s.pc p) = some (sh', c') ∧
      t = { s with sh := sh' }.setPc p c' := by
  obtain ⟨⟨sh', c'⟩, he, rfl⟩ := Option.map_eq_some_iff.mp h
  exact ⟨sh', c', he, rfl⟩

/-- The body of a task runs with the parameters of the task. -/
theorem exec_body {sh : Shared} {ch : Choice} {id : TaskId} {pt : TaskPoint} {r : Shared × Pc}
    (h : exec sha256 sh ch (.task id) (.body pt) = some r) :
    ∃ param, sh.paramOf id = some param ∧ taskBody sha256 id param sh ch pt = some r := by
  obtain ⟨o, ho, he⟩ := Option.bind_eq_some_iff.mp h
  exact ⟨o.param, Option.map_eq_some_iff.mpr ⟨o, ho, rfl⟩, he⟩

theorem reachable_step {s t : Sys} {a : Act} (h : (taskSystem sha256).Reachable s)
    (hs : step sha256 s a = some t) : (taskSystem sha256).Reachable t :=
  TransitionSystem.Reachable.step h hs

theorem reachable_run {s : Sys} {p : ProcId} {c c' : Pc} {sh' : Shared}
    (h : (taskSystem sha256).Reachable s) (ch : Choice) (hp : s.pc p = c)
    (he : exec sha256 s.sh ch p c = some (sh', c')) :
    (taskSystem sha256).Reachable ({ s with sh := sh' }.setPc p c') := by
  refine reachable_step h (a := .run p ch) ?_
  simp only [step, hp, he, Option.map_some]

end Bodies

section Schedules

/-- The next `n` sections of a thread. -/
def runs (p : ProcId) (n : Nat) (ch : Choice) : List Act := List.replicate n (.run p ch)

/-- The task at the head of the queue goes on to the event handler's thread. -/
def dispatch : List Act := [.popTask, .postTask true, .runPosted]

def sampleSha256 (s : String) : String :=
  if s = "uA" then "c965835a9a7187cd4dcd14805363f60cee6da56a4cadd5d74f07f47b40bbd40f"
  else if s = "dA" then "8ba8dcdbd62860b96080baec5954ecb41c72d847bec00fcd33a40f8dffb3e481"
  else if s = "uB" then "dd0038b606775812eceaec84ca2582c54cf82953b27bbdd771b4416b875268c2"
  else "ba71adaf5552569115037bcc45a97143b6f50d12b20fb3d85d329cbf1f1ef985"

def deviceA : TaskParam := { networkId := "nA", uuid := "uA", udid := "dA" }

def deviceB : TaskParam := { networkId := "nB", uuid := "uB", udid := "dB" }

end Schedules
end DistributedHardware
