import DistributedHardware.Library.LastWriter
import DistributedHardware.Task.OfflineBarrier

/-!
The ENABLE and DISABLE tasks of one hardware against each other.

A task makes its component call and its bookkeeping in separate sections of its own
runner, so tasks of one hardware overtake each other between the executor's queue and
the component, and again between the component and the board.
-/

namespace DistributedHardware
variable (sha256 : String → String)

/-- An ENABLE or DISABLE task of the hardware `hw`, given by network id and dhId. -/
def Shared.isTaskFor (sh : Shared) (hw : String × String) (id : TaskId) : Bool :=
  match sh.objects.get id with
  | some o =>
      (o.taskType = .enable || o.taskType = .disable) && (o.param.networkId, o.param.dhId) = hw
  | none => false

/-- The service, with the tasks of one hardware in the order of their creation, the
latest first. -/
structure HardwareTasks where
  sys : Sys := {}
  created : List TaskId := []

/-- The tasks of the hardware that a step has made. -/
def madeFor (hw : String × String) (s t : Sys) : List TaskId :=
  t.sh.objects.keys.filter (fun id => !s.sh.allocated id && t.sh.isTaskFor hw id)

def hardwareTaskSystem (hw : String × String) : TransitionSystem HardwareTasks Act where
  init := fun s => s = {}
  step := fun s a => (step sha256 s.sys a).map (fun t =>
    { sys := t, created := madeFor hw s.sys t ++ s.created })

/-- The key under which a task enters the hardware in `enabledDevices_`. -/
def enabledKey (param : TaskParam) : String :=
  getCapabilityKey (getDeviceIdByUuid sha256 param.uuid) param.dhId

/-- Component calls for the hardware succeed, and the key stands for it alone. -/
def hardwareApart (hw : String × String) (key : String) (s : HardwareTasks) : Act → Bool
  | .run (.task id) ch =>
      match s.sys.pc (.task id), s.sys.sh.paramOf id with
      | .body .registerHardware, some param | .body .unRegisterHardware, some param =>
          (param.networkId, param.dhId) ≠ hw || componentSucceeds ch param
      | .body .saveEnabledDevice, some param | .body .removeEnabledDevice, some param =>
          enabledKey sha256 param = key ↔ (param.networkId, param.dhId) = hw
      | _, _ => true
  | _ => true

/-- The sections in which a task calls the component, and those in which it notes it. -/
def Pc.calls (c : Pc) : Prop := c = .body .registerHardware ∨ c = .body .unRegisterHardware

def Pc.notes (c : Pc) : Prop := c = .body .saveEnabledDevice ∨ c = .body .removeEnabledDevice

/-- The component call of a task is yet to come, and its bookkeeping is. -/
def Pc.beforeCall (c : Pc) : Prop := c = .idle ∨ c.calls

def Pc.beforeNote (c : Pc) : Prop := c.beforeCall ∨ c.notes

namespace HardwareTasks
variable (s : HardwareTasks) (hw : String × String) (key : String)

def enables (id : TaskId) : Bool := s.sys.sh.typeOf id = some .enable

def callInTurn : TaskId → Prop :=
  InTurn s.enables s.created (fun w => (s.sys.pc (.task w)).beforeCall)

def noteInTurn : TaskId → Prop :=
  InTurn s.enables s.created (fun w => (s.sys.pc (.task w)).beforeNote)

/-- A task of the hardware calls the component, and notes what it did, only in its
turn: where it is of the kind of the task created last, or a task of that kind has yet
to do the same. -/
def keepsOrder : Act → Prop
  | .run (.task id) _ =>
      s.sys.sh.isTaskFor hw id = true →
        ((s.sys.pc (.task id)).calls → s.callInTurn id) ∧
        ((s.sys.pc (.task id)).notes → s.noteInTurn id)
  | _ => True

instance : DecidablePred Pc.calls := fun c =>
  inferInstanceAs (Decidable (c = .body .registerHardware ∨ c = .body .unRegisterHardware))

instance : DecidablePred Pc.notes := fun c =>
  inferInstanceAs (Decidable (c = .body .saveEnabledDevice ∨ c = .body .removeEnabledDevice))

instance : DecidablePred Pc.beforeCall := fun c =>
  inferInstanceAs (Decidable (c = .idle ∨ c.calls))

instance : DecidablePred Pc.beforeNote := fun c =>
  inferInstanceAs (Decidable (c.beforeCall ∨ c.notes))

instance (id : TaskId) : Decidable (s.callInTurn id) :=
  inferInstanceAs (Decidable (InTurn _ _ _ _))

instance (id : TaskId) : Decidable (s.noteInTurn id) :=
  inferInstanceAs (Decidable (InTurn _ _ _ _))

instance (a : Act) : Decidable (s.keepsOrder hw a) :=
  match a with
  | .run (.task id) _ => inferInstanceAs (Decidable (s.sys.sh.isTaskFor hw id = true →
      ((s.sys.pc (.task id)).calls → s.callInTurn id) ∧
      ((s.sys.pc (.task id)).notes → s.noteInTurn id)))
  | .run (.call _) _ | .call _ _ | .popTask | .postTask _ | .runPosted | .startSubmitted _
  | .isomerism _ _ | .registries _ _ _ => .isTrue trivial

/-- The component and the board end with what the task created last has asked for. -/
structure Settling : Prop where
  component : Settles s.enables s.created (fun w => (s.sys.pc (.task w)).beforeCall)
    (hw ∈ s.sys.sh.enabledHardware)
  board : Settles s.enables s.created (fun w => (s.sys.pc (.task w)).beforeNote)
    (s.sys.sh.isEnabledDevice key)

end HardwareTasks

section Sections
variable {sha256} {sh sh' : Shared} {s t : Sys} {a : Act} {ch : Choice} {p : ProcId} {c c' : Pc}

/-- One section of a thread, by what it does to `enabledDevices_`. -/
inductive BoardEffect (sha256 : String → String) (sh : Shared) : ProcId → Pc → Shared → Prop
  | same {p : ProcId} {c : Pc} {sh' : Shared} :
      sh'.enabledDevices = sh.enabledDevices → BoardEffect sha256 sh p c sh'
  | save {id : TaskId} {param : TaskParam} {sh' : Shared} : sh.paramOf id = some param →
      sh'.enabledDevices = sh.enabledDevices.set (enabledKey sha256 param) param →
      BoardEffect sha256 sh (.task id) (.body .saveEnabledDevice) sh'
  | remove {id : TaskId} {param : TaskParam} {sh' : Shared} : sh.paramOf id = some param →
      sh'.enabledDevices = sh.enabledDevices.erase (enabledKey sha256 param) →
      BoardEffect sha256 sh (.task id) (.body .removeEnabledDevice) sh'

theorem exec_board (h : exec sha256 sh ch p c = some (sh', c')) :
    BoardEffect sha256 sh p c sh' := by
  have after := congrArg Outside.enabledDevices (exec_outside h)
  cases c with
  | sendOnLine pt param | sendOffLine pt param =>
      cases p with
      | task id => cases h
      | call n => cases pt <;> exact .same after
  | body pt =>
      cases p with
      | call n => cases h
      | task id =>
          obtain ⟨param, hparam, -⟩ := exec_body h
          simp only [outsideAfter, hparam] at after
          cases pt with
          | saveEnabledDevice => exact .save hparam after
          | removeEnabledDevice => exact .remove hparam after
          | _ => exact .same after
  | _ => cases p <;> exact .same after

/-- Only the sections of threads touch `enabledDevices_`. -/
theorem step_board (h : step sha256 s a = some t) (norun : ∀ p ch, a ≠ .run p ch) :
    t.sh.enabledDevices = s.sh.enabledDevices := by
  cases a with
  | run p ch => exact absurd rfl (norun p ch)
  | call _ _ | popTask | postTask _ =>
      simp only [step] at h
      split at h <;> cases h
      rfl
  | runPosted =>
      simp only [step] at h
      split at h
      · split at h <;> cases h <;> rfl
      · cases h
  | startSubmitted id =>
      simp only [step] at h
      split at h
      · split at h <;> cases h
        rfl
      · cases h
  | isomerism _ _ | registries _ _ _ =>
      cases h
      rfl

end Sections

section Writes
variable {sha256} {s t : Sys} {a : Act} {hw : String × String} {id : TaskId}

theorem isTaskFor_iff {sh : Shared} : sh.isTaskFor hw id = true ↔
    ∃ kind param, sh.typeOf id = some kind ∧ (kind = .enable ∨ kind = .disable) ∧
      sh.paramOf id = some param ∧ (param.networkId, param.dhId) = hw := by
  unfold Shared.isTaskFor Shared.typeOf Shared.paramOf
  cases sh.objects.get id with
  | none => simp
  | some o => simp

theorem isTaskFor_of_keeps {sh sh' : Shared} (keeps : KeepsTask sh sh' id)
    (h : sh.isTaskFor hw id = true) : sh'.isTaskFor hw id = true := by
  obtain ⟨kind, param, hkind, hmem, hparam, hhw⟩ := isTaskFor_iff.mp h
  exact isTaskFor_iff.mpr ⟨kind, param, keeps.typeOf.trans hkind, hmem,
    keeps.paramOf.trans hparam, hhw⟩

theorem allocated_of_isTaskFor {sh : Shared} (h : sh.isTaskFor hw id = true) : sh.allocated id := by
  obtain ⟨kind, -, hkind, -⟩ := isTaskFor_iff.mp h
  exact Shared.allocated_of_typeOf hkind

theorem run_body {ch : Choice} {pt : TaskPoint} {param : TaskParam}
    (hs : step sha256 s (.run (.task id) ch) = some t) (hpc : s.pc (.task id) = .body pt)
    (hparam : s.sh.paramOf id = some param) :
    ∃ sh' c', taskBody sha256 id param s.sh ch pt = some (sh', c') ∧
      t = ({ s with sh := sh' } : Sys).setPc (.task id) c' := by
  obtain ⟨sh', c', he, rfl⟩ := step_run hs
  rw [hpc] at he
  obtain ⟨param', hparam', hbody⟩ := exec_body he
  obtain rfl : param' = param := Option.some.inj (hparam'.symm.trans hparam)
  exact ⟨sh', c', hbody, rfl⟩

variable {key : String} {created : List TaskId}

/-- A component call for the hardware takes effect, and the task goes on to note it. -/
theorem run_calls (fam : Family s) {ch : Choice}
    (apart : hardwareApart sha256 hw key ⟨s, created⟩ (.run (.task id) ch) = true)
    (hs : step sha256 s (.run (.task id) ch) = some t) (hfor : s.sh.isTaskFor hw id = true)
    (hcalls : (s.pc (.task id)).calls) :
    decide (hw ∈ t.sh.enabledHardware) = decide (s.sh.typeOf id = some .enable) ∧
      (t.pc (.task id)).notes := by
  obtain ⟨kind, param, hkind, -, hparam, rfl⟩ := isTaskFor_iff.mp hfor
  obtain hpc | hpc := hcalls
  · have succeeds : componentSucceeds ch param = true := by
      simpa [hardwareApart, hpc, hparam] using apart
    obtain rfl := List.mem_singleton.mp (fam.kind_mem hpc hkind)
    obtain ⟨sh', c', hbody, rfl⟩ := run_body hs hpc hparam
    simp only [taskBody, succeeds, if_true] at hbody
    obtain ⟨rfl, rfl⟩ := hbody
    exact ⟨by simp [hkind], .inl (Sys.pc_setPc_self _ _ _)⟩
  · have succeeds : componentSucceeds ch param = true := by
      simpa [hardwareApart, hpc, hparam] using apart
    obtain rfl := List.mem_singleton.mp (fam.kind_mem hpc hkind)
    obtain ⟨sh', c', hbody, rfl⟩ := run_body hs hpc hparam
    simp only [taskBody, succeeds, if_true] at hbody
    obtain ⟨rfl, rfl⟩ := hbody
    exact ⟨by simp [hkind], .inr (Sys.pc_setPc_self _ _ _)⟩

/-- The bookkeeping for the hardware takes effect, and the task is past it. -/
theorem run_notes (fam : Family s) {ch : Choice}
    (apart : hardwareApart sha256 hw key ⟨s, created⟩ (.run (.task id) ch) = true)
    (hs : step sha256 s (.run (.task id) ch) = some t) (hfor : s.sh.isTaskFor hw id = true)
    (hnotes : (s.pc (.task id)).notes) :
    t.sh.isEnabledDevice key = decide (s.sh.typeOf id = some .enable) ∧
      ¬ (t.pc (.task id)).beforeNote := by
  obtain ⟨kind, param, hkind, -, hparam, rfl⟩ := isTaskFor_iff.mp hfor
  obtain hpc | hpc := hnotes
  · have hkey : enabledKey sha256 param = key := by
      simpa [hardwareApart, hpc, hparam] using apart
    obtain rfl := List.mem_singleton.mp (fam.kind_mem hpc hkind)
    obtain ⟨sh', c', hbody, rfl⟩ := run_body hs hpc hparam
    obtain ⟨rfl, rfl⟩ := hbody
    refine ⟨?_, by simp [Pc.beforeNote, Pc.beforeCall, Pc.calls, Pc.notes]⟩
    simp only [Sys.sh_setPc, Shared.isEnabledDevice, Shared.saveEnabledDevice, hkind]
    rw [Store.get_set, if_pos (show key = getCapabilityKey _ _ from hkey.symm)]
    rfl
  · have hkey : enabledKey sha256 param = key := by
      simpa [hardwareApart, hpc, hparam] using apart
    obtain rfl := List.mem_singleton.mp (fam.kind_mem hpc hkind)
    obtain ⟨sh', c', hbody, rfl⟩ := run_body hs hpc hparam
    obtain ⟨rfl, rfl⟩ := hbody
    refine ⟨?_, by simp [Pc.beforeNote, Pc.beforeCall, Pc.calls, Pc.notes]⟩
    simp only [Sys.sh_setPc, Shared.isEnabledDevice, Shared.setTaskState,
      Shared.removeEnabledDevice, hkind]
    rw [Store.get_erase, if_pos (show key = getCapabilityKey _ _ from hkey.symm)]
    rfl

/-- Other steps leave the hardware alone. -/
theorem component_kept (fam : Family s) (hs : step sha256 s a = some t)
    (other : ∀ id ch, a = .run (.task id) ch → s.sh.isTaskFor hw id = true →
      ¬ (s.pc (.task id)).calls) :
    hw ∈ t.sh.enabledHardware ↔ hw ∈ s.sh.enabledHardware := by
  by_cases hrun : ∃ p ch, a = .run p ch
  · obtain ⟨p, ch, rfl⟩ := hrun
    obtain ⟨sh', c', he, rfl⟩ := step_run hs
    have effect := exec_devices he
    rw [Sys.sh_setPc]
    generalize hc : s.pc p = c at effect
    cases effect with
    | same same => rw [same.enabledHardware]
    | registerHardware hparam _ =>
        obtain ⟨kind, hmem, hkind⟩ := fam.kind_of_body hc
        rw [Finset.mem_insert, or_iff_right]
        rintro rfl
        refine other _ _ rfl (isTaskFor_iff.mpr ⟨kind, _, hkind, ?_, hparam, rfl⟩) (.inl hc)
        exact .inl (List.mem_singleton.mp hmem)
    | unRegisterHardware hparam =>
        obtain ⟨kind, hmem, hkind⟩ := fam.kind_of_body hc
        rw [Finset.mem_erase, and_iff_right]
        rintro rfl
        refine other _ _ rfl (isTaskFor_iff.mpr ⟨kind, _, hkind, ?_, hparam, rfl⟩) (.inr hc)
        exact .inr (List.mem_singleton.mp hmem)
    | _ => exact Iff.rfl
  · rw [(step_devices hs (fun p ch heq => hrun ⟨p, ch, heq⟩)).enabledHardware]

theorem board_kept (fam : Family s) (apart : hardwareApart sha256 hw key ⟨s, created⟩ a = true)
    (hs : step sha256 s a = some t)
    (other : ∀ id ch, a = .run (.task id) ch → s.sh.isTaskFor hw id = true →
      ¬ (s.pc (.task id)).notes) :
    t.sh.isEnabledDevice key = s.sh.isEnabledDevice key := by
  unfold Shared.isEnabledDevice
  by_cases hrun : ∃ p ch, a = .run p ch
  · obtain ⟨p, ch, rfl⟩ := hrun
    obtain ⟨sh', c', he, rfl⟩ := step_run hs
    have effect := exec_board he
    rw [Sys.sh_setPc]
    generalize hc : s.pc p = c at effect
    cases effect with
    | same same => rw [same]
    | save hparam heq =>
        obtain ⟨kind, hmem, hkind⟩ := fam.kind_of_body hc
        rw [heq, Store.get_set, if_neg]
        intro hkey
        simp only [hardwareApart, hc, hparam, decide_eq_true_eq] at apart
        refine other _ _ rfl (isTaskFor_iff.mpr
          ⟨kind, _, hkind, .inl (List.mem_singleton.mp hmem), hparam, apart.mp hkey.symm⟩) (.inl hc)
    | remove hparam heq =>
        obtain ⟨kind, hmem, hkind⟩ := fam.kind_of_body hc
        rw [heq, Store.get_erase, if_neg]
        intro hkey
        simp only [hardwareApart, hc, hparam, decide_eq_true_eq] at apart
        refine other _ _ rfl (isTaskFor_iff.mpr
          ⟨kind, _, hkind, .inr (List.mem_singleton.mp hmem), hparam, apart.mp hkey.symm⟩) (.inr hc)
  · rw [step_board hs (fun p ch heq => hrun ⟨p, ch, heq⟩)]

/-- A task of the hardware stays before its component call until it makes it. -/
theorem beforeCall_step (life : Lifecycle s) (hs : step sha256 s a = some t)
    (hfor : s.sh.isTaskFor hw id = true) (hbefore : (s.pc (.task id)).beforeCall)
    (other : ∀ ch, a = .run (.task id) ch → ¬ (s.pc (.task id)).calls) :
    (t.pc (.task id)).beforeCall := by
  cases thread_step life hs (.task id) with
  | stays heq => exact heq ▸ hbefore
  | called heq => cases heq
  | started heq _ hentry hkind =>
      cases heq
      obtain ⟨kind, -, hkind', hmem, -⟩ := isTaskFor_iff.mp hfor
      obtain rfl := Option.some.inj (hkind.symm.trans hkind')
      obtain rfl | rfl := hmem
      · exact .inr (.inl hentry)
      · exact .inr (.inr hentry)
  | runs he =>
      obtain hidle | hcalls := hbefore
      · rw [hidle] at he
        cases he
      · exact absurd hcalls (other _ rfl)

/-- And before its bookkeeping. -/
theorem beforeNote_step (life : Lifecycle s) (fam : Family s)
    (apart : hardwareApart sha256 hw key ⟨s, created⟩ a = true) (hs : step sha256 s a = some t)
    (hfor : s.sh.isTaskFor hw id = true) (hbefore : (s.pc (.task id)).beforeNote)
    (other : ∀ ch, a = .run (.task id) ch → ¬ (s.pc (.task id)).notes) :
    (t.pc (.task id)).beforeNote := by
  by_cases hrun : ∃ ch, a = .run (.task id) ch
  · obtain ⟨ch, rfl⟩ := hrun
    obtain hcall | hnotes := hbefore
    · obtain hidle | hcalls := hcall
      · exact .inl (beforeCall_step life hs hfor (.inl hidle) (by simp [Pc.calls, hidle]))
      · exact .inr (run_calls fam apart hs hfor hcalls).2
    · exact absurd hnotes (other ch rfl)
  · obtain hcall | hnotes := hbefore
    · exact .inl (beforeCall_step life hs hfor hcall (fun ch heq => absurd ⟨ch, heq⟩ hrun))
    · cases thread_step life hs (.task id) with
      | stays heq => exact heq ▸ .inr hnotes
      | called heq => cases heq
      | started _ hidle =>
          rw [hidle] at hnotes
          obtain h | h := hnotes <;> cases h
      | runs => exact absurd ⟨_, rfl⟩ hrun

end Writes

section Runs
variable {sha256} {hw : String × String} {key : String} {s t : HardwareTasks} {a : Act}

theorem hardwareTaskSystem_step (hs : (hardwareTaskSystem sha256 hw).step s a = some t) :
    step sha256 s.sys a = some t.sys ∧ t.created = madeFor hw s.sys t.sys ++ s.created := by
  obtain ⟨sys, hsys, rfl⟩ := Option.map_eq_some_iff.mp hs
  exact ⟨hsys, rfl⟩

theorem reachable_sys (h : (hardwareTaskSystem sha256 hw).Reachable s) :
    (taskSystem sha256).Reachable s.sys := by
  apply h.invariant
  case initial =>
    rintro _ rfl
    exact .init rfl
  case preserved => exact fun s a t reach hs => reach.step (hardwareTaskSystem_step hs).1

theorem mem_madeFor {s t : Sys} {id : TaskId} :
    id ∈ madeFor hw s t ↔ ¬ s.sh.allocated id ∧ t.sh.isTaskFor hw id = true := by
  unfold madeFor
  rw [List.mem_filter, Bool.and_eq_true, Bool.not_eq_true', decide_eq_false_iff_not]
  refine and_iff_right_of_imp (fun h => (Store.mem_keys_iff _ _).mpr ?_)
  exact Option.isSome_iff_exists.mp (allocated_of_isTaskFor h.2)

/-- The list holds all the tasks of the hardware. -/
theorem mem_created_iff (h : (hardwareTaskSystem sha256 hw).Reachable s) {id : TaskId} :
    id ∈ s.created ↔ s.sys.sh.isTaskFor hw id = true := by
  revert id
  refine h.invariant (I := fun s => ∀ {id}, id ∈ s.created ↔ s.sys.sh.isTaskFor hw id = true) ?_ ?_
  · rintro _ rfl id
    exact iff_of_false List.not_mem_nil (fun h => nomatch h)
  · intro s a t inv hs id
    obtain ⟨hsys, hcreated⟩ := hardwareTaskSystem_step hs
    rw [hcreated, List.mem_append, mem_madeFor, inv]
    by_cases ha : s.sys.sh.allocated id
    · have keeps := step_keepsTask hsys ha
      have back : KeepsTask t.sys.sh s.sys.sh id :=
        ⟨ha, keeps.typeOf.symm, keeps.paramOf.symm, keeps.fatherOf.symm⟩
      rw [iff_true_intro ha, not_true, false_and, false_or]
      exact ⟨isTaskFor_of_keeps keeps, isTaskFor_of_keeps back⟩
    · rw [iff_false_intro ha, not_false_eq_true, true_and, or_iff_left]
      exact fun hfor => ha (allocated_of_isTaskFor hfor)

/-- A task that a step has made has not begun. -/
theorem idle_of_madeFor (life : Lifecycle s.sys) (hs : step sha256 s.sys a = some t.sys)
    {id : TaskId} (h : id ∈ madeFor hw s.sys t.sys) : t.sys.pc (.task id) = .idle := by
  have fresh := (mem_madeFor.mp h).1
  have hidle : s.sys.pc (.task id) = .idle := by
    by_contra hstarted
    exact fresh (life.started id hstarted)
  cases thread_step life hs (.task id) with
  | stays heq => exact heq.trans hidle
  | called heq => cases heq
  | started heq _ _ hkind =>
      cases heq
      exact absurd (Shared.allocated_of_typeOf hkind) fresh
  | runs he =>
      rw [hidle] at he
      cases he

section Step
variable (reach : (hardwareTaskSystem sha256 hw).Reachable s)
  (apart : hardwareApart sha256 hw key s a = true)
  (hs : (hardwareTaskSystem sha256 hw).step s a = some t)
include reach hs

theorem enables_step {id : TaskId} (h : id ∈ s.created) : t.enables id = s.enables id := by
  have keeps := step_keepsTask (hardwareTaskSystem_step hs).1
    (allocated_of_isTaskFor ((mem_created_iff reach).mp h))
  simp only [HardwareTasks.enables, keeps.typeOf]

/-- One register under a step: `writes` are the sections that write to it, `before` tells
the tasks that have not. -/
theorem settles_step (before writes : Pc → Prop) (current : Sys → Bool)
    (h : Settles s.enables s.created (fun w => before (s.sys.pc (.task w))) (current s.sys))
    (idle : before .idle)
    (inTurn : ∀ id ch, a = .run (.task id) ch → s.sys.sh.isTaskFor hw id = true →
      writes (s.sys.pc (.task id)) →
        InTurn s.enables s.created (fun w => before (s.sys.pc (.task w))) id)
    (write : ∀ id ch, a = .run (.task id) ch → s.sys.sh.isTaskFor hw id = true →
      writes (s.sys.pc (.task id)) →
        current t.sys = s.enables id ∧ ¬ before (t.sys.pc (.task id)))
    (kept : (∀ id ch, a = .run (.task id) ch → s.sys.sh.isTaskFor hw id = true →
      ¬ writes (s.sys.pc (.task id))) → current t.sys = current s.sys)
    (still : ∀ id, s.sys.sh.isTaskFor hw id = true → before (s.sys.pc (.task id)) →
      (∀ ch, a = .run (.task id) ch → ¬ writes (s.sys.pc (.task id))) →
        before (t.sys.pc (.task id))) :
    Settles t.enables t.created (fun w => before (t.sys.pc (.task w))) (current t.sys) := by
  obtain ⟨hsys, hcreated⟩ := hardwareTaskSystem_step hs
  have life := lifecycle (reachable_sys reach)
  rw [hcreated]
  refine Settles.create ?_ (fun w hw => ?_)
  case refine_2 =>
    rw [idle_of_madeFor life hsys hw]
    exact idle
  by_cases hwrite : ∃ id ch, a = .run (.task id) ch ∧ s.sys.sh.isTaskFor hw id = true ∧
      writes (s.sys.pc (.task id))
  · obtain ⟨id, ch, rfl, hfor, hwrites⟩ := hwrite
    obtain ⟨hvalue, hdone⟩ := write id ch rfl hfor hwrites
    have others : ∀ w ∈ s.created, w ≠ id →
        (before (t.sys.pc (.task w)) ↔ before (s.sys.pc (.task w))) := by
      intro w _ hne
      obtain ⟨sh', c', -, heq⟩ := step_run hsys
      rw [heq, Sys.pc_setPc, if_neg (fun h => hne (ProcId.task.inj h))]
      exact Iff.rfl
    have written : Settles s.enables s.created (fun w => before (t.sys.pc (.task w)))
        (s.enables id) ↔ InTurn s.enables s.created (fun w => before (s.sys.pc (.task w))) id :=
      Settles.write_iff hdone others
    rw [hvalue]
    exact (written.mpr (inTurn id ch rfl hfor hwrites)).keep
      (fun w hw => enables_step reach hs hw) (fun _ _ h => h)
  · have quiet : ∀ id ch, a = .run (.task id) ch → s.sys.sh.isTaskFor hw id = true →
        ¬ writes (s.sys.pc (.task id)) :=
      fun id ch heq hfor hwrites => hwrite ⟨id, ch, heq, hfor, hwrites⟩
    rw [kept quiet]
    refine h.keep (fun w hw => enables_step reach hs hw) (fun w hw hbefore => ?_)
    have hfor := (mem_created_iff reach).mp hw
    exact still w hfor hbefore (fun ch heq => quiet w ch heq hfor)

include apart

theorem settling_step (h : s.Settling hw key) (order : s.keepsOrder hw a) :
    t.Settling hw key := by
  have hsys := (hardwareTaskSystem_step hs).1
  have life := lifecycle (reachable_sys reach)
  have fam := family (reachable_sys reach)
  constructor
  case component =>
    apply settles_step reach hs Pc.beforeCall Pc.calls
      (fun sys => decide (hw ∈ sys.sh.enabledHardware)) h.component (.inl rfl)
    case inTurn =>
      rintro id ch rfl hfor hcalls
      exact (order hfor).1 hcalls
    case write =>
      rintro id ch rfl hfor hcalls
      obtain ⟨hvalue, hnotes⟩ := run_calls fam apart hsys hfor hcalls
      refine ⟨hvalue, fun hbefore => ?_⟩
      obtain hidle | hcall := hbefore
      · rw [hidle] at hnotes
        obtain h | h := hnotes <;> cases h
      · obtain h | h := hcall <;> rw [h] at hnotes <;> obtain h | h := hnotes <;> cases h
    case kept => exact fun quiet => decide_eq_decide.mpr (component_kept fam hsys quiet)
    case still => exact fun id hfor => beforeCall_step life hsys hfor
  case board =>
    apply settles_step reach hs Pc.beforeNote Pc.notes
      (fun sys => sys.sh.isEnabledDevice key) h.board (.inl (.inl rfl))
    case inTurn =>
      rintro id ch rfl hfor hnotes
      exact (order hfor).2 hnotes
    case write =>
      rintro id ch rfl hfor hnotes
      exact run_notes fam apart hsys hfor hnotes
    case kept => exact fun quiet => board_kept fam apart hsys quiet
    case still => exact fun id hfor => beforeNote_step life fam apart hsys hfor

end Step

/-- Once the tasks of the hardware have finished, the component and the board agree with
the one created last. -/
theorem lastTask_wins {acts : List Act} {last : TaskId}
    (run : (hardwareTaskSystem sha256 hw).Run
      (fun s a => hardwareApart sha256 hw key s a = true ∧ s.keepsOrder hw a) acts s)
    (hlast : s.created.head? = some last)
    (finished : ∀ id ∈ s.created, ∃ ret, s.sys.pc (.task id) = .returned ret) :
    (hw ∈ s.sys.sh.enabledHardware ↔ s.sys.sh.typeOf last = some .enable) ∧
      (s.sys.sh.isEnabledDevice key = true ↔ s.sys.sh.typeOf last = some .enable) := by
  have settling : s.Settling hw key := by
    refine run.invariant (I := fun _ s => s.Settling hw key) ?_ ?_
    · rintro _ rfl
      exact ⟨.nil, .nil⟩
    · exact fun _ s a t reach h ok hs => settling_step reach ok.1 hs h ok.2
  have called : ∀ id ∈ s.created, ¬ (s.sys.pc (.task id)).beforeCall := by
    intro id hid hbefore
    obtain ⟨ret, hret⟩ := finished id hid
    rw [hret] at hbefore
    obtain h | h | h := hbefore <;> cases h
  have noted : ∀ id ∈ s.created, ¬ (s.sys.pc (.task id)).beforeNote := by
    intro id hid hbefore
    obtain h | h := hbefore
    · exact called id hid h
    · obtain ⟨ret, hret⟩ := finished id hid
      rw [hret] at h
      obtain h | h := h <;> cases h
  have component := settling.component.settled hlast called
  have board := settling.board.settled hlast noted
  exact ⟨decide_eq_decide.mp component, by rw [board, HardwareTasks.enables, decide_eq_true_eq]⟩

private def hardwareA : TaskParam := { deviceA with dhId := "d1" }

private def keyA : String := enabledKey sampleSha256 hardwareA

/-- A call makes a task and the executor hands it to its runner. -/
private def submit (id : TaskId) (kind : ClientTask) : List Act :=
  .call id (.createTask kind hardwareA) :: runs (.call id) 3 { newId := id } ++ dispatch ++
    [.startSubmitted id]

/-- An ENABLE task and then a DISABLE task run one after the other. -/
theorem exists_lastTask_wins : ∃ s : HardwareTasks, s.created = [2, 1] ∧
    (("nA", "d1") ∈ s.sys.sh.enabledHardware ↔ s.sys.sh.typeOf 2 = some .enable) ∧
      (s.sys.sh.isEnabledDevice keyA = true ↔ s.sys.sh.typeOf 2 = some .enable) := by
  have done : ∃ s ∈ (hardwareTaskSystem sampleSha256 ("nA", "d1")).replay
      (fun s a => hardwareApart sampleSha256 ("nA", "d1") keyA s a = true ∧
        s.keepsOrder ("nA", "d1") a) {}
      (submit 1 .enable ++ runs (.task 1) 3 {} ++ submit 2 .disable ++ runs (.task 2) 4 {}),
      s.created = [2, 1] ∧ s.sys.pc (.task 1) = .returned dhFwkSuccess ∧
        s.sys.pc (.task 2) = .returned dhFwkSuccess := by
    decide +kernel
  obtain ⟨s, hs, hcreated, hfirst, hsecond⟩ := done
  refine ⟨s, hcreated, lastTask_wins (TransitionSystem.run_of_replay rfl hs) ?_ ?_⟩
  · rw [hcreated]
    rfl
  · rw [hcreated]
    intro id hid
    obtain rfl | hid := List.mem_cons.mp hid
    · exact ⟨_, hsecond⟩
    · rw [List.mem_singleton.mp hid]
      exact ⟨_, hfirst⟩

/-- The DISABLE task created last overtakes the ENABLE task: the hardware ends enabled,
with an entry. -/
theorem exists_lastTask_overtakes : ∃ acts s,
    (hardwareTaskSystem sampleSha256 ("nA", "d1")).Run
      (fun s a => hardwareApart sampleSha256 ("nA", "d1") keyA s a = true) acts s ∧
    s.created = [2, 1] ∧ s.sys.sh.typeOf 2 = some .disable ∧
    (∀ id ∈ s.created, ∃ ret, s.sys.pc (.task id) = .returned ret) ∧
    ("nA", "d1") ∈ s.sys.sh.enabledHardware ∧ s.sys.sh.isEnabledDevice keyA = true := by
  have overtaken : ∃ s ∈ (hardwareTaskSystem sampleSha256 ("nA", "d1")).replay
      (fun s a => hardwareApart sampleSha256 ("nA", "d1") keyA s a = true) {}
      (submit 1 .enable ++ submit 2 .disable ++ runs (.task 2) 4 {} ++ runs (.task 1) 3 {}),
      s.created = [2, 1] ∧ s.sys.sh.typeOf 2 = some .disable ∧
        s.sys.pc (.task 1) = .returned dhFwkSuccess ∧
        s.sys.pc (.task 2) = .returned dhFwkSuccess ∧
        ("nA", "d1") ∈ s.sys.sh.enabledHardware ∧ s.sys.sh.isEnabledDevice keyA = true := by
    decide +kernel
  obtain ⟨s, hs, hcreated, hkind, hfirst, hsecond, henabled, hentry⟩ := overtaken
  refine ⟨_, s, TransitionSystem.run_of_replay rfl hs, hcreated, hkind, ?_, henabled, hentry⟩
  rw [hcreated]
  intro id hid
  obtain rfl | hid := List.mem_cons.mp hid
  · exact ⟨_, hsecond⟩
  · rw [List.mem_singleton.mp hid]
    exact ⟨_, hfirst⟩

end Runs
end DistributedHardware
