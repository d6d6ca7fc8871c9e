import DistributedHardware.Task.OfflineBarrier

/-!
Which hardware an `OffLineTask` disables.

The task reads one list of hardware, from the capability cache or, where that has
no record of the device, from the meta cache, and creates one `DisableTask` for
each entry. Hardware that was enabled from another source and is in neither list
keeps running after the device has gone.
-/

namespace DistributedHardware
variable {sha256 : String → String}

/-- An `OffLineTask` that has not read its list yet. -/
def TaskPoint.unread : TaskPoint → Bool
  | .createMetaDisable | .offLineReadCaps | .offLineUdidHash | .offLineReadMeta _ => true
  | _ => false

/-- The entries an `OffLineTask` has still to create a `DisableTask` for. -/
def TaskPoint.remaining : TaskPoint → Option (List (String × DhType))
  | .createDisable infos => some infos
  | .waitDisable | .removeOnlineEntry | .clearOffLineInfo | .offLineRemoveTask
  | .realTimeCount | .isomerismCount | .allTaskFinish | .release | .storeIsInit
  | .storeFlagUnInit | .checkExitSa | .managerInitialize | .storeIsInitAgain => some []
  | _ => none

namespace Pc

def unread (c : Pc) : Bool := c.point.any TaskPoint.unread

def remaining : Pc → Option (List (String × DhType))
  | .returned _ => some []
  | c => c.point.bind TaskPoint.remaining

end Pc

/-- What the reads of the reachable states rely on: the parameters of the tasks, and
the children of an `OffLineTask` up to its own read. -/
structure Disabling (s : Sys) : Prop where
  offLine : ∀ f, s.sh.typeOf f = some .offLine →
    ∃ event, s.sh.paramOf f = some (eventParam event)
  metaDisable : ∀ c, s.sh.typeOf c = some .metaDisable →
    ∃ param, s.sh.paramOf c = some param ∧ param.dhId = ""
  unread : ∀ f c, (s.pc (.task f)).unread = true → s.sh.fatherOf c = some f →
    s.sh.typeOf c ≠ some .disable
  enabled : ∀ n, (n, "") ∉ s.sh.enabledHardware

/-- An `OffLineTask` reads in the order of its sections. -/
theorem taskBody_unread {sh sh' : Shared} {ch : Choice} {id : TaskId} {param : TaskParam}
    {pt : TaskPoint} {c' : Pc} (h : taskBody sha256 id param sh ch pt = some (sh', c'))
    (hu : c'.unread = true) : pt.unread = true := by
  cases pt with
  | createMetaDisable | offLineReadCaps | offLineUdidHash | offLineReadMeta _ => rfl
  | registerHardware | unRegisterHardware | waitDisable =>
      simp only [taskBody] at h
      split at h <;> obtain ⟨-, rfl⟩ := h <;> cases hu
  | onLineReadCaps | onLineReadLocal | realTimeCount | isomerismCount | allTaskFinish
  | checkExitSa =>
      obtain ⟨-, rfl⟩ := h
      split at hu <;> cases hu
  | createEnable infos | createDisable infos =>
      cases infos with
      | nil =>
          obtain ⟨-, rfl⟩ := h
          cases hu
      | cons info infos =>
          obtain ⟨-, rfl⟩ := createThen_eq_some h
          cases hu
  | createMetaEnable =>
      obtain ⟨-, rfl⟩ := createThen_eq_some h
      cases hu
  | _ =>
      obtain ⟨-, rfl⟩ := h
      cases hu

theorem unread_step {s t : Sys} {a : Act} {f : TaskId} (life : Lifecycle s)
    (hs : step sha256 s a = some t) (h : (t.pc (.task f)).unread = true) :
    s.pc (.task f) = .idle ∨ (s.pc (.task f)).unread = true := by
  cases thread_step life hs (.task f) with
  | stays hpc => exact .inr (hpc ▸ h)
  | called hq => cases hq
  | started _ hidle => exact .inl hidle
  | @runs ch sh' c' he ht =>
      subst ht
      rw [Sys.pc_setPc_self] at h
      cases hpc : s.pc (.task f) with
      | body pt =>
          rw [hpc] at he
          obtain ⟨param, -, he⟩ := exec_body he
          exact .inr (taskBody_unread he h)
      | addChildrenTask id next | addTask id next =>
          rw [hpc] at he
          obtain ⟨-, rfl⟩ := he
          exact .inr (by cases next <;> exact h)
      | pushTask id next =>
          rw [hpc] at he
          obtain ⟨-, rfl⟩ := he
          exact .inr (by cases next <;> exact h)
      | _ => rw [hpc] at he; cases he

/-- Past its read an `OffLineTask` goes through its list, one `DisableTask` an entry. -/
theorem taskBody_remaining {sh sh' : Shared} {ch : Choice} {id : TaskId} {param : TaskParam}
    {pt : TaskPoint} {c' : Pc} {rest : List (String × DhType)}
    (h : taskBody sha256 id param sh ch pt = some (sh', c')) (hr : pt.remaining = some rest) :
    c'.remaining = some rest ∨ ∃ info infos c, rest = info :: infos ∧
      pt = .createDisable rest ∧ c'.remaining = some infos ∧
      ¬ sh.allocated c ∧ sh'.allocated c := by
  cases pt with
  | createDisable infos =>
      obtain rfl : infos = rest := Option.some.inj hr
      cases infos with
      | nil =>
          obtain ⟨-, rfl⟩ := h
          exact .inl rfl
      | cons info infos =>
          obtain ⟨hnew, rfl⟩ := createThen_eq_some h
          exact .inr ⟨info, infos, ch.newId, rfl, rfl, rfl, (Shared.newTask_eq_some hnew).1,
            (Shared.allocated_newTask hnew _).mpr (.inl rfl)⟩
  | waitDisable =>
      simp only [taskBody] at h
      split at h
      · obtain ⟨-, rfl⟩ := h
        exact .inl hr
      · cases h
  | realTimeCount | isomerismCount | allTaskFinish | checkExitSa =>
      obtain ⟨-, rfl⟩ := h
      split <;> exact .inl hr
  | removeOnlineEntry | clearOffLineInfo | offLineRemoveTask | release | storeIsInit
  | storeFlagUnInit | managerInitialize | storeIsInitAgain =>
      obtain ⟨-, rfl⟩ := h
      exact .inl hr
  | _ => cases hr

theorem remaining_step {s t : Sys} {a : Act} {f : TaskId} {rest : List (String × DhType)}
    (life : Lifecycle s) (hs : step sha256 s a = some t)
    (hr : (s.pc (.task f)).remaining = some rest) :
    (t.pc (.task f)).remaining = some rest ∨ ∃ info infos c ch, rest = info :: infos ∧
      a = .run (.task f) ch ∧ s.pc (.task f) = .body (.createDisable rest) ∧
      (t.pc (.task f)).remaining = some infos ∧ ¬ s.sh.allocated c ∧ t.sh.allocated c := by
  cases thread_step life hs (.task f) with
  | stays hpc => exact .inl (hpc ▸ hr)
  | called hq => cases hq
  | started _ hidle => rw [hidle] at hr; cases hr
  | @runs ch sh' c' he ht =>
      subst ht
      rw [Sys.pc_setPc_self]
      cases hpc : s.pc (.task f) with
      | body pt =>
          rw [hpc] at he hr
          obtain ⟨param, -, he⟩ := exec_body he
          obtain h | ⟨info, infos, c, hrest, rfl, h, hfresh, ha⟩ := taskBody_remaining he hr
          · exact .inl h
          · exact .inr ⟨info, infos, c, ch, hrest, rfl, rfl, h, hfresh, ha⟩
      | addChildrenTask id next | addTask id next =>
          rw [hpc] at he hr
          obtain ⟨-, rfl⟩ := he
          exact .inl (by cases next <;> exact hr)
      | pushTask id next =>
          rw [hpc] at he hr
          obtain ⟨-, rfl⟩ := he
          refine .inl ?_
          cases next with
          | returned ret => cases hr
          | body pt => exact hr
      | returned ret => rw [hpc] at he; cases he
      | _ => rw [hpc] at hr; cases hr

/-- Hardware is enabled by an `EnableTask` whose component call succeeds. -/
theorem enabledHardware_step {s t : Sys} {a : Act} (hs : step sha256 s a = some t)
    {n dhId : String} (h : (n, dhId) ∈ t.sh.enabledHardware) :
    (n, dhId) ∈ s.sh.enabledHardware ∨ ∃ id ch param, a = .run (.task id) ch ∧
      s.pc (.task id) = .body .registerHardware ∧ s.sh.paramOf id = some param ∧
      componentSucceeds ch param = true ∧ (n, dhId) = (param.networkId, param.dhId) := by
  by_cases hrun : ∃ p ch, a = .run p ch
  · obtain ⟨p, ch, rfl⟩ := hrun
    obtain ⟨sh', c', he, rfl⟩ := step_run hs
    rw [Sys.sh_setPc] at h
    generalize hc : s.pc p = c at he
    cases exec_devices he with
    | same same => exact .inl (same.enabledHardware ▸ h)
    | @registerHardware id param hparam hsucc =>
        obtain heq | hmem := Finset.mem_insert.mp h
        · exact .inr ⟨id, ch, param, rfl, hc, hparam, hsucc, heq⟩
        · exact .inl hmem
    | unRegisterHardware => exact .inl (Finset.mem_of_mem_erase h)
    | addOnlineDevice | addRealTime | deleteRealTime | storeFlagUnInit | clearFlagUnInit
    | removeOnlineEntry => exact .inl h
  · push Not at hrun
    exact .inl ((step_devices hs hrun).enabledHardware ▸ h)

theorem Disabling.step {s t : Sys} {a : Act} (h : Disabling s) (life : Lifecycle s)
    (fam : Family s) (hs : step sha256 s a = some t) : Disabling t := by
  constructor
  case offLine =>
    intro f hk
    by_cases ha : s.sh.allocated f
    · have keeps := step_keepsTask hs ha
      rw [keeps.paramOf]
      exact h.offLine f (keeps.typeOf ▸ hk)
    · cases step_creates hs ha (Shared.allocated_of_typeOf hk) with
      | byCall hk' hparam _ _ hoff =>
          rw [hk] at hk'
          cases hk'
          obtain ⟨event, -, rfl⟩ := hoff rfl
          exact ⟨event, hparam⟩
      | byTask hk' _ _ _ child =>
          rw [hk] at hk'
          cases hk'
          exact absurd rfl child.spec.2.1
  case metaDisable =>
    intro c hk
    by_cases ha : s.sh.allocated c
    · have keeps := step_keepsTask hs ha
      rw [keeps.paramOf]
      exact h.metaDisable c (keeps.typeOf ▸ hk)
    · cases step_creates hs ha (Shared.allocated_of_typeOf hk) with
      | byCall hk' _ _ hmeta =>
          rw [hk] at hk'
          cases hk'
          exact absurd rfl hmeta
      | byTask hk' hparam _ hpc child =>
          rw [hk] at hk'
          cases hk'
          cases child with
          | enabling _ _ _ _ hkind => simp at hkind
          | metaDisable hfather =>
              obtain ⟨kind, hmem, hkf⟩ := fam.kind_of_body hpc
              obtain rfl : kind = .offLine := by simpa [TaskPoint.kinds] using hmem
              obtain ⟨event, hevent⟩ := h.offLine _ hkf
              rw [hfather] at hevent
              cases hevent
              exact ⟨_, hparam, rfl⟩
  case unread =>
    intro f c hu hf hk
    obtain hidle | hu := unread_step life hs hu
    · obtain hf | ⟨-, hnew⟩ := step_fatherOf hs hf
      · exact (fam.father c f hf).1 hidle
      · cases hnew with
        | byCall _ _ hf' => rw [hf] at hf'; cases hf'
        | byTask _ _ hf' hpc =>
            rw [hf] at hf'
            cases hf'
            rw [hidle] at hpc
            cases hpc
    · obtain hf' | ⟨-, hnew⟩ := step_fatherOf hs hf
      · have keeps := step_keepsTask hs (Shared.allocated_of_fatherOf hf')
        exact h.unread f c hu hf' (keeps.typeOf ▸ hk)
      · cases hnew with
        | byCall _ _ hf' => rw [hf] at hf'; cases hf'
        | byTask hk' _ hf' hpc child =>
            rw [hf] at hf'
            rw [hk] at hk'
            cases hf'
            cases hk'
            rw [hpc] at hu
            cases child with
            | enabling _ _ _ _ hkind => simp at hkind
            | disable => cases hu
  case enabled =>
    intro n hmem
    obtain hmem | ⟨id, ch, param, -, -, -, hsucc, heq⟩ := enabledHardware_step hs hmem
    · exact h.enabled n hmem
    · obtain ⟨-, hdhId⟩ := Prod.mk.inj heq
      rw [componentSucceeds, ← hdhId, Bool.and_eq_true] at hsucc
      exact ne_empty_of_isIdLengthValid hsucc.2 rfl

theorem disabling_init : Disabling {} := by
  constructor
  case offLine => exact fun f hk => nomatch hk
  case metaDisable => exact fun c hk => nomatch hk
  case unread => exact fun f c hu => nomatch hu
  case enabled => exact fun n hmem => absurd hmem (Finset.notMem_empty _)

theorem disabling {s : Sys} (h : (taskSystem sha256).Reachable s) : Disabling s :=
  h.invariant_of (fun _ hi => hi ▸ disabling_init)
    (fun _ _ _ hr hi hs => hi.step (lifecycle hr) (family hr) hs)

/-- The parameters of the `DisableTask` for one entry. -/
def disableParam (param : TaskParam) (info : String × DhType) : TaskParam :=
  { param with udid := "", dhId := info.1, dhType := info.2 }

/-- The `DisableTask`s of an `OffLineTask`, with the entries of its list they are for. -/
structure Covers (f : TaskId) (param : TaskParam) (infos : List (String × DhType)) (s : Sys) :
    Prop where
  kind : s.sh.typeOf f = some .offLine
  own : s.sh.paramOf f = some param
  progress : ∃ made rest, infos = made ++ rest ∧ (s.pc (.task f)).remaining = some rest ∧
    (∀ c, s.sh.fatherOf c = some f → s.sh.typeOf c = some .disable →
      ∃ info ∈ made, s.sh.paramOf c = some (disableParam param info)) ∧
    ∀ info ∈ made, ∃ c, s.sh.fatherOf c = some f ∧ s.sh.typeOf c = some .disable ∧
      s.sh.paramOf c = some (disableParam param info)

theorem Covers.step {s t : Sys} {a : Act} {f : TaskId} {param : TaskParam}
    {infos : List (String × DhType)} (h : Covers f param infos s) (life : Lifecycle s)
    (hs : step sha256 s a = some t) : Covers f param infos t := by
  have keeps := step_keepsTask hs (Shared.allocated_of_paramOf h.own)
  obtain ⟨made, rest, rfl, hrest, sound, complete⟩ := h.progress
  refine ⟨keeps.typeOf.trans h.kind, keeps.paramOf.trans h.own, ?_⟩
  have complete' : ∀ info ∈ made, ∃ c, t.sh.fatherOf c = some f ∧
      t.sh.typeOf c = some .disable ∧ t.sh.paramOf c = some (disableParam param info) := by
    intro info hmem
    obtain ⟨c, hf, hk, hp⟩ := complete info hmem
    have keeps := step_keepsTask hs (Shared.allocated_of_fatherOf hf)
    exact ⟨c, keeps.fatherOf.trans hf, keeps.typeOf.trans hk, keeps.paramOf.trans hp⟩
  have old : ∀ c, s.sh.fatherOf c = some f → t.sh.typeOf c = some .disable →
      ∃ info ∈ made, t.sh.paramOf c = some (disableParam param info) := by
    intro c hf hk
    have keeps := step_keepsTask hs (Shared.allocated_of_fatherOf hf)
    rw [keeps.paramOf]
    exact sound c hf (keeps.typeOf ▸ hk)
  -- a new `DisableTask` is for the head of the list, which it takes off
  have new : ∀ c, t.sh.fatherOf c = some f → t.sh.typeOf c = some .disable → Creates s t c a →
      ∃ info infos, rest = info :: infos ∧ (t.pc (.task f)).remaining = some infos ∧
        t.sh.paramOf c = some (disableParam param info) := by
    intro c hf hk hnew
    cases hnew with
    | byCall _ _ hf' => rw [hf] at hf'; cases hf'
    | byTask hk' hp hf' hpc child hpc' =>
        rw [hf] at hf'
        rw [hk] at hk'
        cases hf'
        cases hk'
        cases child with
        | enabling _ _ _ _ hkind => simp at hkind
        | @disable fp info infos hfp =>
            rw [h.own] at hfp
            cases hfp
            rw [hpc] at hrest
            exact ⟨info, infos, (Option.some.inj hrest).symm, by rw [hpc']; rfl, hp⟩
  obtain hrest' | ⟨info, infos, c, ch, rfl, rfl, hpc, hrest', hfresh, ha⟩ :=
    remaining_step life hs hrest
  · refine ⟨made, rest, rfl, hrest', fun c hf hk => ?_, complete'⟩
    obtain hf' | ⟨-, hnew⟩ := step_fatherOf hs hf
    · exact old c hf' hk
    · obtain ⟨info, infos, rfl, hr, -⟩ := new c hf hk hnew
      rw [hrest'] at hr
      simp at hr
  · refine ⟨made ++ [info], infos, by simp, hrest', fun c hf hk => ?_, fun i hi => ?_⟩
    · obtain hf' | ⟨-, hnew⟩ := step_fatherOf hs hf
      · obtain ⟨i, hi, hp⟩ := old c hf' hk
        exact ⟨i, List.mem_append_left _ hi, hp⟩
      · obtain ⟨i, is, heq, -, hp⟩ := new c hf hk hnew
        obtain ⟨rfl, rfl⟩ := List.cons.inj heq
        exact ⟨info, by simp, hp⟩
    · obtain hi | hi := List.mem_append.mp hi
      · exact complete' i hi
      · obtain rfl := List.mem_singleton.mp hi
        cases step_creates hs hfresh ha with
        | byTask hk hp hf hpc' child =>
            rw [hpc] at hpc'
            cases hpc'
            cases child with
            | enabling hkinds => simp [TaskPoint.kinds] at hkinds
            | disable hfp =>
                rw [h.own] at hfp
                cases hfp
                exact ⟨c, hf, hk, hp⟩

/-- The section in which an `OffLineTask` with these parameters reads its list: the
capability cache where that knows the device, else the meta cache. -/
def ReadsList (sha256 : String → String) (s : Sys) (f : TaskId) (param : TaskParam)
    (infos : List (String × DhType)) : Prop :=
  (s.pc (.task f) = .body .offLineReadCaps ∧ infos ≠ [] ∧
    infos = devDhInfosOf (getCapabilitiesByDeviceId s.sh.globalCapInfoMap
      (getDeviceIdByUuid sha256 param.uuid) [])) ∨
  ∃ udidHash, s.pc (.task f) = .body (.offLineReadMeta udidHash) ∧
    infos = devDhInfosOf ((getMetaCapInfosByUdidHash s.sh.globalMetaInfoMap udidHash []).map
      MetaCapabilityInfo.toCapabilityInfo)

/-- A child of an `OffLineTask` that disables one hardware. -/
def HasDisablingChild (s : Sys) (f : TaskId) (networkId dhId : String) : Prop :=
  ∃ c param, s.sh.fatherOf c = some f ∧
    (s.sh.typeOf c = some .disable ∨ s.sh.typeOf c = some .metaDisable) ∧
    s.sh.paramOf c = some param ∧ param.networkId = networkId ∧ param.dhId = dhId

/-- A step in which no `EnableTask` of the device succeeds and no `DisableTask` of the
`OffLineTask` fails. -/
def quietFor (networkId : String) (f : TaskId) (s : Sys) : Act → Bool
  | .run (.task id) ch =>
      match s.pc (.task id), s.sh.paramOf id with
      | .body .registerHardware, some param =>
          !(param.networkId = networkId && componentSucceeds ch param)
      | .body .unRegisterHardware, some param =>
          s.sh.fatherOf id != some f || componentSucceeds ch param
      | _, _ => true
  | _ => true

theorem covers_of_reads {s r : Sys} {f : TaskId} {param : TaskParam}
    {infos : List (String × DhType)} {ch : Choice} (h : (taskSystem sha256).Reachable s)
    (hk : s.sh.typeOf f = some .offLine) (hp : s.sh.paramOf f = some param)
    (reads : ReadsList sha256 s f param infos)
    (hs : step sha256 s (.run (.task f) ch) = some r) :
    Covers f param infos r ∧ r.sh = s.sh ∧
      ∀ c, s.sh.fatherOf c = some f → s.sh.typeOf c ≠ some .disable := by
  have hr : r = s.setPc (.task f) (.body (.createDisable infos)) := by
    obtain ⟨sh', c', he, rfl⟩ := step_run hs
    obtain ⟨o, ho, rfl⟩ := Option.map_eq_some_iff.mp hp
    obtain ⟨hpc, hne, hinfos⟩ | ⟨udidHash, hpc, hinfos⟩ := reads
    · simp only [hpc, exec, ho, Option.bind_some, taskBody, ← hinfos, if_neg hne,
        Option.some.injEq, Prod.mk.injEq] at he
      obtain ⟨rfl, rfl⟩ := he
      rfl
    · simp only [hpc, exec, ho, Option.bind_some, taskBody, ← hinfos, Option.some.injEq,
        Prod.mk.injEq] at he
      obtain ⟨rfl, rfl⟩ := he
      rfl
  have hu : (s.pc (.task f)).unread = true := by
    obtain ⟨hpc, -⟩ | ⟨udidHash, hpc, -⟩ := reads <;> rw [hpc] <;> rfl
  have none_yet := fun c hf => (disabling h).unread f c hu hf
  subst hr
  refine ⟨⟨hk, hp, [], infos, rfl, by rw [Sys.pc_setPc_self]; rfl, ?_, by simp⟩, rfl, none_yet⟩
  exact fun c hf hkc => absurd hkc (none_yet c hf)

/-- No `EnableTask` of the device succeeds, so nothing of it is enabled anew. -/
theorem quietFor_enabledHardware {s t : Sys} {a : Act} {n dhId : String} {f : TaskId}
    (hs : step sha256 s a = some t) (quiet : quietFor n f s a = true)
    (h : (n, dhId) ∈ t.sh.enabledHardware) : (n, dhId) ∈ s.sh.enabledHardware := by
  obtain h | ⟨id, ch, param, rfl, hpc, hp, hsucc, heq⟩ := enabledHardware_step hs h
  · exact h
  · cases heq
    simp [quietFor, hpc, hp, hsucc] at quiet

/-- A `DisableTask` past its component call. -/
def Pc.unregistered : Pc → Bool
  | .body .removeEnabledDevice | .body .notifyFather | .body .removeTask | .returned _ => true
  | _ => false

/-- What the `DisableTask`s of an `OffLineTask` have disabled stays disabled. -/
def Unregistered (n : String) (f : TaskId) (s : Sys) : Prop :=
  ∀ c param, s.sh.fatherOf c = some f → s.sh.typeOf c = some .disable →
    s.sh.paramOf c = some param → param.networkId = n →
    (s.pc (.task c)).unregistered = true → (n, param.dhId) ∉ s.sh.enabledHardware

theorem Unregistered.step {s t : Sys} {a : Act} {n : String} {f : TaskId}
    (h : Unregistered n f s) (life : Lifecycle s) (fam : Family s)
    (quiet : quietFor n f s a = true) (hs : step sha256 s a = some t) : Unregistered n f t := by
  intro c param hf hk hp hn hpast hmem
  have hmem' := quietFor_enabledHardware hs quiet hmem
  -- a child that was past its call before the step has nothing left to prove
  have before : s.sh.allocated c → (s.pc (.task c)).unregistered = true → False := by
    intro ha hpast'
    have keeps := step_keepsTask hs ha
    exact h c param (keeps.fatherOf ▸ hf) (keeps.typeOf ▸ hk) (keeps.paramOf ▸ hp) hn hpast' hmem'
  cases thread_step life hs (.task c) with
  | stays hpc =>
      rw [hpc] at hpast
      refine before (life.started c fun hidle => ?_) hpast
      rw [hidle] at hpast
      cases hpast
  | called hq => cases hq
  | @started _ id kind hq _ hpc hkind =>
      cases hq
      rw [(step_keepsTask hs (Shared.allocated_of_typeOf hkind)).typeOf, hkind] at hk
      cases hk
      rw [hpc] at hpast
      cases hpast
  | @runs ch sh' c' he ht =>
      have ha : s.sh.allocated c := life.started c fun hidle => by rw [hidle] at he; cases he
      have keeps := step_keepsTask hs ha
      rw [keeps.fatherOf] at hf
      rw [keeps.typeOf] at hk
      rw [keeps.paramOf] at hp
      cases hpc : s.pc (.task c) with
      | idle | returned _ | sendOnLine _ _ | sendOffLine _ _ | createTask _ _ =>
          rw [hpc] at he
          cases he
      | addChildrenTask _ next | addTask _ next | pushTask _ next =>
          obtain ⟨kind, hkind, hfits⟩ := fam.fits c (by simp [hpc])
          rw [hk] at hkind
          cases hkind
          simp [hpc, Pc.Fits] at hfits
      | body pt =>
          have hpt := fam.kind_mem hpc hk
          cases pt with
          | unRegisterHardware =>
              have hsucc : componentSucceeds ch param = true := by
                simpa [quietFor, hpc, hp, hf] using quiet
              obtain ⟨o, ho, rfl⟩ := Option.map_eq_some_iff.mp hp
              simp only [hpc, exec, ho, Option.bind_some, taskBody, hsucc, if_true,
                Option.some.injEq, Prod.mk.injEq] at he
              obtain ⟨rfl, rfl⟩ := he
              subst ht hn
              simp at hmem
          | removeEnabledDevice | notifyFather | removeTask => exact before ha (by rw [hpc]; rfl)
          | _ => simp [TaskPoint.kinds] at hpt

theorem offLineTask_disables_iff {s r t : Sys} {f : TaskId} {param : TaskParam}
    {infos : List (String × DhType)} {ch : Choice} {acts : List Act}
    (h : (taskSystem sha256).Reachable s) (hk : s.sh.typeOf f = some .offLine)
    (hp : s.sh.paramOf f = some param) (reads : ReadsList sha256 s f param infos)
    (hs : step sha256 s (.run (.task f) ch) = some r)
    (path : (taskSystem sha256).Path (fun _ _ => True) r acts t)
    (past : (t.pc (.task f)).remaining = some []) :
    ((∀ dhId, (param.networkId, dhId) ∈ s.sh.enabledHardware →
        HasDisablingChild t f param.networkId dhId) ↔
      ∀ dhId, (param.networkId, dhId) ∈ s.sh.enabledHardware → dhId ∈ infos.map Prod.fst) ∧
    ((∀ dhId, (param.networkId, dhId) ∈ s.sh.enabledHardware → dhId ∈ infos.map Prod.fst) →
      (taskSystem sha256).Path (fun s a => quietFor param.networkId f s a = true) r acts t →
      1 ≤ (t.pc (.task f)).stage → ∀ dhId, (param.networkId, dhId) ∉ t.sh.enabledHardware) := by
  obtain ⟨covers, hsh, none_yet⟩ := covers_of_reads h hk hp reads hs
  have reach := reachable_step h hs
  have reach' := path.reachable reach
  have final : Covers f param infos t :=
    path.invariant (fun _ _ _ hx hc _ hs => hc.step (lifecycle hx) hs) reach covers
  obtain ⟨made, rest, hinfos, hrest, sound, complete⟩ := final.progress
  obtain rfl : rest = [] := Option.some.inj (hrest.symm.trans past)
  obtain rfl : infos = made := by simpa using hinfos
  refine ⟨⟨fun cover dhId hmem => ?_, fun listed dhId hmem => ?_⟩, fun listed quiet hstage => ?_⟩
  · obtain ⟨c, cparam, hf, hkind | hkind, hcp, -, rfl⟩ := cover dhId hmem
    · obtain ⟨info, hinfo, hcp'⟩ := sound c hf hkind
      rw [hcp] at hcp'
      cases hcp'
      exact List.mem_map_of_mem hinfo
    · obtain ⟨cparam', hcp', hempty⟩ := (disabling reach').metaDisable c hkind
      rw [hcp] at hcp'
      cases hcp'
      rw [hempty] at hmem
      exact absurd hmem ((disabling h).enabled _)
  · obtain ⟨info, hinfo, rfl⟩ := List.mem_map.mp (listed dhId hmem)
    obtain ⟨c, hf, hkind, hcp⟩ := complete info hinfo
    exact ⟨c, _, hf, .inl hkind, hcp, rfl, rfl⟩
  · intro dhId hmem
    have quiet_end : (∀ d, (param.networkId, d) ∈ t.sh.enabledHardware →
        (param.networkId, d) ∈ r.sh.enabledHardware) ∧ Unregistered param.networkId f t := by
      refine quiet.invariant (I := fun x => (∀ d, (param.networkId, d) ∈ x.sh.enabledHardware →
        (param.networkId, d) ∈ r.sh.enabledHardware) ∧ Unregistered param.networkId f x)
        ?_ reach ⟨fun _ hd => hd, ?_⟩
      · rintro x a y hx ⟨hsub, hun⟩ hq hxy
        exact ⟨fun d hd => hsub d (quietFor_enabledHardware hxy hq hd),
          hun.step (lifecycle hx) (family hx) hq hxy⟩
      · intro c cparam hf hkind
        rw [hsh] at hf hkind
        exact absurd hkind (none_yet c hf)
    have hmem' := quiet_end.1 dhId hmem
    rw [hsh] at hmem'
    obtain ⟨info, hinfo, rfl⟩ := List.mem_map.mp (listed dhId hmem')
    obtain ⟨c, hf, hkind, hcp⟩ := complete info hinfo
    refine quiet_end.2 c _ hf hkind hcp rfl ?_ hmem
    obtain hpc | ⟨ret, hpc⟩ := (barrier reach').reported (family reach') final.kind hstage hf <;>
      rw [hpc] <;> rfl

section Camera

/-- Device A is online, its caches are empty, and its camera has been enabled by an
`EnableTask` of a full-capability response. -/
private def cameraEnabled : List Act :=
  .call 0 (.sendOnLineEvent deviceA) :: runs (.call 0) 10 { newId := 1 } ++
  dispatch ++ runs (.task 1) 11 { newId := 2 } ++
  dispatch ++ .startSubmitted 2 :: runs (.task 2) 2 {} ++
  .call 1 (.createTask .enable { deviceA with dhId := "camera" }) ::
    runs (.call 1) 3 { newId := 3 } ++
  dispatch ++ .startSubmitted 3 :: runs (.task 3) 3 {} ++
  .call 2 (.sendOffLineEvent deviceA) :: runs (.call 2) 9 { newId := 4 } ++
  dispatch ++ .startSubmitted 4 :: runs (.task 4) 4 { newId := 5 }

/-- The `OffLineTask` finds nothing to disable, waits for its `MetaDisableTask`, which
succeeds, and ends. -/
private def cameraForgotten : List Act :=
  runs (.task 4) 1 {} ++ dispatch ++ .startSubmitted 5 :: runs (.task 5) 3 {} ++
  runs (.task 4) 11 {}

theorem exists_enabled_after_offLineTask :
    ∃ s r t infos acts, (taskSystem sampleSha256).Reachable s ∧
      s.sh.typeOf 4 = some .offLine ∧ ReadsList sampleSha256 s 4 deviceA infos ∧
      step sampleSha256 s (.run (.task 4) {}) = some r ∧
      (taskSystem sampleSha256).Path (fun s a => quietFor "nA" 4 s a = true) r acts t ∧
      t.pc (.task 4) = .returned dhFwkSuccess ∧ ("nA", "camera") ∈ s.sh.enabledHardware ∧
      ¬ HasDisablingChild t 4 "nA" "camera" ∧ ("nA", "camera") ∈ t.sh.enabledHardware := by
  have run : ∃ s ∈ (taskSystem sampleSha256).replay (fun _ _ => True) {}
        (cameraEnabled ++ runs (.task 4) 2 {}),
      s.sh.typeOf 4 = some .offLine ∧
      s.pc (.task 4) = .body (.offLineReadMeta (sampleSha256 "dA")) ∧
      devDhInfosOf ((getMetaCapInfosByUdidHash s.sh.globalMetaInfoMap (sampleSha256 "dA") []).map
        MetaCapabilityInfo.toCapabilityInfo) = [] ∧ ("nA", "camera") ∈ s.sh.enabledHardware ∧
      ∃ r ∈ step sampleSha256 s (.run (.task 4) {}),
      ∃ t ∈ (taskSystem sampleSha256).replay (fun s a => quietFor "nA" 4 s a = true) r
        cameraForgotten,
      t.pc (.task 4) = .returned dhFwkSuccess ∧ ("nA", "camera") ∈ t.sh.enabledHardware ∧
      ∀ c ∈ t.sh.objects.keys, t.sh.fatherOf c = some 4 →
        (t.sh.paramOf c).map TaskParam.dhId = some "" := by
    decide +kernel
  obtain ⟨s, hs, hk, hpc, hinfos, hmem, r, hr, t, ht, hret, hmem', children⟩ := run
  refine ⟨s, r, t, [], _, (TransitionSystem.run_of_replay rfl hs).reachable, hk,
    .inr ⟨_, hpc, hinfos.symm⟩, hr, TransitionSystem.path_of_replay ht, hret, hmem, ?_, hmem'⟩
  rintro ⟨c, param, hf, -, hp, -, hdhId⟩
  have hkey : c ∈ t.sh.objects.keys := by
    obtain ⟨o, ho, -⟩ := Option.map_eq_some_iff.mp hp
    exact (Store.mem_keys_iff _ c).mpr ⟨o, ho⟩
  have := children c hkey hf
  simp [hp, hdhId] at this

private def cameraCap : CapabilityInfo :=
  { dhId := "camera", deviceId := sampleSha256 "uA", dhType := DhType.camera }

/-- The same run where the capability cache has learnt the camera's record. -/
private def cameraLearnt : List Act :=
  cameraEnabled ++ [.registries (Std.TreeMap.empty.insert cameraCap.getKey cameraCap) ∅ ∅]

private def cameraDisabled : List Act :=
  runs (.task 4) 5 { newId := 6 } ++ dispatch ++ .startSubmitted 5 :: runs (.task 5) 3 {} ++
  dispatch ++ .startSubmitted 6 :: runs (.task 6) 4 {} ++ runs (.task 4) 11 {}

theorem offLineTask_disables_iff_camera :
    ∃ s ∈ (taskSystem sampleSha256).replay (fun _ _ => True) {} cameraLearnt,
    ∃ r ∈ step sampleSha256 s (.run (.task 4) {}),
    ∃ t ∈ (taskSystem sampleSha256).replay (fun s a => quietFor "nA" 4 s a = true) r
      cameraDisabled,
      (∀ dhId, ("nA", dhId) ∈ s.sh.enabledHardware → HasDisablingChild t 4 "nA" dhId) ∧
      ∀ dhId, ("nA", dhId) ∉ t.sh.enabledHardware := by
  have run : ∃ s ∈ (taskSystem sampleSha256).replay (fun _ _ => True) {} cameraLearnt,
      s.sh.typeOf 4 = some .offLine ∧ s.sh.paramOf 4 = some deviceA ∧
      s.pc (.task 4) = .body .offLineReadCaps ∧ s.sh.enabledHardware = {("nA", "camera")} ∧
      devDhInfosOf (getCapabilitiesByDeviceId s.sh.globalCapInfoMap
        (getDeviceIdByUuid sampleSha256 "uA") []) = [("camera", DhType.camera)] ∧
      ∃ r ∈ step sampleSha256 s (.run (.task 4) {}),
      ∃ t ∈ (taskSystem sampleSha256).replay (fun s a => quietFor "nA" 4 s a = true) r
        cameraDisabled,
      t.pc (.task 4) = .returned dhFwkSuccess := by
    decide +kernel
  obtain ⟨s, hs, hk, hp, hpc, henabled, hinfos, r, hr, t, ht, hret⟩ := run
  have quiet := TransitionSystem.path_of_replay ht
  have listed : ∀ dhId, ("nA", dhId) ∈ s.sh.enabledHardware →
      dhId ∈ [("camera", DhType.camera)].map Prod.fst := by
    simp [henabled]
  obtain ⟨cover, disabled⟩ := offLineTask_disables_iff
    (TransitionSystem.run_of_replay rfl hs).reachable hk hp
    (.inl ⟨hpc, by decide, hinfos.symm⟩) hr (quiet.mono (fun _ _ _ => trivial))
    (by rw [hret]; rfl)
  exact ⟨s, hs, r, hr, t, ht, cover.mpr listed, disabled listed quiet (by rw [hret]; decide)⟩

end Camera
end DistributedHardware
