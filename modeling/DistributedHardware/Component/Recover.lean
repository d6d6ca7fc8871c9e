import DistributedHardware.Task.LastTask

/-!
Recovery of a component whose source service has died: `RecoverDistributedHardware`
against `enabledDevices_`.

Recovery goes through the meta registry and resolves each record's device through the
online table; it does not look at `enabledDevices_`. Of the service's state only these
three matter, so a step is followed by what it does to them.
-/

namespace DistributedHardware

/-- What recovery depends on, and what it is compared with. -/
structure RecoverView where
  devIdEntrySet : DeviceIdEntrySet
  globalMetaInfoMap : MetaCapInfoMap
  enabledDevices : Store String TaskParam

def Shared.recoverView (sh : Shared) : RecoverView where
  devIdEntrySet := sh.devIdEntrySet
  globalMetaInfoMap := sh.globalMetaInfoMap
  enabledDevices := sh.enabledDevices

/-- The parameters of the task for a record, where its device is found online. -/
def recoverParam (set : DeviceIdEntrySet) (metaInfo : MetaCapabilityInfo) : Option TaskParam :=
  let uuid := getUuidByDeviceId metaInfo.deviceId set
  if uuid = "" then none
  else
    let networkId := getNetworkIdByUuid uuid set
    if networkId = "" then none
    else some { networkId, uuid, dhId := metaInfo.dhId, dhType := metaInfo.dhType }

/-- `MetaInfoManager::GetMetaDataByDHType` with an empty map. -/
def getMetaDataByDHType (map : MetaCapInfoMap) (dhType : DhType) : MetaCapInfoMap :=
  map.filter (fun _ metaInfo => metaInfo.dhType == dhType)

/-- The tasks that `RecoverDistributedHardware` creates. -/
def recoverDistributedHardware (dhType : DhType) (v : RecoverView) : List TaskParam :=
  (getMetaDataByDHType v.globalMetaInfoMap dhType).toList.filterMap
    (fun e => recoverParam v.devIdEntrySet e.2)

/-- A hardware by the uuid of its device, its dhId and its type. -/
structure RecoverHardware where
  uuid : String
  dhId : String
  dhType : DhType
  deriving DecidableEq

def TaskParam.hardware (param : TaskParam) : RecoverHardware where
  uuid := param.uuid
  dhId := param.dhId
  dhType := param.dhType

namespace RecoverView

/-- The hardware is recorded as enabled. -/
def Saved (v : RecoverView) (hw : RecoverHardware) : Prop :=
  ∃ key param, v.enabledDevices.get key = some param ∧ param.hardware = hw

/-- It is recorded as enabled and its device is online. -/
def Enabled (v : RecoverView) (hw : RecoverHardware) : Prop :=
  isDeviceOnline hw.uuid v.devIdEntrySet = true ∧ v.Saved hw

/-- A meta record that resolves to an online device is of the hardware. -/
def Resolved (v : RecoverView) (hw : RecoverHardware) : Prop :=
  ∃ (key : String) (metaInfo : MetaCapabilityInfo), v.globalMetaInfoMap[key]? = some metaInfo ∧
    ∃ task ∈ recoverParam v.devIdEntrySet metaInfo, task.hardware = hw

/-- Recovery creates a task for each enabled hardware of the type, and for no other. -/
def RecoverExact (v : RecoverView) : Prop :=
  ∀ dhType hw, (∃ task ∈ recoverDistributedHardware dhType v, task.hardware = hw) ↔
    hw.dhType = dhType ∧ v.Enabled hw

end RecoverView

/-- What a step does to the view. -/
inductive RecoverChange
  | none
  | table (set : DeviceIdEntrySet)
  | metas (map : MetaCapInfoMap)
  | save (key : String) (param : TaskParam)
  | remove (key : String)

namespace RecoverChange

def apply (c : RecoverChange) (v : RecoverView) : RecoverView :=
  match c with
  | .none => v
  | .table set => { v with devIdEntrySet := set }
  | .metas map => { v with globalMetaInfoMap := map }
  | .save key param => { v with enabledDevices := v.enabledDevices.set key param }
  | .remove key => { v with enabledDevices := v.enabledDevices.erase key }

/-- The change treats the meta registry and `enabledDevices_` alike. A hardware is saved
as enabled where meta records resolve to it already, and in the place of itself; one of an
online device is not removed; the registry changes without changing what its records
resolve to; and the table changes that for the saved hardware whose device it takes
online or offline, and for no other. -/
def Alike (c : RecoverChange) (v : RecoverView) : Prop :=
  match c with
  | .none => True
  | .table set => ∀ hw,
      (({ v with devIdEntrySet := set } : RecoverView).Resolved hw ↔ v.Resolved hw) ↔
        (v.Saved hw → (isDeviceOnline hw.uuid set ↔ isDeviceOnline hw.uuid v.devIdEntrySet))
  | .metas map => ∀ hw,
      ({ v with globalMetaInfoMap := map } : RecoverView).Resolved hw ↔ v.Resolved hw
  | .save key param =>
      (isDeviceOnline param.uuid v.devIdEntrySet = true → v.Resolved param.hardware) ∧
        ∀ old ∈ v.enabledDevices.get key, isDeviceOnline old.uuid v.devIdEntrySet = true →
          old.hardware = param.hardware
  | .remove key => ∀ old ∈ v.enabledDevices.get key,
      isDeviceOnline old.uuid v.devIdEntrySet = false

end RecoverChange

section System
variable (sha256 : String → String)

/-- A section of a task's body, by what it does to the view. -/
def bodyChange (sh : Shared) (param : TaskParam) (ch : Choice) : TaskPoint → RecoverChange
  | .saveEnabledDevice => .save (enabledKey sha256 param) param
  | .removeEnabledDevice => .remove (enabledKey sha256 param)
  | .syncMeta => .metas (saveRecords MetaCapabilityInfo.getKey sh.globalMetaInfoMap ch.metas)
  | .removeOnlineEntry =>
      .table (removeOnlineDeviceIdEntryByNetworkId param.networkId sh.devIdEntrySet)
  | _ => .none

/-- A section of a thread. -/
def sectionChange (sh : Shared) (ch : Choice) : ProcId → Pc → RecoverChange
  | .call _, .sendOnLine .addOnlineDevice param =>
      .table (addOnlineDevice sha256 param.udid param.uuid param.networkId sh.devIdEntrySet)
  | .task id, .body pt =>
      match sh.paramOf id with
      | some param => bodyChange sha256 sh param ch pt
      | none => .none
  | _, _ => .none

def recoverChange (s : Sys) : Act → RecoverChange
  | .registries _ _ metas => .metas metas
  | .run p ch => sectionChange sha256 s.sh ch p (s.pc p)
  | _ => .none

end System

namespace RecoverView
variable {v : RecoverView} {hw : RecoverHardware}

theorem dhType_of_recoverParam {set : DeviceIdEntrySet} {metaInfo : MetaCapabilityInfo}
    {task : TaskParam} (h : recoverParam set metaInfo = some task) :
    task.dhType = metaInfo.dhType := by
  unfold recoverParam at h
  dsimp only at h
  split at h
  · cases h
  · split at h
    · cases h
    · obtain rfl := Option.some.inj h
      rfl

theorem mem_recover_iff {dhType : DhType} :
    (∃ task ∈ recoverDistributedHardware dhType v, task.hardware = hw) ↔
      hw.dhType = dhType ∧ v.Resolved hw := by
  have listed (e : String × MetaCapabilityInfo) :
      e ∈ (getMetaDataByDHType v.globalMetaInfoMap dhType).toList ↔
        v.globalMetaInfoMap[e.1]? = some e.2 ∧ e.2.dhType = dhType := by
    rw [Std.TreeMap.mem_toList_iff_getElem?_eq_some, getMetaDataByDHType,
      Std.TreeMap.getElem?_filter', Option.filter_eq_some_iff, beq_iff_eq]
  constructor
  · rintro ⟨task, mem, rfl⟩
    obtain ⟨e, he, hparam⟩ := List.mem_filterMap.mp mem
    obtain ⟨stored, hType⟩ := (listed e).mp he
    refine ⟨(dhType_of_recoverParam hparam).trans hType, e.1, e.2, stored, task, hparam, rfl⟩
  · rintro ⟨rfl, key, metaInfo, stored, task, hparam, rfl⟩
    refine ⟨task, List.mem_filterMap.mpr ⟨(key, metaInfo), ?_, hparam⟩, rfl⟩
    exact (listed _).mpr ⟨stored, (dhType_of_recoverParam hparam).symm⟩

theorem recoverExact_iff : v.RecoverExact ↔ ∀ hw, v.Resolved hw ↔ v.Enabled hw := by
  simp only [RecoverExact, mem_recover_iff]
  constructor
  · intro h hw
    have := h hw.dhType hw
    rwa [and_iff_right rfl, and_iff_right rfl] at this
  · exact fun h dhType hw => and_congr_right (fun _ => h hw)

/-- Every entry lies under the key of its hardware. -/
def Keyed (sha256 : String → String) (v : RecoverView) : Prop :=
  ∀ key param, v.enabledDevices.get key = some param → enabledKey sha256 param = key

end RecoverView

namespace RecoverChange
variable {sha256 : String → String} {v : RecoverView}

/-- What is saved is saved under the key of its hardware. -/
def Keyed (sha256 : String → String) : RecoverChange → Prop
  | .save key param => key = enabledKey sha256 param
  | _ => True

theorem enabledKey_of_hardware {param other : TaskParam} (h : param.hardware = other.hardware) :
    enabledKey sha256 param = enabledKey sha256 other := by
  have uuid := congrArg RecoverHardware.uuid h
  have dhId := congrArg RecoverHardware.dhId h
  simp only [TaskParam.hardware] at uuid dhId
  rw [enabledKey, enabledKey, uuid, dhId]

theorem keyed_apply {c : RecoverChange} (keyed : v.Keyed sha256) (hc : c.Keyed sha256) :
    (c.apply v).Keyed sha256 := by
  cases c with
  | none | table set | metas map => exact keyed
  | save key param =>
      intro key' param' h
      simp only [apply, Store.get_set] at h
      split at h
      · rename_i same
        obtain rfl := Option.some.inj h
        rw [same, hc]
      · exact keyed key' param' h
  | remove key =>
      intro key' param' h
      simp only [apply, Store.get_erase] at h
      split at h
      · cases h
      · exact keyed key' param' h

/-- Where meta records resolve to the same hardware, the enabled ones must stay. -/
theorem exact_iff_enabled {w : RecoverView} (exact : v.RecoverExact)
    (resolved : ∀ hw, w.Resolved hw ↔ v.Resolved hw) :
    w.RecoverExact ↔ ∀ hw, v.Enabled hw ↔ w.Enabled hw := by
  rw [RecoverView.recoverExact_iff] at exact ⊢
  apply forall_congr'
  intro hw
  rw [resolved hw, exact hw]

theorem saved_save_iff {key : String} {param : TaskParam} {hw : RecoverHardware} :
    ((save key param).apply v).Saved hw ↔ param.hardware = hw ∨
      ∃ k p, k ≠ key ∧ v.enabledDevices.get k = some p ∧ p.hardware = hw := by
  constructor
  · rintro ⟨k, p, stored, hhw⟩
    simp only [apply, Store.get_set] at stored
    split at stored
    · exact .inl (Option.some.inj stored ▸ hhw)
    · rename_i other
      exact .inr ⟨k, p, other, stored, hhw⟩
  · rintro (hhw | ⟨k, p, other, stored, hhw⟩)
    · exact ⟨key, param, by simp [apply, Store.get_set], hhw⟩
    · exact ⟨k, p, by simp [apply, Store.get_set, other, stored], hhw⟩

theorem saved_remove_iff {key : String} {hw : RecoverHardware} :
    ((remove key).apply v).Saved hw ↔
      ∃ k p, k ≠ key ∧ v.enabledDevices.get k = some p ∧ p.hardware = hw := by
  constructor
  · rintro ⟨k, p, stored, hhw⟩
    simp only [apply, Store.get_erase] at stored
    split at stored
    · cases stored
    · rename_i other
      exact ⟨k, p, other, stored, hhw⟩
  · rintro ⟨k, p, other, stored, hhw⟩
    exact ⟨k, p, by simp [apply, Store.get_erase, other, stored], hhw⟩

/-- The entries of one hardware lie under one key. -/
theorem key_eq (keyed : v.Keyed sha256) {k key : String} {p old : TaskParam}
    (hp : v.enabledDevices.get k = some p) (hold : v.enabledDevices.get key = some old)
    (same : p.hardware = old.hardware) : k = key := by
  rw [← keyed k p hp, ← keyed key old hold, enabledKey_of_hardware same]

theorem exact_save_iff {key : String} {param : TaskParam} (exact : v.RecoverExact)
    (keyed : v.Keyed sha256) :
    ((save key param).apply v).RecoverExact ↔ (save key param).Alike v := by
  have matched := RecoverView.recoverExact_iff.mp exact
  apply (exact_iff_enabled (w := (save key param).apply v) exact (fun _ => Iff.rfl)).trans
  constructor
  · intro same
    constructor
    · intro online
      apply (matched _).mpr
      exact (same _).mpr ⟨online, saved_save_iff.mpr (.inl rfl)⟩
    · intro old hold online
      have enabled := (same old.hardware).mp ⟨online, key, old, hold, rfl⟩
      obtain hhw | ⟨k, p, other, hp, hhw⟩ := saved_save_iff.mp enabled.2
      · exact hhw.symm
      · exact absurd (key_eq keyed hp hold hhw) other
  · rintro ⟨resolved, replaced⟩ hw
    constructor
    · rintro ⟨online, k, p, hp, rfl⟩
      refine ⟨online, saved_save_iff.mpr ?_⟩
      by_cases hk : k = key
      · subst hk
        exact .inl (replaced p hp online).symm
      · exact .inr ⟨k, p, hk, hp, rfl⟩
    · rintro ⟨online, saved⟩
      obtain rfl | ⟨k, p, -, hp, hhw⟩ := saved_save_iff.mp saved
      · exact (matched _).mp (resolved online)
      · exact ⟨online, k, p, hp, hhw⟩

theorem exact_remove_iff {key : String} (exact : v.RecoverExact) (keyed : v.Keyed sha256) :
    ((remove key).apply v).RecoverExact ↔ (remove key).Alike v := by
  apply (exact_iff_enabled (w := (remove key).apply v) exact (fun _ => Iff.rfl)).trans
  constructor
  · intro same old hold
    by_contra online
    have enabled := (same old.hardware).mp ⟨Bool.not_eq_false _ ▸ online, key, old, hold, rfl⟩
    obtain ⟨k, p, other, hp, hhw⟩ := saved_remove_iff.mp enabled.2
    exact other (key_eq keyed hp hold hhw)
  · intro offline hw
    constructor
    · rintro ⟨online, k, p, hp, rfl⟩
      refine ⟨online, saved_remove_iff.mpr ⟨k, p, ?_, hp, rfl⟩⟩
      rintro rfl
      have := offline p hp
      exact absurd (this.symm.trans online) Bool.false_ne_true
    · rintro ⟨online, saved⟩
      obtain ⟨k, p, -, hp, hhw⟩ := saved_remove_iff.mp saved
      exact ⟨online, k, p, hp, hhw⟩

/-- One change of the view. -/
theorem exact_apply_iff {c : RecoverChange} (exact : v.RecoverExact) (keyed : v.Keyed sha256) :
    (c.apply v).RecoverExact ↔ c.Alike v := by
  have matched := RecoverView.recoverExact_iff.mp exact
  cases c with
  | none => exact iff_of_true exact trivial
  | save key param => exact exact_save_iff exact keyed
  | remove key => exact exact_remove_iff exact keyed
  | metas map =>
      rw [RecoverView.recoverExact_iff]
      apply forall_congr'
      intro hw
      rw [matched hw]
      rfl
  | table set =>
      rw [RecoverView.recoverExact_iff]
      apply forall_congr'
      intro hw
      have before := matched hw
      have after : ((table set).apply v).Enabled hw ↔
          isDeviceOnline hw.uuid set = true ∧ v.Saved hw := Iff.rfl
      rw [after, before, RecoverView.Enabled]
      by_cases saved : v.Saved hw
      · simp only [saved, and_true, true_implies]
        exact ⟨fun h => ⟨fun k => (h.symm.trans k), fun k => h.trans k⟩, fun h => by tauto⟩
      · simp only [saved, and_false, false_implies, iff_true]
        rfl

end RecoverChange

section Steps
variable {sha256 : String → String} {sh sh' : Shared} {s t : Sys} {a : Act} {ch : Choice}
  {p : ProcId} {c c' : Pc}

def Outside.recoverView (o : Outside) : RecoverView where
  devIdEntrySet := o.devIdEntrySet
  globalMetaInfoMap := o.globalMetaInfoMap
  enabledDevices := o.enabledDevices

theorem exec_recoverView (h : exec sha256 sh ch p c = some (sh', c')) :
    sh'.recoverView = (sectionChange sha256 sh ch p c).apply sh.recoverView := by
  have after : sh'.recoverView = (outsideAfter sha256 sh ch p c).recoverView :=
    congrArg Outside.recoverView (exec_outside h)
  rw [after]
  cases c with
  | sendOnLine pt param | sendOffLine pt param =>
      cases p with
      | task id => cases h
      | call n => cases pt <;> rfl
  | body pt =>
      cases p with
      | call n => cases h
      | task id =>
          obtain ⟨param, hparam, -⟩ := exec_body h
          simp only [outsideAfter, sectionChange, hparam]
          cases pt <;> rfl
  | _ => cases p <;> rfl

/-- A step on the view is its change. -/
theorem step_recoverView (h : step sha256 s a = some t) :
    t.sh.recoverView = (recoverChange sha256 s a).apply s.sh.recoverView := by
  cases a with
  | run p ch =>
      obtain ⟨sh', c', he, rfl⟩ := step_run h
      exact exec_recoverView he
  | call _ _ | popTask | postTask _ =>
      simp only [step] at h
      split at h <;> cases h
      rfl
  | runPosted =>
      simp only [step] at h
      split at h
      · split at h <;> cases h <;> rfl
      · cases h
  | startSubmitted id =>
      simp only [step] at h
      split at h
      · split at h <;> cases h
        rfl
      · cases h
  | isomerism _ _ | registries _ _ _ =>
      cases h
      rfl

theorem keyed_recoverChange : (recoverChange sha256 s a).Keyed sha256 := by
  cases a with
  | run p ch =>
      simp only [recoverChange]
      unfold sectionChange
      split
      · trivial
      · split
        · unfold bodyChange
          split <;> trivial
        · trivial
      · trivial
  | _ => trivial

/-- The recovery of a component covers what is enabled. -/
def recovers (s : Sys) : Prop := s.sh.recoverView.RecoverExact

variable (sha256) in
/-- The step treats the meta registry and `enabledDevices_` alike. -/
def treatsAlike (s : Sys) (a : Act) : Prop :=
  (recoverChange sha256 s a).Alike s.sh.recoverView

theorem recovers_init : recovers {} := by
  apply RecoverView.recoverExact_iff.mpr
  intro hw
  apply iff_of_false
  · rintro ⟨key, metaInfo, stored, -⟩
    cases stored
  · rintro ⟨-, key, param, stored, -⟩
    cases stored

theorem keyed_of_reachable (reachable : (taskSystem sha256).Reachable s) :
    s.sh.recoverView.Keyed sha256 := by
  apply reachable.invariant (I := fun s => s.sh.recoverView.Keyed sha256)
  · rintro _ rfl key param stored
    cases stored
  · intro s a t keyed hs
    rw [step_recoverView hs]
    exact RecoverChange.keyed_apply keyed keyed_recoverChange

end Steps

section Runs

private def cameraA : TaskParam := { deviceA with dhId := "d1", dhType := DhType.camera }

private def deviceAOnLine : List Act := .call 1 (.sendOnLineEvent deviceA) :: runs (.call 1) 3 {}

/-- An ENABLE task for the camera, as a notification of its capability record creates it. -/
private def enableCameraA : List Act :=
  .call 2 (.createTask .enable cameraA) :: runs (.call 2) 3 { newId := 2 } ++ dispatch ++
    [.startSubmitted 2] ++ runs (.task 2) 3 {}

/-- A meta record of another camera of the device. -/
private def otherCamera : MetaCapabilityInfo :=
  { dhId := "d2", deviceId := getDeviceIdByUuid sampleSha256 "uA", dhType := DhType.camera }

end Runs
end DistributedHardware
