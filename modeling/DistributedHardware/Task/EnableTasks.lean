import Mathlib.Data.Set.Basic
import DistributedHardware.Task.Step

/-!
The tasks that `OnLineTask::CreateEnableTask` creates from the three registries.

The scan of the local registry returns at once when the caller's list is empty, as it is
here: after an empty scan of the capability registry only the meta registry counts.
-/

namespace DistributedHardware

section Counting
variable {α : Type} [BEq α] [LawfulBEq α]

theorem count_iff_nodup {l : List α} {s : Set α} :
    (∀ a, (a ∈ s → l.count a = 1) ∧ (a ∉ s → l.count a = 0)) ↔
      l.Nodup ∧ ∀ a, a ∈ l ↔ a ∈ s := by
  constructor
  · intro counts
    have atMost (a : α) : l.count a ≤ 1 := by
      by_cases mem : a ∈ s
      · exact Nat.le_of_eq ((counts a).1 mem)
      · exact Nat.le_trans (Nat.le_of_eq ((counts a).2 mem)) (Nat.zero_le 1)
    refine ⟨List.nodup_iff_count.mpr atMost, fun a => ⟨?_, ?_⟩⟩
    · intro mem
      by_contra other
      exact List.count_eq_zero.mp ((counts a).2 other) mem
    · intro mem
      exact List.count_pos_iff.mp (Nat.lt_of_lt_of_eq Nat.zero_lt_one ((counts a).1 mem).symm)
  · intro ⟨nodup, same⟩ a
    exact ⟨fun mem => List.count_eq_one_of_mem nodup ((same a).mpr mem),
      fun other => List.count_eq_zero.mpr (fun mem => other ((same a).mp mem))⟩

end Counting

/-- The items of the first set that has any. -/
def InFirstNonEmpty {α : Type} : List (Set α) → α → Prop
  | [], _ => False
  | source :: sources, a => a ∈ source ∨ (source = ∅ ∧ InFirstNonEmpty sources a)

section Registries
variable {T : Type}

/-- The hardware that a registry has of a device. -/
def Registered (hardware : T → String × DhType) (map : Std.TreeMap String T compare)
    (deviceId : String) : Set (String × DhType) :=
  {info | ∃ key cap, map[key]? = some cap ∧ isCapKeyMatchDeviceId key deviceId = true ∧
    hardware cap = info}

/-- No two records of the device are of one hardware. -/
def Distinct (hardware : T → String × DhType) (map : Std.TreeMap String T compare)
    (deviceId : String) : Prop :=
  ∀ key key' cap cap', map[key]? = some cap → map[key']? = some cap' →
    isCapKeyMatchDeviceId key deviceId = true → isCapKeyMatchDeviceId key' deviceId = true →
    hardware cap = hardware cap' → key = key'

variable {hardware : T → String × DhType} {map : Std.TreeMap String T compare}
variable {deviceId : String}

theorem mem_map_recordsOfDevice {info : String × DhType} :
    info ∈ (recordsOfDevice map deviceId).map hardware ↔
      info ∈ Registered hardware map deviceId := by
  simp only [recordsOfDevice, List.mem_map, List.mem_filterMap, Prod.exists,
    Std.TreeMap.mem_toList_iff_getElem?_eq_some, Option.ite_none_right_eq_some, Option.some.injEq,
    Registered, Set.mem_ofPred_eq]
  constructor
  · rintro ⟨cap, ⟨key, _, found, matched, rfl⟩, rfl⟩
    exact ⟨key, _, found, matched, rfl⟩
  · rintro ⟨key, cap, found, matched, rfl⟩
    exact ⟨cap, ⟨key, cap, found, matched, rfl⟩, rfl⟩

theorem recordsOfDevice_eq_nil_iff :
    (recordsOfDevice map deviceId).map hardware = [] ↔ Registered hardware map deviceId = ∅ := by
  rw [List.eq_nil_iff_forall_not_mem, Set.eq_empty_iff_forall_notMem]
  exact forall_congr' (fun info => not_congr mem_map_recordsOfDevice)

/-- Two entries of the device are of different hardware. -/
def OtherHardware (hardware : T → String × DhType) (deviceId : String) (entry entry' : String × T) :
    Prop :=
  isCapKeyMatchDeviceId entry.1 deviceId = true → isCapKeyMatchDeviceId entry'.1 deviceId = true →
    hardware entry.2 ≠ hardware entry'.2

theorem nodup_iff_pairwise_otherHardware : ((recordsOfDevice map deviceId).map hardware).Nodup ↔
    map.toList.Pairwise (OtherHardware hardware deviceId) := by
  unfold List.Nodup recordsOfDevice
  rw [List.pairwise_map, List.pairwise_filterMap]
  simp only [Option.ite_none_right_eq_some, Option.some.injEq]
  refine iff_of_eq (congrArg (fun R => map.toList.Pairwise R) ?_)
  funext entry entry'
  refine propext ⟨?_, ?_⟩
  · exact fun differ matched matched' => differ _ ⟨matched, rfl⟩ _ ⟨matched', rfl⟩
  · rintro apart _ ⟨matched, rfl⟩ _ ⟨matched', rfl⟩
    exact apart matched matched'

/-- The listing repeats no hardware exactly where the device's records are of distinct ones. -/
theorem nodup_map_recordsOfDevice :
    ((recordsOfDevice map deviceId).map hardware).Nodup ↔ Distinct hardware map deviceId := by
  have keysDiffer := Std.TreeMap.distinct_keys_toList (t := map)
  rw [nodup_iff_pairwise_otherHardware]
  constructor
  · intro differ key key' cap cap' found found' matched matched' same
    by_contra other
    have symm : Std.Symm (OtherHardware (T := T) hardware deviceId) :=
      ⟨fun _ _ apart matched matched' same => apart matched' matched same.symm⟩
    have entries : (key, cap) ≠ (key', cap') := fun equal => other (congrArg Prod.fst equal)
    exact differ.forall (Std.TreeMap.mem_toList_iff_getElem?_eq_some.mpr found)
      (Std.TreeMap.mem_toList_iff_getElem?_eq_some.mpr found') entries matched matched' same
  · intro distinct
    refine keysDiffer.imp_of_mem ?_
    intro entry entry' mem mem' other matched matched' same
    exact other (compare_eq_iff_eq.mpr (distinct _ _ _ _
      (Std.TreeMap.mem_toList_iff_getElem?_eq_some.mp mem)
      (Std.TreeMap.mem_toList_iff_getElem?_eq_some.mp mem') matched matched' same))

end Registries

def CapabilityInfo.hardware (cap : CapabilityInfo) : String × DhType := (cap.dhId, cap.dhType)

def MetaCapabilityInfo.hardware (cap : MetaCapabilityInfo) : String × DhType :=
  (cap.dhId, cap.dhType)

/-- Records under their own keys, of the device whose keys they have, are of distinct hardware. -/
theorem distinct_of_keyed {map : CapabilityInfoMap} {deviceId : String}
    (keyed : ∀ (key : String) (cap : CapabilityInfo), map[key]? = some cap → key = cap.getKey)
    (own : ∀ (key : String) (cap : CapabilityInfo), map[key]? = some cap →
      isCapKeyMatchDeviceId key deviceId = true → cap.deviceId = deviceId) :
    Distinct CapabilityInfo.hardware map deviceId := by
  intro key key' cap cap' found found' matched matched' same
  have sameId : cap.dhId = cap'.dhId := congrArg Prod.fst same
  rw [keyed key cap found, keyed key' cap' found', CapabilityInfo.getKey, CapabilityInfo.getKey,
    own key cap found matched, own key' cap' found' matched', sameId]

section CreateEnableTask
variable (sha256 : String → String) (param : TaskParam)
variable (caps localCaps : CapabilityInfoMap) (metas : MetaCapInfoMap)

/-- The `devDhInfos` that `OnLineTask::CreateEnableTask` collects; each registry is read as it is
when its scan takes the lock. -/
def enableInfos : List (String × DhType) :=
  let deviceId := getDeviceIdByUuid sha256 param.uuid
  let capabilityInfos := getCapabilitiesByDeviceId caps deviceId []
  let devDhInfos := devDhInfosOf capabilityInfos
  let devDhInfos :=
    if devDhInfos = [] then
      devDhInfos ++
        devDhInfosOf (localGetCapabilitiesByDeviceId localCaps deviceId capabilityInfos)
    else devDhInfos
  if devDhInfos = [] then
    devDhInfos ++ devDhInfosOf ((getMetaCapInfosByUdidHash metas (sha256 param.udid) []).map
      MetaCapabilityInfo.toCapabilityInfo)
  else devDhInfos

/-- The parameters of the ENABLE tasks that `OnLineTask::CreateEnableTask` creates, in order. -/
def createEnableTask : List TaskParam :=
  (enableInfos sha256 param caps localCaps metas).map (fun info =>
    { param with dhId := info.1, dhType := info.2 })

/-- The hardware of the device in the first registry that has any. -/
def FirstListed : String × DhType → Prop :=
  InFirstNonEmpty [
    Registered CapabilityInfo.hardware caps (getDeviceIdByUuid sha256 param.uuid),
    Registered CapabilityInfo.hardware localCaps (getDeviceIdByUuid sha256 param.uuid),
    Registered MetaCapabilityInfo.hardware metas (sha256 param.udid)]

/-- One task for each hardware, of the device that the task is for, and no other task. -/
structure EnablesOnce (tasks : List TaskParam) (listed : String × DhType → Prop) : Prop where
  device : ∀ task ∈ tasks, task.networkId = param.networkId ∧ task.uuid = param.uuid ∧
    task.udid = param.udid
  once : ∀ info, listed info → (tasks.map (fun task => (task.dhId, task.dhType))).count info = 1
  none : ∀ info, ¬ listed info → (tasks.map (fun task => (task.dhId, task.dhType))).count info = 0

/-- The capability registry has records of the device, of distinct hardware; or it has none, and
the meta registry has, of distinct hardware, what the local registry has, if that has any. -/
def ListedOnce : Prop :=
  let deviceId := getDeviceIdByUuid sha256 param.uuid
  let capHardware := Registered CapabilityInfo.hardware caps deviceId
  let localHardware := Registered CapabilityInfo.hardware localCaps deviceId
  let metaHardware := Registered MetaCapabilityInfo.hardware metas (sha256 param.udid)
  (capHardware ≠ ∅ ∧ Distinct CapabilityInfo.hardware caps deviceId) ∨
    (capHardware = ∅ ∧ Distinct MetaCapabilityInfo.hardware metas (sha256 param.udid) ∧
      (localHardware = ∅ ∨ localHardware = metaHardware))

end CreateEnableTask

section Enabling
variable {sha256 : String → String} {param : TaskParam}
variable {caps localCaps : CapabilityInfoMap} {metas : MetaCapInfoMap}

theorem recordsOfDevice_invalid {T : Type} (map : Std.TreeMap String T compare) {deviceId : String}
    (invalid : isIdLengthValid deviceId = false) : recordsOfDevice map deviceId = [] := by
  unfold recordsOfDevice
  rw [List.filterMap_eq_nil_iff]
  rintro ⟨key, cap⟩ -
  simp [isCapKeyMatchDeviceId, invalid]

theorem getCapabilitiesByDeviceId_nil (map : CapabilityInfoMap) (deviceId : String) :
    getCapabilitiesByDeviceId map deviceId [] = recordsOfDevice map deviceId := by
  unfold getCapabilitiesByDeviceId
  cases valid : isIdLengthValid deviceId with
  | true => simp
  | false => simp [recordsOfDevice_invalid map valid]

/-- The local registry is never read: its scan gets the empty list. -/
theorem enableInfos_eq (hash : isHashSizeValid (sha256 param.udid) = true) :
    enableInfos sha256 param caps localCaps metas =
      let capInfos := (recordsOfDevice caps (getDeviceIdByUuid sha256 param.uuid)).map
        CapabilityInfo.hardware
      if capInfos = [] then
        (recordsOfDevice metas (sha256 param.udid)).map MetaCapabilityInfo.hardware
      else capInfos := by
  have scan : devDhInfosOf = List.map CapabilityInfo.hardware := rfl
  have metaScan : (getMetaCapInfosByUdidHash metas (sha256 param.udid) []).map
      (CapabilityInfo.hardware ∘ MetaCapabilityInfo.toCapabilityInfo) =
        (recordsOfDevice metas (sha256 param.udid)).map MetaCapabilityInfo.hardware := by
    rw [getMetaCapInfosByUdidHash, hash]
    rfl
  simp only [enableInfos, scan, getCapabilitiesByDeviceId_nil, List.map_map, metaScan]
  by_cases none : recordsOfDevice caps (getDeviceIdByUuid sha256 param.uuid) = []
  · simp [none, localGetCapabilitiesByDeviceId]
  · simp [none]

theorem map_createEnableTask :
    (createEnableTask sha256 param caps localCaps metas).map (fun task =>
      (task.dhId, task.dhType)) = enableInfos sha256 param caps localCaps metas := by
  rw [createEnableTask, List.map_map]
  exact List.map_id _

theorem enablesOnce_iff {listed : String × DhType → Prop} :
    EnablesOnce param (createEnableTask sha256 param caps localCaps metas) listed ↔
      (enableInfos sha256 param caps localCaps metas).Nodup ∧
        ∀ info, info ∈ enableInfos sha256 param caps localCaps metas ↔ listed info := by
  have counts := count_iff_nodup (l := enableInfos sha256 param caps localCaps metas)
    (s := {info | listed info})
  rw [← map_createEnableTask] at counts ⊢
  refine Iff.trans ?_ counts
  constructor
  · exact fun once info => ⟨once.once info, once.none info⟩
  · intro each
    refine ⟨?_, fun info => (each info).1, fun info => (each info).2⟩
    intro task created
    obtain ⟨info, -, rfl⟩ := List.mem_map.mp created
    exact ⟨rfl, rfl, rfl⟩

/-- Every hardware of the device in the first registry that has any gets one ENABLE task, and no
other hardware gets one, exactly where it is listed once. -/
theorem enablesOnce_iff_listedOnce (hash : isHashSizeValid (sha256 param.udid) = true) :
    EnablesOnce param (createEnableTask sha256 param caps localCaps metas)
        (FirstListed sha256 param caps localCaps metas) ↔
      ListedOnce sha256 param caps localCaps metas := by
  rw [enablesOnce_iff, enableInfos_eq hash]
  simp only [FirstListed, InFirstNonEmpty, ListedOnce]
  by_cases noCap : Registered CapabilityInfo.hardware caps (getDeviceIdByUuid sha256 param.uuid) = ∅
  · rw [if_pos (recordsOfDevice_eq_nil_iff.mpr noCap), nodup_map_recordsOfDevice]
    simp only [noCap, Set.mem_empty_iff_false, false_or, true_and, ne_eq, not_true_eq_false,
      false_and, mem_map_recordsOfDevice]
    refine and_congr_right (fun _ => ?_)
    by_cases noLocal :
      Registered CapabilityInfo.hardware localCaps (getDeviceIdByUuid sha256 param.uuid) = ∅
    · simp [noLocal]
    · simp only [noLocal, false_and, or_false, false_or]
      rw [eq_comm, Set.ext_iff]
  · rw [if_neg (recordsOfDevice_eq_nil_iff.not.mpr noCap), nodup_map_recordsOfDevice]
    simp only [noCap, false_and, or_false, ne_eq, not_false_eq_true, true_and,
      mem_map_recordsOfDevice, implies_true, and_true, iff_self]

/-- The sections of an online task that read the registries pass the same list on. -/
theorem onLineReads_enableInfos {id : TaskId} (sh shLocal shMeta : Shared)
    (ch chLocal chMeta : Choice) :
    let infos := enableInfos sha256 param sh.globalCapInfoMap shLocal.localCapInfoMap
      shMeta.globalMetaInfoMap
    let readCaps := taskBody sha256 id param sh ch .onLineReadCaps
    let readLocal := taskBody sha256 id param shLocal chLocal .onLineReadLocal
    readCaps = some (sh, .body (.createEnable infos)) ∨
      readCaps = some (sh, .body .onLineReadLocal) ∧
        (readLocal = some (shLocal, .body (.createEnable infos)) ∨
          readLocal = some (shLocal, .body .onLineReadMeta) ∧
            taskBody sha256 id param shMeta chMeta .onLineReadMeta =
              some (shMeta, .body (.createEnable infos))) := by
  simp only [taskBody, enableInfos]
  by_cases noCap : getCapabilitiesByDeviceId sh.globalCapInfoMap
      (getDeviceIdByUuid sha256 param.uuid) [] = []
  · refine .inr ⟨by simp [noCap, devDhInfosOf], ?_⟩
    by_cases noLocal : localGetCapabilitiesByDeviceId shLocal.localCapInfoMap
        (getDeviceIdByUuid sha256 param.uuid) [] = []
    · exact .inr ⟨by simp [noLocal, devDhInfosOf], by simp [noCap, noLocal, devDhInfosOf]⟩
    · exact .inl (by simp [noCap, noLocal, devDhInfosOf])
  · exact .inl (by simp [noCap, devDhInfosOf])

/-- Each entry of the list is an ENABLE task of the online task. -/
theorem taskBody_createEnable {id : TaskId} (sh : Shared) (ch : Choice) (info : String × DhType)
    (infos : List (String × DhType)) :
    taskBody sha256 id param sh ch (.createEnable (info :: infos)) =
      createThen sh ch .enable { param with dhId := info.1, dhType := info.2 } (some id)
        (.body (.createEnable infos)) := rfl

end Enabling

section Examples

private def hashText : String := String.ofList (List.replicate 64 'a')

private def onlyCamera : CapabilityInfo where
  dhId := "h"
  deviceId := hashText
  dhType := DhType.camera

private def oneCamera : CapabilityInfoMap :=
  (∅ : CapabilityInfoMap).insert onlyCamera.getKey onlyCamera

private def peerParam : TaskParam where
  networkId := "n"
  uuid := "u"
  udid := "i"

theorem oneCamera_enabled : EnablesOnce peerParam
    (createEnableTask (fun _ => hashText) peerParam oneCamera ∅ ∅)
    (FirstListed (fun _ => hashText) peerParam oneCamera ∅ ∅) := by
  have matched : isCapKeyMatchDeviceId onlyCamera.getKey
      (getDeviceIdByUuid (fun _ => hashText) peerParam.uuid) = true := by decide +kernel
  refine (enablesOnce_iff_listedOnce (by decide +kernel)).mpr (.inl ⟨?_, ?_⟩)
  · rw [Set.nonempty_iff_ne_empty.symm]
    exact ⟨_, onlyCamera.getKey, onlyCamera, Std.TreeMap.getElem?_insert_self, matched, rfl⟩
  · intro key key' cap cap' found found' _ _ _
    have only (k : String) (c : CapabilityInfo) (h : oneCamera[k]? = some c) :
        k = onlyCamera.getKey := by
      have mem := Std.TreeMap.mem_iff_isSome_getElem?.mpr (Option.isSome_of_eq_some h)
      rw [oneCamera, Std.TreeMap.mem_insert, Std.LawfulEqCmp.compare_eq_iff_eq] at mem
      exact (mem.resolve_right Std.TreeMap.not_mem_emptyc).symm
    rw [only key cap found, only key' cap' found']

/-- A camera that only the local registry lists is not enabled. -/
theorem exists_local_not_enabled : ∃ sha256 param caps localCaps metas,
    isHashSizeValid (sha256 param.udid) = true ∧
      FirstListed sha256 param caps localCaps metas ("h", DhType.camera) ∧
      createEnableTask sha256 param caps localCaps metas = [] ∧
      ¬ EnablesOnce param (createEnableTask sha256 param caps localCaps metas)
        (FirstListed sha256 param caps localCaps metas) := by
  have matched : isCapKeyMatchDeviceId onlyCamera.getKey
      (getDeviceIdByUuid (fun _ => hashText) peerParam.uuid) = true := by decide +kernel
  have hash : isHashSizeValid hashText = true := by decide +kernel
  have listed : FirstListed (fun _ => hashText) peerParam ∅ oneCamera ∅ ("h", DhType.camera) := by
    refine .inr ⟨?_, .inl ⟨onlyCamera.getKey, onlyCamera, Std.TreeMap.getElem?_insert_self,
      matched, rfl⟩⟩
    simp [Registered]
  have none : createEnableTask (fun _ => hashText) peerParam ∅ oneCamera ∅ = [] := by
    rw [createEnableTask, enableInfos_eq hash]
    simp [recordsOfDevice]
  refine ⟨fun _ => hashText, peerParam, ∅, oneCamera, ∅, hash, listed, none, ?_⟩
  intro once
  have counted := once.once _ listed
  rw [none] at counted
  cases counted

end Examples
end DistributedHardware
