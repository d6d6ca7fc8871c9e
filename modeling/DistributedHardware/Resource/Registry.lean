import Std.Data.TreeMap
import DistributedHardware.Library.Writes
import DistributedHardware.Resource.CapabilityInfo

/-!
The in-memory maps of the capability, local capability and meta registries.

They are `std::map`s under the records' keys, scanned in key order. The device
scan of the local registry returns at once when the caller's vector is empty,
unlike that of the capability registry.
-/

namespace DistributedHardware

abbrev CapabilityInfoMap := Std.TreeMap String CapabilityInfo compare
abbrev MetaCapInfoMap := Std.TreeMap String MetaCapabilityInfo compare

/-- The records whose key starts with the device id before the separator. -/
def recordsOfDevice {T : Type} (map : Std.TreeMap String T compare) (deviceId : String) :
    List T :=
  map.toList.filterMap (fun (key, cap) =>
    if isCapKeyMatchDeviceId key deviceId then some cap else none)

/-- `CapabilityInfoManager::GetCapabilitiesByDeviceId`. -/
def getCapabilitiesByDeviceId (map : CapabilityInfoMap) (deviceId : String)
    (resInfos : List CapabilityInfo) : List CapabilityInfo :=
  if !isIdLengthValid deviceId then resInfos else resInfos ++ recordsOfDevice map deviceId

/-- `LocalCapabilityInfoManager::GetCapabilitiesByDeviceId`. -/
def localGetCapabilitiesByDeviceId (map : CapabilityInfoMap) (deviceId : String)
    (resInfos : List CapabilityInfo) : List CapabilityInfo :=
  if !isIdLengthValid deviceId || resInfos.isEmpty || resInfos.length > maxDbRecordSize then
    resInfos
  else resInfos ++ recordsOfDevice map deviceId

/-- `MetaInfoManager::GetMetaCapInfosByUdidHash`. -/
def getMetaCapInfosByUdidHash (map : MetaCapInfoMap) (udidHash : String)
    (metaCapInfos : List MetaCapabilityInfo) : List MetaCapabilityInfo :=
  if !isHashSizeValid udidHash then metaCapInfos
  else metaCapInfos ++ recordsOfDevice map udidHash

/-- `CapabilityInfoManager::RemoveCapabilityInfoInMem`, with its return code. -/
def removeCapabilityInfoInMem (map : CapabilityInfoMap) (deviceId : String) :
    Int × CapabilityInfoMap :=
  if !isIdLengthValid deviceId then (errDhFwkParaInvalid, map)
  else (dhFwkSuccess, map.filter (fun key _ => !isCapKeyMatchDeviceId key deviceId))

/-- The loop of a sync from the DB: each decoded record goes in under its key. -/
def saveRecords {T : Type} (key : T → String) (map : Std.TreeMap String T compare)
    (records : List T) : Std.TreeMap String T compare :=
  records.foldl (fun m cap => m.insert (key cap) cap) map

theorem getElem?_saveRecords {T : Type} (key : T → String) (map : Std.TreeMap String T compare)
    (records : List T) (k : String) :
    (saveRecords key map records)[k]? = (Writes.lastRecord key records k).or map[k]? := by
  rw [saveRecords, Writes.getElem?_foldl_insert (fun cap => cap), Option.map_id']

theorem mem_saveRecords {T : Type} {key : T → String} {map : Std.TreeMap String T compare}
    {records : List T} {k : String} :
    k ∈ saveRecords key map records ↔ k ∈ records.map key ∨ k ∈ map := by
  rw [Std.TreeMap.mem_iff_isSome_getElem?, getElem?_saveRecords, Option.isSome_or, Bool.or_eq_true,
    ← Std.TreeMap.mem_iff_isSome_getElem?]
  refine or_congr_left ?_
  rw [Option.isSome_iff_ne_none, ne_eq, Writes.lastRecord_eq_none_iff, not_not]

end DistributedHardware
