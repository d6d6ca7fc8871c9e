import Std.Data.TreeSet
import Mathlib.Order.Compare
import DistributedHardware.Common.Ids

/-!
The online device table of `DHContext` and its lookups.

The table is a `std::set` ordered on the whole entry, so two entries may share a
network id or a uuid; every lookup scans it in that order and takes the first
match. Each function is one section of `onlineDevMutex_`.
-/

namespace DistributedHardware

structure DeviceIdEntry where
  networkId : String
  uuid : String
  deviceId : String
  udid : String
  udidHash : String
  deriving DecidableEq

/-- `operator <` of the entries, field by field. -/
def DeviceIdEntry.compare : DeviceIdEntry → DeviceIdEntry → Ordering :=
  compareLex (compareOn networkId) (compareLex (compareOn uuid)
    (compareLex (compareOn deviceId) (compareLex (compareOn udid) (compareOn udidHash))))

instance : Std.TransCmp DeviceIdEntry.compare :=
  inferInstanceAs (Std.TransCmp (compareLex _ _))

theorem DeviceIdEntry.compare_eq_iff (a b : DeviceIdEntry) :
    DeviceIdEntry.compare a b = .eq ↔ a = b := by
  cases a
  cases b
  simp [DeviceIdEntry.compare, compareLex_eq_eq, compareOn]

instance : Std.LawfulEqCmp DeviceIdEntry.compare :=
  ⟨fun h => (DeviceIdEntry.compare_eq_iff _ _).mp h⟩

abbrev DeviceIdEntrySet := Std.TreeSet DeviceIdEntry DeviceIdEntry.compare

/-- The entry `AddOnlineDevice` builds for a device. -/
def onlineEntry (sha256 : String → String) (udid uuid networkId : String) : DeviceIdEntry where
  networkId := networkId
  uuid := uuid
  deviceId := sha256 uuid
  udid := udid
  udidHash := sha256 udid

def addOnlineDevice (sha256 : String → String) (udid uuid networkId : String)
    (set : DeviceIdEntrySet) : DeviceIdEntrySet :=
  if !isIdLengthValid udid || !isIdLengthValid uuid || !isIdLengthValid networkId then set
  else if set.size > maxOnlineDeviceSize then set
  else set.insert (onlineEntry sha256 udid uuid networkId)

def removeOnlineDeviceIdEntryByNetworkId (networkId : String) (set : DeviceIdEntrySet) :
    DeviceIdEntrySet :=
  if !isIdLengthValid networkId then set
  else
    match set.toList.find? (fun e => e.networkId == networkId) with
    | some e => set.erase e
    | none => set

def isDeviceOnline (uuid : String) (set : DeviceIdEntrySet) : Bool :=
  if !isIdLengthValid uuid then false else set.toList.any (fun e => e.uuid == uuid)

/-- The lookups of the table: the wanted field of the first entry that matches,
or the empty string. -/
def lookupEntry (id : String) (isMatch : DeviceIdEntry → Bool) (field : DeviceIdEntry → String)
    (set : DeviceIdEntrySet) : String :=
  if !isIdLengthValid id then ""
  else
    match set.toList.find? isMatch with
    | some e => field e
    | none => ""

def getNetworkIdByUuid (uuid : String) : DeviceIdEntrySet → String :=
  lookupEntry uuid (fun e => e.uuid == uuid) DeviceIdEntry.networkId

def getUdidHashIdByUuid (uuid : String) : DeviceIdEntrySet → String :=
  lookupEntry uuid (fun e => e.uuid == uuid) DeviceIdEntry.udidHash

def getUuidByNetworkId (networkId : String) : DeviceIdEntrySet → String :=
  lookupEntry networkId (fun e => e.networkId == networkId) DeviceIdEntry.uuid

def getUuidByDeviceId (deviceId : String) : DeviceIdEntrySet → String :=
  lookupEntry deviceId (fun e => e.deviceId == deviceId || e.udidHash == deviceId)
    DeviceIdEntry.uuid

private theorem mem_insert_entry (set : DeviceIdEntrySet) (x e : DeviceIdEntry) :
    e ∈ set.insert x ↔ e = x ∨ e ∈ set := by
  rw [Std.TreeSet.mem_insert, DeviceIdEntry.compare_eq_iff, eq_comm]

theorem isDeviceOnline_iff {uuid : String} (valid : isIdLengthValid uuid = true)
    (set : DeviceIdEntrySet) :
    isDeviceOnline uuid set = true ↔ ∃ e ∈ set, e.uuid = uuid := by
  simp [isDeviceOnline, valid, Std.TreeSet.mem_toList]

/-- Adding a device to a table with room adds its entry and nothing else. -/
theorem mem_addOnlineDevice {sha256 : String → String} {udid uuid networkId : String}
    (hd : isIdLengthValid udid = true) (hu : isIdLengthValid uuid = true)
    (hn : isIdLengthValid networkId = true) {set : DeviceIdEntrySet}
    (room : set.size ≤ maxOnlineDeviceSize) (e : DeviceIdEntry) :
    e ∈ addOnlineDevice sha256 udid uuid networkId set ↔
      e = onlineEntry sha256 udid uuid networkId ∨ e ∈ set := by
  simp only [addOnlineDevice, hd, hu, hn, Nat.not_lt.mpr room, Bool.not_true, Bool.or_self,
    Bool.false_eq_true, if_false]
  exact mem_insert_entry set _ e

/-- Whatever the table, only the device's own entry can be new in it. -/
theorem mem_of_mem_addOnlineDevice {sha256 : String → String} {udid uuid networkId : String}
    {set : DeviceIdEntrySet} {e : DeviceIdEntry}
    (h : e ∈ addOnlineDevice sha256 udid uuid networkId set) :
    e = onlineEntry sha256 udid uuid networkId ∨ e ∈ set := by
  unfold addOnlineDevice at h
  split at h
  · exact .inr h
  · split at h
    · exact .inr h
    · exact (mem_insert_entry _ _ _).mp h

theorem mem_addOnlineDevice_of_mem {sha256 : String → String} {udid uuid networkId : String}
    {set : DeviceIdEntrySet} {e : DeviceIdEntry} (h : e ∈ set) :
    e ∈ addOnlineDevice sha256 udid uuid networkId set := by
  unfold addOnlineDevice
  split
  · exact h
  · split
    · exact h
    · exact (mem_insert_entry _ _ _).mpr (.inr h)

theorem mem_of_mem_removeOnline {networkId : String} {set : DeviceIdEntrySet}
    {e : DeviceIdEntry} (h : e ∈ removeOnlineDeviceIdEntryByNetworkId networkId set) :
    e ∈ set := by
  unfold removeOnlineDeviceIdEntryByNetworkId at h
  split at h
  · exact h
  · split at h
    · exact (Std.TreeSet.mem_erase.mp h).2
    · exact h

/-- Entries under other network ids stay. -/
theorem mem_removeOnline_of_ne {networkId : String} {set : DeviceIdEntrySet}
    {e : DeviceIdEntry} (ne : e.networkId ≠ networkId) (h : e ∈ set) :
    e ∈ removeOnlineDeviceIdEntryByNetworkId networkId set := by
  unfold removeOnlineDeviceIdEntryByNetworkId
  split
  · exact h
  · split
    · rename_i found hf
      have hfound : found.networkId = networkId := by simpa using List.find?_some hf
      refine Std.TreeSet.mem_erase.mpr ⟨fun heq => ne ?_, h⟩
      rw [← (DeviceIdEntry.compare_eq_iff _ _).mp heq, hfound]
    · exact h

/-- Where one entry has the network id, removing it leaves none. -/
theorem not_mem_removeOnline {networkId : String} (valid : isIdLengthValid networkId = true)
    {set : DeviceIdEntrySet} {e : DeviceIdEntry} (he : e.networkId = networkId)
    (unique : ∀ x ∈ set, x.networkId = networkId → x = e) :
    e ∉ removeOnlineDeviceIdEntryByNetworkId networkId set := by
  intro h
  simp only [removeOnlineDeviceIdEntryByNetworkId, valid] at h
  cases hf : set.toList.find? (fun x => x.networkId == networkId) with
  | none =>
      simp only [hf] at h
      have := List.find?_eq_none.mp hf e (Std.TreeSet.mem_toList.mpr h)
      simp [he] at this
  | some found =>
      simp only [hf] at h
      have hmem : found ∈ set := Std.TreeSet.mem_toList.mp (List.mem_of_find?_eq_some hf)
      have hid : found.networkId = networkId := by simpa using List.find?_some hf
      have := unique found hmem hid
      subst this
      exact (Std.TreeSet.mem_erase.mp h).1 ((DeviceIdEntry.compare_eq_iff _ _).mpr rfl)

/-- A lookup whose matches agree finds what they say. -/
theorem lookupEntry_eq {id : String} (valid : isIdLengthValid id = true)
    {isMatch : DeviceIdEntry → Bool} {field : DeviceIdEntry → String} {set : DeviceIdEntrySet}
    {e : DeviceIdEntry} (he : e ∈ set) (hm : isMatch e = true)
    (unique : ∀ x ∈ set, isMatch x = true → x = e) :
    lookupEntry id isMatch field set = field e := by
  simp only [lookupEntry, valid, Bool.not_true, Bool.false_eq_true, if_false]
  cases hf : set.toList.find? isMatch with
  | none => exact absurd hm (List.find?_eq_none.mp hf e (Std.TreeSet.mem_toList.mpr he))
  | some found =>
      have hmem : found ∈ set := Std.TreeSet.mem_toList.mp (List.mem_of_find?_eq_some hf)
      have := unique found hmem (List.find?_some hf)
      simp only [this]

end DistributedHardware
