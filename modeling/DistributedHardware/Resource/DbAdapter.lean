import Std.Data.TreeMap
import DistributedHardware.Library.Writes
import DistributedHardware.Common.Ids

/-!
The reads and writes of `DBAdapter` by key, on a KV store whose own operations succeed.

The single reads and removals check the length of their key; the batch write checks
the lengths of its two lists only.
-/

namespace DistributedHardware

abbrev KvStore := Std.TreeMap String String compare

namespace KvStore

def getDataByKey (db : KvStore) (key : String) : Except Int String :=
  if !isIdLengthValid key then .error errDhFwkParaInvalid
  else
    match db[key]? with
    | none => .error errDhFwkResourceKvStorageOperationFail
    | some data => .ok data

def putDataBatch (db : KvStore) (keys values : List String) : Int × KvStore :=
  if !isArrayLengthValid keys || !isArrayLengthValid values then (errDhFwkParaInvalid, db)
  else if keys.length ≠ values.length then (errDhFwkParaInvalid, db)
  else (dhFwkSuccess, db.insertMany (keys.zip values))

def removeDataByKey (db : KvStore) (key : String) : Int × KvStore :=
  if !isIdLengthValid key then (errDhFwkParaInvalid, db)
  else (dhFwkSuccess, db.erase key)

theorem mem_of_getDataByKey {db : KvStore} {key data : String}
    (h : db.getDataByKey key = .ok data) : key ∈ db := by
  unfold getDataByKey at h
  split at h
  · cases h
  · rw [Std.TreeMap.mem_iff_isSome_getElem?]
    cases hdata : db[key]? with
    | none => simp [hdata] at h
    | some data => rfl

/-- A batch that fits adds its keys. -/
theorem mem_putDataBatch {db : KvStore} {keys values : List String}
    (hkeys : isArrayLengthValid keys = true) (hlen : keys.length = values.length) {key : String} :
    key ∈ (db.putDataBatch keys values).2 ↔ key ∈ keys ∨ key ∈ db := by
  have hvalues : isArrayLengthValid values = true := by
    cases keys with
    | nil => simp [isArrayLengthValid] at hkeys
    | cons k keys =>
        cases values with
        | nil => simp at hlen
        | cons v values => simpa [isArrayLengthValid, ← hlen] using hkeys
  rw [putDataBatch, hkeys, hvalues, if_neg (by simp), if_neg (not_not.mpr hlen),
    Std.TreeMap.mem_insertMany_list, List.map_fst_zip (Nat.le_of_eq hlen), or_comm,
    List.contains_iff_mem]

theorem putDataBatch_success {ρ : Type} (key value : ρ → String) (db : KvStore)
    {records : List ρ} (hkeys : isArrayLengthValid (records.map key) = true) :
    (db.putDataBatch (records.map key) (records.map value)).1 = dhFwkSuccess := by
  have hvalues : isArrayLengthValid (records.map value) = true := by
    simpa [isArrayLengthValid] using hkeys
  rw [putDataBatch, hkeys, hvalues, if_neg (by simp), if_neg (by simp)]

/-- A batch that fits leaves the last of its values under each of its keys. -/
theorem getElem?_putDataBatch {ρ : Type} (key value : ρ → String) (db : KvStore)
    {records : List ρ} (hkeys : isArrayLengthValid (records.map key) = true) (k : String) :
    (db.putDataBatch (records.map key) (records.map value)).2[k]? =
      ((Writes.lastRecord key records k).map value).or db[k]? := by
  have hvalues : isArrayLengthValid (records.map value) = true := by
    simpa [isArrayLengthValid] using hkeys
  have inserted : (db.insertMany (records.map (fun r => (key r, value r)))).Equiv
      (records.foldl (fun m r => m.insert (key r) (value r)) db) := by
    simpa only [List.foldl_map] using
      Std.TreeMap.insertMany_list_equiv_foldl (l := records.map (fun r => (key r, value r)))
  rw [putDataBatch, hkeys, hvalues, if_neg (by simp), if_neg (by simp), List.zip_map',
    inserted.getElem?_eq]
  exact Writes.getElem?_foldl_insert value db records k

/-- Where the records that are stored already are left out, the keys of all are there. -/
theorem mem_putFresh {ρ : Type} (key value : ρ → String) (stored : ρ → Bool) {db : KvStore}
    {records : List ρ} (hstored : ∀ r, stored r = true → key r ∈ db)
    (fits : records.length ≤ maxArrSize) {k : String} :
    k ∈ (if (records.filter (fun r => !stored r)).isEmpty then db
        else (db.putDataBatch ((records.filter (fun r => !stored r)).map key)
          ((records.filter (fun r => !stored r)).map value)).2) ↔
      k ∈ records.map key ∨ k ∈ db := by
  have fresh : k ∈ (records.filter (fun r => !stored r)).map key ∨ k ∈ db ↔
      k ∈ records.map key ∨ k ∈ db := by
    constructor
    · rintro (hk | hk)
      · obtain ⟨r, hr, rfl⟩ := List.mem_map.mp hk
        exact .inl (List.mem_map_of_mem (List.mem_filter.mp hr).1)
      · exact .inr hk
    · rintro (hk | hk)
      · obtain ⟨r, hr, rfl⟩ := List.mem_map.mp hk
        cases h : stored r with
        | true => exact .inr (hstored r h)
        | false => exact .inl (List.mem_map_of_mem (List.mem_filter.mpr ⟨hr, by simp [h]⟩))
      · exact .inr hk
  have hlen := (List.length_filter_le (fun r => !stored r) records).trans fits
  rw [← fresh]
  generalize records.filter (fun r => !stored r) = new at hlen ⊢
  cases new with
  | nil => simp
  | cons r new =>
      refine mem_putDataBatch ?_ (by simp)
      simpa [isArrayLengthValid] using hlen

theorem mem_removeDataByKey {db : KvStore} {key other : String}
    (valid : isIdLengthValid key = true) :
    other ∈ (db.removeDataByKey key).2 ↔ other ≠ key ∧ other ∈ db := by
  rw [removeDataByKey, valid, if_neg (by simp), Std.TreeMap.mem_erase]
  refine and_congr_left (fun _ => ?_)
  rw [ne_eq, Std.LawfulEqCmp.compare_eq_iff_eq, ne_comm]

end KvStore
end DistributedHardware
