import Mathlib.Data.List.AList

/-!
Finite stores: partial maps with finitely many keys, read by `get` and changed
by `set` and `modify`. They are Mathlib's association lists with unique keys;
the lemmas below are the reads after each write, in the form the simplifier
uses.
-/

universe u v

abbrev Store (κ : Type u) (ν : Type v) := AList (fun _ : κ => ν)

namespace Store
variable {κ : Type u} {ν : Type v} [DecidableEq κ]

def get (m : Store κ ν) (k : κ) : Option ν := m.lookup k

def set (m : Store κ ν) (k : κ) (v : ν) : Store κ ν := m.insert k v

/-- Changes the value under a key, where there is one. -/
def modify (m : Store κ ν) (k : κ) (f : ν → ν) : Store κ ν :=
  match m.get k with
  | some v => m.set k (f v)
  | none => m

@[simp] theorem get_empty (k : κ) : get (∅ : Store κ ν) k = none := rfl

@[simp] theorem get_set (m : Store κ ν) (k k' : κ) (v : ν) :
    (m.set k v).get k' = if k' = k then some v else m.get k' := by
  by_cases h : k' = k
  · subst h
    simp [get, set]
  · simp [get, set, AList.lookup_insert_ne h, h]

@[simp] theorem get_modify (m : Store κ ν) (k k' : κ) (f : ν → ν) :
    (m.modify k f).get k' = if k' = k then (m.get k).map f else m.get k' := by
  unfold modify
  cases h : m.get k with
  | none =>
      by_cases hk : k' = k
      · simp [hk, h]
      · simp [hk]
  | some v => simp

@[simp] theorem get_erase (m : Store κ ν) (k k' : κ) :
    get (m.erase k) k' = if k' = k then none else m.get k' := by
  by_cases h : k' = k
  · subst h
    simp [get]
  · simp [get, AList.lookup_erase_ne h, h]

theorem get_foldl_set (keys : List κ) (m : Store κ ν) (k : κ) (v : ν) :
    (keys.foldl (fun m k => m.set k v) m).get k = if k ∈ keys then some v else m.get k := by
  induction keys generalizing m with
  | nil => simp
  | cons k' keys ih =>
      rw [List.foldl_cons, ih, get_set]
      by_cases mem : k ∈ keys
      · simp [mem]
      · simp [mem]

theorem get_foldl_erase (keys : List κ) (m : Store κ ν) (k : κ) :
    get (keys.foldl (fun m k => m.erase k) m) k = if k ∈ keys then none else m.get k := by
  induction keys generalizing m with
  | nil => simp
  | cons k' keys ih =>
      rw [List.foldl_cons, ih, get_erase]
      by_cases mem : k ∈ keys
      · simp [mem]
      · simp [mem]

theorem mem_keys_iff (m : Store κ ν) (k : κ) : k ∈ m.keys ↔ ∃ v, m.get k = some v := by
  rw [← AList.mem_keys, ← AList.lookup_isSome, Option.isSome_iff_exists]
  rfl

end Store
