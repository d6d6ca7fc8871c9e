import Mathlib.Data.List.Induction
import Mathlib.Logic.Function.Basic
import Std.Data.TreeMap.Lemmas

/-!
Sequences of writes to the keys of a map: `some v` stores a value and `none`
removes the key. `written` is the map they leave and `lastWrite` the last of them
to a key; a program that performs its writes one by one on a tree map ends with
the map of its writes. An operation that also removes by a test of the keys is
still keywise: what it leaves under a key it either found there or leaves in every
map.
-/

universe u v

namespace Writes
variable {κ : Type u} {ν : Type v} [DecidableEq κ]

def written (base : κ → Option ν) (writes : List (κ × Option ν)) : κ → Option ν :=
  writes.foldl (fun m w => Function.update m w.1 w.2) base

def lastWrite (writes : List (κ × Option ν)) (k : κ) : Option (Option ν) :=
  (writes.reverse.find? (fun w => w.1 = k)).map Prod.snd

@[simp] theorem written_nil (base : κ → Option ν) : written base [] = base := rfl

theorem written_cons (base : κ → Option ν) (w : κ × Option ν) (writes : List (κ × Option ν)) :
    written base (w :: writes) = written (Function.update base w.1 w.2) writes := rfl

theorem written_append (base : κ → Option ν) (writes writes' : List (κ × Option ν)) :
    written base (writes ++ writes') = written (written base writes) writes' :=
  List.foldl_append

/-- Each key holds what was last written to it. -/
theorem written_eq_lastWrite (base : κ → Option ν) (writes : List (κ × Option ν)) (k : κ) :
    written base writes k = (lastWrite writes k).getD (base k) := by
  induction writes using List.reverseRecOn with
  | nil => rfl
  | append_singleton writes w ih =>
      rw [written_append, lastWrite, List.reverse_append]
      by_cases hk : w.1 = k
      · subst hk
        simp [written]
      · have hne : k ≠ w.1 := fun heq => hk heq.symm
        simp only [List.reverse_singleton, List.singleton_append,
          List.find?_cons_of_neg (p := fun w : κ × Option ν => decide (w.1 = k))
            (by simpa using hk)]
        rw [written, List.foldl_cons, List.foldl_nil, Function.update_of_ne hne]
        exact ih

/-- A key is missing after removals only if it was missing or is among them. -/
theorem written_removals (base : κ → Option ν) (keys : List κ) (k : κ) :
    written base (keys.map (fun key => (key, none))) k = if k ∈ keys then none else base k := by
  induction keys generalizing base with
  | nil => rfl
  | cons key keys ih =>
      rw [List.map_cons, written_cons, ih]
      by_cases hk : k = key <;> simp [hk]

section TreeMap
variable {cmp : κ → κ → Ordering} [Std.TransCmp cmp] [Std.LawfulEqCmp cmp]

theorem getElem?_insert (map : Std.TreeMap κ ν cmp) (key : κ) (value : ν) :
    (fun k => (map.insert key value)[k]?) =
      Function.update (fun k => map[k]?) key (some value) := by
  funext k
  rw [Std.TreeMap.getElem?_insert]
  by_cases h : k = key
  · subst h
    simp
  · have hne : cmp key k ≠ .eq := fun heq => h (Std.LawfulEqCmp.eq_of_compare heq).symm
    rw [if_neg hne, Function.update_of_ne h]

theorem getElem?_erase (map : Std.TreeMap κ ν cmp) (key : κ) :
    (fun k => (map.erase key)[k]?) = Function.update (fun k => map[k]?) key none := by
  funext k
  rw [Std.TreeMap.getElem?_erase]
  by_cases h : k = key
  · subst h
    simp
  · have hne : cmp key k ≠ .eq := fun heq => h (Std.LawfulEqCmp.eq_of_compare heq).symm
    rw [if_neg hne, Function.update_of_ne h]

omit [DecidableEq κ] [Std.LawfulEqCmp cmp] in
theorem getElem?_eq_none_iff (map : Std.TreeMap κ ν cmp) (key : κ) :
    map[key]? = none ↔ key ∉ map := by
  rw [Std.TreeMap.mem_iff_isSome_getElem?]
  simp

end TreeMap

section Records
variable {ρ : Type*} (key : ρ → κ)

/-- The last of the records under a key. -/
def lastRecord (records : List ρ) (k : κ) : Option ρ :=
  records.reverse.find? (fun r => key r = k)

variable {key}

theorem lastRecord_append_singleton (records : List ρ) (r : ρ) (k : κ) :
    lastRecord key (records ++ [r]) k = if key r = k then some r else lastRecord key records k := by
  rw [lastRecord, List.reverse_append, List.reverse_singleton, List.singleton_append,
    List.find?_cons]
  by_cases hk : key r = k <;> simp [hk, lastRecord]

theorem lastRecord_eq_none_iff {records : List ρ} {k : κ} :
    lastRecord key records k = none ↔ k ∉ records.map key := by
  simp [lastRecord]

theorem lastRecord_eq_some {records : List ρ} {k : κ} {r : ρ}
    (h : lastRecord key records k = some r) : r ∈ records ∧ key r = k :=
  ⟨List.mem_reverse.mp (List.mem_of_find?_eq_some h), by simpa using List.find?_some h⟩

/-- Insertions one after the other leave the last record under each key. -/
theorem getElem?_foldl_insert {cmp : κ → κ → Ordering} [Std.TransCmp cmp] [Std.LawfulEqCmp cmp]
    (value : ρ → ν) (map : Std.TreeMap κ ν cmp) (records : List ρ) (k : κ) :
    (records.foldl (fun m r => m.insert (key r) (value r)) map)[k]? =
      ((lastRecord key records k).map value).or map[k]? := by
  induction records using List.reverseRecOn with
  | nil => rfl
  | append_singleton records r ih =>
      rw [List.foldl_append, List.foldl_cons, List.foldl_nil, lastRecord_append_singleton,
        Std.TreeMap.getElem?_insert]
      by_cases hk : key r = k
      · rw [if_pos hk, if_pos (Std.LawfulEqCmp.compare_eq_iff_eq.mpr hk)]
        rfl
      · rw [if_neg hk, if_neg (fun heq => hk (Std.LawfulEqCmp.eq_of_compare heq)), ih]

end Records

section Keywise
variable {σ : Type*} {ω : Type*} {read : σ → κ → Option ν} {ok : κ → ν → Prop}

/-- Under each key the operation leaves what it found, or the same in every state; what
it leaves of its own is `ok` there. -/
def Keywise (ok : κ → ν → Prop) (read : σ → κ → Option ν) (op : σ → σ) : Prop :=
  ∀ k, (∀ s, read (op s) k = read s k) ∨
    ∃ v, (∀ x ∈ v, ok k x) ∧ ∀ s, read (op s) k = v

omit [DecidableEq κ]

theorem Keywise.of_eq {op : σ → σ} (h : ∀ s, read (op s) = read s) : Keywise ok read op :=
  fun k => .inl (fun s => congrFun (h s) k)

theorem Keywise.id : Keywise ok read (fun s => s) := .of_eq (fun _ => rfl)

theorem Keywise.comp {f g : σ → σ} (hg : Keywise ok read g) (hf : Keywise ok read f) :
    Keywise ok read (fun s => g (f s)) := by
  intro k
  obtain same | ⟨v, hok, hv⟩ := hg k
  · obtain same' | ⟨v, hok, hv⟩ := hf k
    · exact .inl (fun s => (same (f s)).trans (same' s))
    · exact .inr ⟨v, hok, fun s => (same (f s)).trans (hv s)⟩
  · exact .inr ⟨v, hok, fun s => hv (f s)⟩

theorem Keywise.ite {c : Prop} [Decidable c] {f g : σ → σ} (hf : Keywise ok read f)
    (hg : Keywise ok read g) : Keywise ok read (fun s => if c then f s else g s) := by
  split
  · exact hf
  · exact hg

theorem Keywise.foldl {f : σ → ω → σ} {xs : List ω}
    (h : ∀ x ∈ xs, Keywise ok read (fun s => f s x)) :
    Keywise ok read (fun s => xs.foldl f s) := by
  induction xs with
  | nil => exact .id
  | cons x xs ih =>
      exact Keywise.comp (ih (fun y hy => h y (List.mem_cons_of_mem _ hy)))
        (h x List.mem_cons_self)

theorem Keywise.update [DecidableEq κ] {op : σ → σ} {key : κ} {value : Option ν}
    (hok : ∀ x ∈ value, ok key x)
    (h : ∀ s, read (op s) = Function.update (read s) key value) : Keywise ok read op := by
  intro k
  by_cases hk : k = key
  · exact .inr ⟨value, hk ▸ hok, fun s => by rw [h, hk, Function.update_self]⟩
  · exact .inl (fun s => by rw [h, Function.update_of_ne hk])

/-- What the operation leaves it found, or it leaves it in an empty map too. -/
theorem Keywise.found_or_left {op : σ → σ} (h : Keywise ok read op) {s : σ} (empty : σ) {k : κ}
    {v : ν} (hv : read (op s) k = some v) :
    read s k = some v ∨ read (op empty) k = some v := by
  obtain same | ⟨w, -, hw⟩ := h k
  · exact .inl ((same s).symm.trans hv)
  · exact .inr ((hw empty).trans ((hw s).symm.trans hv))

theorem Keywise.left {op : σ → σ} (h : Keywise ok read op) (s : σ) {empty : σ}
    (hempty : ∀ k, read empty k = none) {k : κ} {v : ν} (hv : read (op empty) k = some v) :
    read (op s) k = some v := by
  obtain same | ⟨w, -, hw⟩ := h k
  · rw [same, hempty] at hv
    cases hv
  · exact (hw s).trans ((hw empty).symm.trans hv)

theorem Keywise.preserves {op : σ → σ} (h : Keywise ok read op) {s : σ}
    (hs : ∀ k v, read s k = some v → ok k v) {k : κ} {v : ν} (hv : read (op s) k = some v) :
    ok k v := by
  obtain same | ⟨w, hok, hw⟩ := h k
  · exact hs k v ((same s).symm.trans hv)
  · exact hok v ((hw s).symm.trans hv)

end Keywise
end Writes
