import Mathlib.Data.Finset.Sort
import DistributedHardware.Common.Ids
import DistributedHardware.InnerKits.SaManager
import DistributedHardware.Library.Transition

/-!
The listeners of a `PublisherItem`.

The set of listeners is ordered by the addresses of the proxies, and a removal erases the first
one whose remote object is that of its argument. A listener may come in as another proxy of a
remote object that is there already; one in the service itself has no remote object.
-/

namespace DistributedHardware

structure PublisherItem (Proxy : Type*) where
  topic : DHTopic
  listeners : Finset Proxy := ∅

/-- A call of `OnMessage`. -/
structure OnMessage (Proxy : Type*) where
  listener : Proxy
  topic : DHTopic
  message : String

namespace PublisherItem
variable {Proxy Remote : Type*} [LinearOrder Proxy] [DecidableEq Remote]

def addListener (item : PublisherItem Proxy) : Option Proxy → PublisherItem Proxy
  | none => item
  | some listener => { item with listeners := insert listener item.listeners }

/-- The first listener, in the order of the set, that has the same remote object. -/
def firstOf (asObject : Proxy → Option Remote) (item : PublisherItem Proxy) (listener : Proxy) :
    Option Proxy :=
  (item.listeners.sort (· ≤ ·)).find? (fun lis => asObject lis = asObject listener)

def removeListener (asObject : Proxy → Option Remote) (item : PublisherItem Proxy) :
    Option Proxy → PublisherItem Proxy
  | none => item
  | some listener =>
      match item.firstOf asObject listener with
      | none => item
      | some lis => { item with listeners := item.listeners.erase lis }

def publishMessage (item : PublisherItem Proxy) (message : String) : List (OnMessage Proxy) :=
  if !isMessageLengthValid message then []
  else (item.listeners.sort (· ≤ ·)).map (fun listener => ⟨listener, item.topic, message⟩)

variable {asObject : Proxy → Option Remote} {item : PublisherItem Proxy} {listener : Proxy}

theorem firstOf_eq_none (h : item.firstOf asObject listener = none) :
    ∀ lis ∈ item.listeners, asObject lis ≠ asObject listener := by
  intro lis mem
  simpa using List.find?_eq_none.mp h lis ((Finset.mem_sort _).mpr mem)

theorem firstOf_eq_some {first : Proxy} (h : item.firstOf asObject listener = some first) :
    first ∈ item.listeners ∧ asObject first = asObject listener ∧
      ∀ lis ∈ item.listeners, asObject lis = asObject listener → first ≤ lis := by
  obtain ⟨same, before, after, sorted, earlier⟩ := List.find?_eq_some_iff_append.mp h
  have ordered := item.listeners.pairwise_sort (· ≤ ·)
  rw [sorted, List.pairwise_append, List.pairwise_cons] at ordered
  have mem (lis : Proxy) : lis ∈ item.listeners ↔ lis ∈ before ++ first :: after := by
    rw [← sorted, Finset.mem_sort]
  refine ⟨(mem first).mpr (by simp), by simpa using same, ?_⟩
  intro lis hlis matching
  rcases List.mem_append.mp ((mem lis).mp hlis) with hlis | hlis
  · exact absurd matching (by simpa using earlier lis hlis)
  · rcases List.mem_cons.mp hlis with rfl | hlis
    · exact le_rfl
    · exact ordered.2.1.1 lis hlis

theorem firstOf_eq_some_iff {first : Proxy} : item.firstOf asObject listener = some first ↔
    first ∈ item.listeners ∧ asObject first = asObject listener ∧
      ∀ lis ∈ item.listeners, asObject lis = asObject listener → first ≤ lis := by
  refine ⟨firstOf_eq_some, ?_⟩
  rintro ⟨mem, same, least⟩
  cases found : item.firstOf asObject listener with
  | none => exact absurd same (firstOf_eq_none found first mem)
  | some lis =>
      obtain ⟨mem', same', least'⟩ := firstOf_eq_some found
      rw [le_antisymm (least' first mem same) (least lis mem' same')]

end PublisherItem

/-- Whom a proxy stands for: its remote object, or itself where it has none. -/
inductive Recipient (Proxy Remote : Type*)
  | remote (object : Remote)
  | inService (listener : Proxy)
  deriving DecidableEq

section Recipients
variable {Proxy Remote : Type*} {asObject : Proxy → Option Remote} {l l' : Proxy}

def recipientOf (asObject : Proxy → Option Remote) (listener : Proxy) : Recipient Proxy Remote :=
  match asObject listener with
  | some object => .remote object
  | none => .inService listener

theorem recipientOf_eq_iff (same : asObject l = asObject l') :
    recipientOf asObject l = recipientOf asObject l' ↔ (asObject l' = none → l = l') := by
  unfold recipientOf
  rw [same]
  cases asObject l' <;> simp

theorem asObject_eq_of_recipientOf (same : recipientOf asObject l = recipientOf asObject l') :
    asObject l = asObject l' := by
  unfold recipientOf at same
  cases hl : asObject l <;> cases hl' : asObject l' <;> simp_all

end Recipients

/-- An item, and those that were added and not removed since. -/
structure Publishing (Proxy Remote : Type*) where
  item : PublisherItem Proxy
  registered : Finset (Recipient Proxy Remote) := ∅

inductive PublisherItemAct (Proxy : Type*)
  | addListener (listener : Option Proxy)
  | removeListener (listener : Option Proxy)
  | publishMessage (message : String)

namespace Publishing
variable {Proxy Remote : Type*} [LinearOrder Proxy] [DecidableEq Remote]
variable (asObject : Proxy → Option Remote)

def step (s : Publishing Proxy Remote) : PublisherItemAct Proxy → Option (Publishing Proxy Remote)
  | .addListener listener =>
      some
        { item := s.item.addListener listener
          registered := listener.elim s.registered
            (fun l => insert (recipientOf asObject l) s.registered) }
  | .removeListener listener =>
      some
        { item := s.item.removeListener asObject listener
          registered := listener.elim s.registered
            (fun l => s.registered.erase (recipientOf asObject l)) }
  | .publishMessage _ => some s

/-- A message published now reaches those registered, each once, and nobody else. -/
def ReachesRegistered (s : Publishing Proxy Remote) : Prop :=
  ∀ message, isMessageLengthValid message = true → ∀ recipient,
    ((s.item.publishMessage message).map (fun call => recipientOf asObject call.listener)).count
      recipient = if recipient ∈ s.registered then 1 else 0

/-- No second proxy of a remote object is added; where the listener to be removed has no remote
object, it is the first registered one without. -/
def identified (s : Publishing Proxy Remote) : PublisherItemAct Proxy → Prop
  | .addListener (some listener) =>
      listener ∈ s.item.listeners ∨
        ∀ lis ∈ s.item.listeners, recipientOf asObject lis ≠ recipientOf asObject listener
  | .removeListener (some listener) =>
      asObject listener = none → ∀ lis ∈ s.item.listeners, asObject lis = none →
        listener ∈ s.item.listeners ∧ listener ≤ lis
  | _ => True

variable {asObject} {s t : Publishing Proxy Remote}

/-- Each registered one has exactly one listener in the set. -/
theorem reachesRegistered_iff : s.ReachesRegistered asObject ↔
    s.registered = s.item.listeners.image (recipientOf asObject) ∧
      Set.InjOn (recipientOf asObject) s.item.listeners := by
  have reached (message : String) (valid : isMessageLengthValid message = true) :
      (s.item.publishMessage message).map (fun call => recipientOf asObject call.listener) =
        (s.item.listeners.sort (· ≤ ·)).map (recipientOf asObject) := by
    simp [PublisherItem.publishMessage, valid, Function.comp_def]
  constructor
  · intro h
    have count := h "m" (by decide)
    rw [reached "m" (by decide)] at count
    constructor
    · ext recipient
      have positive := List.count_pos_iff
        (a := recipient) (l := (s.item.listeners.sort (· ≤ ·)).map (recipientOf asObject))
      rw [count recipient] at positive
      by_cases mem : recipient ∈ s.registered <;> simpa [mem] using positive
    · have nodup : ((s.item.listeners.sort (· ≤ ·)).map (recipientOf asObject)).Nodup := by
        refine List.nodup_iff_count_le_one.mpr (fun recipient => ?_)
        rw [count recipient]
        split <;> omega
      intro l hl l' hl' same
      exact List.inj_on_of_nodup_map nodup ((Finset.mem_sort _).mpr hl)
        ((Finset.mem_sort _).mpr hl') same
  · rintro ⟨registered, inj⟩ message valid recipient
    have nodup : ((s.item.listeners.sort (· ≤ ·)).map (recipientOf asObject)).Nodup :=
      List.Nodup.map_on (fun l hl l' hl' => inj ((Finset.mem_sort _).mp hl)
        ((Finset.mem_sort _).mp hl')) (Finset.sort_nodup _ _)
    rw [reached message valid, nodup.count, registered]
    simp

/-- A proxy that is new to the set stands for one that is new, too. -/
theorem reachesRegistered_add_iff (good : s.ReachesRegistered asObject) {listener : Proxy}
    (hs : s.step asObject (.addListener (some listener)) = some t) :
    t.ReachesRegistered asObject ↔ s.identified asObject (.addListener (some listener)) := by
  cases hs
  obtain ⟨registered, inj⟩ := reachesRegistered_iff.mp good
  rw [reachesRegistered_iff]
  simp only [PublisherItem.addListener, Option.elim_some, registered, Finset.image_insert,
    true_and, Finset.coe_insert, identified]
  by_cases mem : listener ∈ s.item.listeners
  · simp [mem, Set.insert_eq_of_mem, inj]
  · rw [Set.injOn_insert (by simpa using mem)]
    simp [mem, inj]

/-- What a removal erases is the one proxy of its recipient. -/
theorem reachesRegistered_remove_iff (good : s.ReachesRegistered asObject) {listener : Proxy}
    (hs : s.step asObject (.removeListener (some listener)) = some t) :
    t.ReachesRegistered asObject ↔ s.identified asObject (.removeListener (some listener)) := by
  cases hs
  obtain ⟨registered, inj⟩ := reachesRegistered_iff.mp good
  rw [reachesRegistered_iff]
  simp only [PublisherItem.removeListener, Option.elim_some, identified]
  cases first : s.item.firstOf asObject listener with
  | none =>
      have others := PublisherItem.firstOf_eq_none first
      have absent : recipientOf asObject listener ∉ s.registered := by
        rw [registered, Finset.mem_image]
        rintro ⟨lis, mem, same⟩
        exact others lis mem (asObject_eq_of_recipientOf same)
      refine iff_of_true ⟨?_, inj⟩ ?_
      · rw [Finset.erase_eq_of_notMem absent, registered]
      · intro noRemote lis mem object
        exact absurd (object.trans noRemote.symm) (others lis mem)
  | some lis =>
      obtain ⟨mem, same, least⟩ := PublisherItem.firstOf_eq_some first
      have present : recipientOf asObject lis ∈ s.registered := by
        rw [registered]
        exact Finset.mem_image_of_mem _ mem
      have remaining : (s.item.listeners.erase lis).image (recipientOf asObject) =
          s.registered.erase (recipientOf asObject lis) := by
        rw [registered, Finset.erase_eq, Finset.erase_eq,
          Finset.image_sdiff_of_injOn inj (Finset.singleton_subset_iff.mpr mem),
          Finset.image_singleton]
      have inj' : Set.InjOn (recipientOf asObject) (s.item.listeners.erase lis) :=
        inj.mono (by simp)
      rw [remaining, eq_comm, Finset.erase_inj _ present, recipientOf_eq_iff same]
      simp only [inj', and_true]
      constructor
      · rintro erased noRemote lis' mem' object
        obtain rfl := erased noRemote
        exact ⟨mem, least lis' mem' (object.trans noRemote.symm)⟩
      · intro firstIs noRemote
        obtain ⟨mem', le⟩ := firstIs noRemote lis mem (same.trans noRemote)
        exact le_antisymm (least listener mem' rfl) le

end Publishing

def publisherItemSystem {Proxy Remote : Type*} [LinearOrder Proxy] [DecidableEq Remote]
    (asObject : Proxy → Option Remote) (topic : DHTopic) :
    TransitionSystem (Publishing Proxy Remote) (PublisherItemAct Proxy) where
  init := fun s => s = { item := { topic } }
  step := Publishing.step asObject

/-- In exactly the runs that add one proxy of each remote object, and remove the first listener
where it has none, does every message reach those registered. -/
theorem reachesRegistered_iff_identified {Proxy Remote : Type*} [LinearOrder Proxy]
    [DecidableEq Remote] {asObject : Proxy → Option Remote} {topic : DHTopic}
    {acts : List (PublisherItemAct Proxy)} {s : Publishing Proxy Remote} :
    (publisherItemSystem asObject topic).RunIn (Publishing.ReachesRegistered asObject) acts s ↔
      (publisherItemSystem asObject topic).Run (Publishing.identified asObject) acts s := by
  apply TransitionSystem.runIn_iff_run
  · rintro _ rfl
    exact Publishing.reachesRegistered_iff.mpr (by simp)
  · intro s a t _ good hs
    match a, hs with
    | .addListener (some _), hs => exact Publishing.reachesRegistered_add_iff good hs
    | .removeListener (some _), hs => exact Publishing.reachesRegistered_remove_iff good hs
    | .addListener none, rfl | .removeListener none, rfl | .publishMessage _, rfl =>
        exact iff_of_true good trivial

section TwoProxies

/-- Proxies 1 and 2 are of one remote object, 3 and 4 have none. -/
private def sampleObject (proxy : Nat) : Option String :=
  if proxy ≤ 2 then some "client" else none

private def twoAdded (l l' : Nat) : Publishing Nat String where
  item := { topic := .devOffline, listeners := {l', l} }
  registered := {recipientOf sampleObject l', recipientOf sampleObject l}

private theorem reachable_twoAdded (l l' : Nat) :
    (publisherItemSystem sampleObject .devOffline).Reachable (twoAdded l l') :=
  ((TransitionSystem.Reachable.init rfl).step (a := .addListener (some l)) rfl).step
    (a := .addListener (some l')) rfl

private theorem reachable_removed {l l' listener first : Nat}
    (h : (twoAdded l l').item.firstOf sampleObject listener = some first) :
    (publisherItemSystem sampleObject .devOffline).Reachable
      { item := { topic := .devOffline, listeners := ({l', l} : Finset Nat).erase first }
        registered := (twoAdded l l').registered.erase (recipientOf sampleObject listener) } := by
  refine (reachable_twoAdded l l').step (a := .removeListener (some listener)) ?_
  simp only [publisherItemSystem, Publishing.step, PublisherItem.removeListener, h]
  rfl

/-- The client is still reached after its removal; and the removal of listener 4 takes
listener 3 out. -/
theorem exists_reached_after_removal :
    (∃ s, (publisherItemSystem sampleObject .devOffline).Reachable s ∧ s.registered = ∅ ∧
      s.item.listeners = {2} ∧ ¬ s.ReachesRegistered sampleObject) ∧
    ∃ s, (publisherItemSystem sampleObject .devOffline).Reachable s ∧
      s.registered = {.inService 3} ∧ s.item.listeners = {4} ∧
      ¬ s.ReachesRegistered sampleObject := by
  constructor
  · have first : (twoAdded 1 2).item.firstOf sampleObject 1 = some 1 :=
      PublisherItem.firstOf_eq_some_iff.mpr (by decide)
    refine ⟨_, reachable_removed first, by decide, by decide, ?_⟩
    rw [Publishing.reachesRegistered_iff]
    decide
  · have first : (twoAdded 3 4).item.firstOf sampleObject 4 = some 3 :=
      PublisherItem.firstOf_eq_some_iff.mpr (by decide)
    refine ⟨_, reachable_removed first, by decide, by decide, ?_⟩
    rw [Publishing.reachesRegistered_iff]
    decide

end TwoProxies
end DistributedHardware
