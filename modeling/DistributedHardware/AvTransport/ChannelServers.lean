import DistributedHardware.AvTransport.SoftbusAdapter

/-!
`RemoveChannelServer` against the servers and sessions that are registered.

The maps of the adapter know their entries by the keys only, and a loop over one of them
removes the first entry in whose key a name is found. Which package, session name and
device a key was made of is kept beside the adapter.
-/

namespace DistributedHardware

/-- The package and session name of each server, and the session name and device of each
session. -/
structure ChannelRegistry where
  servers : List (String × String)
  sessions : List (String × String)

namespace ChannelRegistry
variable (r : ChannelRegistry)

/-- The entries of the maps: whose session name it is, and the key. -/
def serverEntries : List (String × String) :=
  r.servers.map (fun server => (server.2, channelKey server.1 server.2))

def sessionEntries : List (String × String) :=
  r.sessions.map (fun session => (session.1, channelKey session.1 session.2))

end ChannelRegistry

/-- The keys of a map are those of the entries. -/
def EntriesOf (entries : List (String × String)) (map : Store String Int) : Prop :=
  ∀ key, (map.get key).isSome ↔ ∃ e ∈ entries, e.2 = key

structure ChannelRegistry.Holds {L : Type} (r : ChannelRegistry) (s : SoftbusAdapter L) :
    Prop where
  servers : EntriesOf r.serverEntries s.serverMap
  sessions : EntriesOf r.sessionEntries s.devId2SessIdMap

/-- The entries of the session name are gone, and those of the others are as before. -/
def RemovedExactly (entries : List (String × String)) (sessName : String)
    (map map' : Store String Int) : Prop :=
  ∀ e ∈ entries, if e.1 = sessName then map'.get e.2 = none else map'.get e.2 = map.get e.2

/-- The name is found in the key, and in none of the keys before it. -/
def FoundFirst (entries : List (String × String)) (name key : String) : Prop :=
  Finds key name ∧ ∀ e ∈ entries, Finds e.2 name → key ≤ e.2

/-- The entry in whose key the name is found first is the only one of the session name. -/
def FirstIsOnly (entries : List (String × String)) (name sessName : String) : Prop :=
  ∀ e ∈ entries, FoundFirst entries name e.2 ↔ e.1 = sessName

instance (entries : List (String × String)) (name key : String) :
    Decidable (FoundFirst entries name key) :=
  inferInstanceAs (Decidable (_ ∧ _))

instance (entries : List (String × String)) (name sessName : String) :
    Decidable (FirstIsOnly entries name sessName) :=
  inferInstanceAs (Decidable (∀ e ∈ entries, (FoundFirst entries name e.2 ↔ e.1 = sessName)))

section Maps
variable {entries : List (String × String)} {map : Store String Int} {name sessName : String}

namespace SoftbusAdapter

theorem firstKey_eq_some_iff {key : String} : firstKey map name = some key ↔
    (key ∈ map.keys ∧ Finds key name) ∧ ∀ key' ∈ map.keys, Finds key' name → key ≤ key' := by
  simp only [firstKey, List.min?_eq_some_iff, List.mem_filter, decide_eq_true_eq, and_imp]

end SoftbusAdapter

theorem EntriesOf.mem_keys (h : EntriesOf entries map) {key : String} :
    key ∈ map.keys ↔ ∃ e ∈ entries, e.2 = key := by
  rw [Store.mem_keys_iff, ← Option.isSome_iff_exists]
  exact h key

theorem EntriesOf.firstKey_iff (h : EntriesOf entries map) {e : String × String}
    (he : e ∈ entries) :
    some e.2 = SoftbusAdapter.firstKey map name ↔ FoundFirst entries name e.2 := by
  rw [eq_comm, SoftbusAdapter.firstKey_eq_some_iff]
  constructor
  · rintro ⟨⟨-, finds⟩, first⟩
    exact ⟨finds, fun e' he' => first e'.2 (h.mem_keys.mpr ⟨e', he', rfl⟩)⟩
  · rintro ⟨finds, first⟩
    refine ⟨⟨h.mem_keys.mpr ⟨e, he, rfl⟩, finds⟩, ?_⟩
    intro key hkey finds'
    obtain ⟨e', he', rfl⟩ := h.mem_keys.mp hkey
    exact first e' he' finds'

/-- A loop removes exactly the entries of a session name if that name has the entry at which
the loop stops, and no other. -/
theorem removedExactly_takeFirst (h : EntriesOf entries map) :
    RemovedExactly entries sessName map (SoftbusAdapter.takeFirst map name).2 ↔
      FirstIsOnly entries name sessName := by
  refine forall₂_congr ?_
  intro e he
  have present : map.get e.2 ≠ none := Option.isSome_iff_ne_none.mp ((h e.2).mpr ⟨e, he, rfl⟩)
  rw [← h.firstKey_iff he, SoftbusAdapter.get_takeFirst]
  by_cases first : some e.2 = SoftbusAdapter.firstKey map name
  · by_cases own : e.1 = sessName
    · simp [first, own]
    · simp [first, own, present.symm]
  · by_cases own : e.1 = sessName
    · simp [first, own, present]
    · simp [first, own]

/-- Nothing was removed. -/
theorem removedExactly_refl (h : EntriesOf entries map) :
    RemovedExactly entries sessName map map ↔ ∀ e ∈ entries, e.1 ≠ sessName := by
  refine forall₂_congr ?_
  intro e he
  have present : map.get e.2 ≠ none := Option.isSome_iff_ne_none.mp ((h e.2).mpr ⟨e, he, rfl⟩)
  by_cases own : e.1 = sessName
  · simp [own, present]
  · simp [own]

end Maps

section Remove
variable {L : Type} {r : ChannelRegistry} {s : SoftbusAdapter L}

/-- `RemoveChannelServer` removes exactly the server and the sessions of a session name, if
the names are not empty and in both maps the entry in whose key the name is found
first is the only one of that session name; or if there is nothing to be removed. -/
theorem removeChannelServer_exact_iff (holds : r.Holds s) (pkgName sessName : String) :
    let t := (s.removeChannelServer pkgName sessName).2
    (RemovedExactly r.serverEntries sessName s.serverMap t.serverMap ∧
        RemovedExactly r.sessionEntries sessName s.devId2SessIdMap t.devId2SessIdMap) ↔
      if pkgName = "" ∨ sessName = "" then
        ∀ e ∈ r.serverEntries ++ r.sessionEntries, e.1 ≠ sessName
      else
        FirstIsOnly r.serverEntries (channelKey pkgName sessName) sessName ∧
          FirstIsOnly r.sessionEntries sessName sessName := by
  intro t
  by_cases empty : pkgName = "" ∨ sessName = ""
  · have same : t = s := by
      obtain same | ⟨⟨package, named⟩, -⟩ := s.removeChannelServer_eq pkgName sessName
      · exact same
      · exact absurd empty (not_or.mpr ⟨package, named⟩)
    rw [if_pos empty, same, removedExactly_refl holds.servers, removedExactly_refl holds.sessions]
    simp only [List.mem_append, or_imp, forall_and]
  · obtain ⟨package, named⟩ := not_or.mp empty
    have maps : t.serverMap = (SoftbusAdapter.takeFirst s.serverMap
          (channelKey pkgName sessName)).2 ∧
        t.devId2SessIdMap = (SoftbusAdapter.takeFirst s.devId2SessIdMap sessName).2 := by
      simp only [t, SoftbusAdapter.removeChannelServer, package, named, if_false,
        SoftbusAdapter.shutdown, and_self]
    rw [if_neg empty, maps.1, maps.2, removedExactly_takeFirst holds.servers,
      removedExactly_takeFirst holds.sessions]

/-- An adapter in which the servers and sessions are registered. -/
private def registeredAdapter (r : ChannelRegistry) : SoftbusAdapter Unit :=
  let mapOf (entries : List (String × String)) :=
    (entries.map Prod.snd).foldl (fun map key => Store.set map key 1) ∅
  { serverMap := mapOf r.serverEntries, devId2SessIdMap := mapOf r.sessionEntries }

private theorem holds_registered (r : ChannelRegistry) : r.Holds (registeredAdapter r) := by
  constructor
  all_goals
    intro key
    simp only [registeredAdapter, Store.get_foldl_set]
    split
    case isTrue mem => simpa using mem
    case isFalse not_mem => simpa using not_mem

private def twoNames : ChannelRegistry where
  servers := [("pkg", "sender"), ("pkg", "receiver")]
  sessions := [("sender", "a"), ("receiver", "a"), ("receiver", "b")]

/-- Two names neither of which contains the other, and one device of the removed one. -/
theorem removeChannelServer_exact_twoNames :
    let t := ((registeredAdapter twoNames).removeChannelServer "pkg" "sender").2
    RemovedExactly twoNames.serverEntries "sender" (registeredAdapter twoNames).serverMap
        t.serverMap ∧
      RemovedExactly twoNames.sessionEntries "sender"
        (registeredAdapter twoNames).devId2SessIdMap t.devId2SessIdMap := by
  have fits : FirstIsOnly twoNames.serverEntries (channelKey "pkg" "sender") "sender" ∧
      FirstIsOnly twoNames.sessionEntries "sender" "sender" := by
    decide +kernel
  have named : ¬ ("pkg" = "" ∨ "sender" = "") := by decide
  have exact_ := (removeChannelServer_exact_iff (holds_registered twoNames) "pkg" "sender").mpr
  rw [if_neg named] at exact_
  exact exact_ fits

/-- Of a session with two devices one entry stays; and a longer name that contains the
removed one loses its entry in its place. -/
theorem exists_removed_inexactly :
    (∃ (r : ChannelRegistry) (s : SoftbusAdapter Unit), r.Holds s ∧
      r.sessions = [("sender", "a"), ("sender", "b")] ∧
      ((s.removeChannelServer "pkg" "sender").2.devId2SessIdMap.get "sender_b").isSome) ∧
    ∃ (r : ChannelRegistry) (s : SoftbusAdapter Unit), r.Holds s ∧
      r.sessions = [("resender", "a"), ("sender", "a")] ∧
      (s.removeChannelServer "pkg" "sender").2.devId2SessIdMap.get "resender_a" = none ∧
      ((s.removeChannelServer "pkg" "sender").2.devId2SessIdMap.get "sender_a").isSome := by
  constructor
  · refine ⟨{ servers := [("pkg", "sender")], sessions := [("sender", "a"), ("sender", "b")] }, _,
      holds_registered _, rfl, ?_⟩
    decide +kernel
  · refine ⟨{ servers := [("pkg", "sender")], sessions := [("resender", "a"), ("sender", "a")] },
      _, holds_registered _, rfl, ?_⟩
    decide +kernel

end Remove

end DistributedHardware
