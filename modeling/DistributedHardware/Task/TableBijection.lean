import DistributedHardware.Task.OnlineTable

/-!
The online table as a bijection between network ids and uuids.

`SendOnLineEvent` asks `IsDeviceOnline` in one section of the table's mutex and
adds in another, and it asks about the uuid only. What the table needs is a
condition on the state the add finds.
-/

namespace DistributedHardware
variable {sha256 : String → String}

/-- Two entries have an id in common. -/
def DeviceIdEntry.sharesId (e e' : DeviceIdEntry) : Bool :=
  e.networkId == e'.networkId || e.uuid == e'.uuid

/-- No two entries share a network id or a uuid, so the two lookups are inverse to each
other on the devices of the table and one removal takes a device out completely. -/
structure IsBijection (set : DeviceIdEntrySet) : Prop where
  oneToOne : ∀ e ∈ set, ∀ e' ∈ set, e.sharesId e' = true → e = e'
  uuid_of : ∀ e ∈ set, getUuidByNetworkId (getNetworkIdByUuid e.uuid set) set = e.uuid
  networkId_of : ∀ e ∈ set,
    getNetworkIdByUuid (getUuidByNetworkId e.networkId set) set = e.networkId
  removes : ∀ e ∈ set, ∀ e', e' ∈ removeOnlineDeviceIdEntryByNetworkId e.networkId set ↔
    e' ∈ set ∧ e'.networkId ≠ e.networkId ∧ e'.uuid ≠ e.uuid

def validEntry (e : DeviceIdEntry) : Prop :=
  isIdLengthValid e.networkId = true ∧ isIdLengthValid e.uuid = true

theorem isBijection_iff {set : DeviceIdEntrySet} (valid : ∀ e ∈ set, validEntry e) :
    IsBijection set ↔ ∀ e ∈ set, ∀ e' ∈ set, e.sharesId e' = true → e = e' := by
  constructor
  · exact IsBijection.oneToOne
  intro oneToOne
  have byNetworkId {e x : DeviceIdEntry} (he : e ∈ set) (hx : x ∈ set)
      (h : (x.networkId == e.networkId) = true) : x = e :=
    oneToOne x hx e he (by simp [DeviceIdEntry.sharesId, h])
  have byUuid {e x : DeviceIdEntry} (he : e ∈ set) (hx : x ∈ set)
      (h : (x.uuid == e.uuid) = true) : x = e :=
    oneToOne x hx e he (by simp [DeviceIdEntry.sharesId, h])
  have uuid {e : DeviceIdEntry} (he : e ∈ set) : getUuidByNetworkId e.networkId set = e.uuid :=
    lookupEntry_eq (valid e he).1 he (beq_self_eq_true _) (fun _ hx => byNetworkId he hx)
  have networkId {e : DeviceIdEntry} (he : e ∈ set) :
      getNetworkIdByUuid e.uuid set = e.networkId :=
    lookupEntry_eq (valid e he).2 he (beq_self_eq_true _) (fun _ hx => byUuid he hx)
  refine ⟨oneToOne, ?_, ?_, ?_⟩
  · intro e he
    rw [networkId he, uuid he]
  · intro e he
    rw [uuid he, networkId he]
  · intro e he e'
    constructor
    · intro h
      have hmem := mem_of_mem_removeOnline h
      have ne : e' ≠ e := by
        rintro rfl
        exact not_mem_removeOnline (valid _ he).1 rfl
          (fun x hx hid => byNetworkId he hx (beq_iff_eq.mpr hid)) h
      exact ⟨hmem, fun hn => ne (byNetworkId he hmem (beq_iff_eq.mpr hn)),
        fun hu => ne (byUuid he hmem (beq_iff_eq.mpr hu))⟩
    · rintro ⟨hmem, hn, -⟩
      exact mem_removeOnline_of_ne hn hmem

/-- One step on the table: an online event adds, an `OffLineTask` removes. -/
inductive TableStep (sha256 : String → String) (s t : Sys) : Act → Prop
  | same {a : Act} : t.sh.devIdEntrySet = s.sh.devIdEntrySet →
      (∀ p ch param, a = .run p ch → s.pc p ≠ .sendOnLine .addOnlineDevice param) →
      TableStep sha256 s t a
  | add {n : Nat} {ch : Choice} {param : TaskParam} :
      s.pc (.call n) = .sendOnLine .addOnlineDevice param →
      t.sh.devIdEntrySet =
        addOnlineDevice sha256 param.udid param.uuid param.networkId s.sh.devIdEntrySet →
      TableStep sha256 s t (.run (.call n) ch)
  | remove {id : TaskId} {ch : Choice} {param : TaskParam} :
      s.pc (.task id) = .body .removeOnlineEntry →
      t.sh.devIdEntrySet =
        removeOnlineDeviceIdEntryByNetworkId param.networkId s.sh.devIdEntrySet →
      TableStep sha256 s t (.run (.task id) ch)

theorem tableStep {s t : Sys} {a : Act} (hs : step sha256 s a = some t) :
    TableStep sha256 s t a := by
  by_cases hrun : ∃ p ch, a = .run p ch
  case neg =>
    push Not at hrun
    exact .same (step_devices hs hrun).devIdEntrySet (fun p ch _ h => absurd h (hrun p ch))
  case pos =>
    obtain ⟨p, ch, rfl⟩ := hrun
    obtain ⟨sh', c', hexec, rfl⟩ := step_run hs
    by_cases hadd : ∃ param, s.pc p = .sendOnLine .addOnlineDevice param
    · obtain ⟨param, hpc⟩ := hadd
      rw [hpc] at hexec
      cases p with
      | task id => cases hexec
      | call n =>
          obtain ⟨rfl, -⟩ := hexec
          exact .add hpc rfl
    · have elsewhere : ∀ q ch' param, Act.run p ch = .run q ch' →
          s.pc q ≠ .sendOnLine .addOnlineDevice param := by
        rintro q ch' param ⟨⟩ hpc
        exact hadd ⟨param, hpc⟩
      generalize hc : s.pc p = c at hexec
      cases exec_devices hexec with
      | same same => exact .same same.devIdEntrySet elsewhere
      | addOnlineDevice => exact absurd ⟨_, hc⟩ hadd
      | removeOnlineEntry => exact .remove hc rfl
      | addRealTime | deleteRealTime | storeFlagUnInit | clearFlagUnInit | registerHardware
      | unRegisterHardware => exact .same rfl elsewhere

/-- The events threads run, and the entries they add, have ids of valid length. -/
structure ValidIds (s : Sys) : Prop where
  events : ∀ p param, (s.pc p).event = some param → validIds param = true
  entries : ∀ e ∈ s.sh.devIdEntrySet, validEntry e

theorem validEntry_onlineEntry {param : TaskParam} (valid : validIds param = true) :
    validEntry (onlineEntry sha256 param.udid param.uuid param.networkId) := by
  simp only [validIds, Bool.and_eq_true] at valid
  exact ⟨valid.1.1, valid.1.2⟩

theorem validIds_entryOfCall {c : Call} {param : TaskParam}
    (h : (entryOfCall c).event = some param) : validIds param = true := by
  cases c with
  | createTask kind param' => cases h
  | sendOnLineEvent param' | sendOffLineEvent param' =>
      simp only [entryOfCall] at h
      split at h
      case isTrue valid =>
        cases h
        exact valid
      case isFalse => cases h

theorem ValidIds.step {s t : Sys} {a : Act} (h : ValidIds s) (life : Lifecycle s)
    (hs : step sha256 s a = some t) : ValidIds t := by
  constructor
  case events =>
    intro p param hp
    cases thread_step life hs p with
    | stays hpc => exact h.events p param (hpc ▸ hp)
    | started _ _ hpc => rw [hpc] at hp; cases hp
    | called hq _ ht =>
        rw [ht, Sys.pc_setPc_self] at hp
        exact validIds_entryOfCall hp
    | runs he ht =>
        rw [ht, Sys.pc_setPc_self] at hp
        obtain hnone | hsame := exec_event he
        · rw [hnone] at hp
          cases hp
        · exact h.events p param (hsame ▸ hp)
  case entries =>
    intro e he
    cases tableStep hs with
    | same same => exact h.entries e (same ▸ he)
    | add hpc ht =>
        rw [ht] at he
        obtain rfl | he := mem_of_mem_addOnlineDevice he
        · exact validEntry_onlineEntry (h.events _ _ (by rw [hpc]; rfl))
        · exact h.entries e he
    | remove _ ht =>
        rw [ht] at he
        exact h.entries e (mem_of_mem_removeOnline he)

theorem validIds_of_reachable {s : Sys} (h : (taskSystem sha256).Reachable s) : ValidIds s := by
  refine h.invariant_of ?_ (fun _ _ _ reach hi hs => hi.step (lifecycle reach) hs)
  rintro _ rfl
  refine ⟨?_, fun e he => absurd he Std.TreeSet.not_mem_emptyc⟩
  intro p param hp
  cases hp

section Add
variable (sha256)

/-- The add of an online event finds a full table, or no other entry with one of the
ids of its device. -/
def addsApart (s : Sys) : Act → Bool
  | .run p _ =>
      match s.pc p with
      | .sendOnLine .addOnlineDevice param =>
          let entry := onlineEntry sha256 param.udid param.uuid param.networkId
          maxOnlineDeviceSize < s.sh.devIdEntrySet.size ||
            s.sh.devIdEntrySet.toList.all (fun e => !e.sharesId entry || e = entry)
      | _ => true
  | _ => true

variable {sha256}

theorem addsApart_of_not_add {s : Sys} {a : Act}
    (h : ∀ p ch param, a = .run p ch → s.pc p ≠ .sendOnLine .addOnlineDevice param) :
    addsApart sha256 s a = true := by
  cases a with
  | run p ch =>
      simp only [addsApart]
      split
      case h_1 param hpc => exact absurd hpc (h p ch param rfl)
      case h_2 => rfl
  | _ => rfl

theorem addsApart_add {s : Sys} {p : ProcId} {ch : Choice} {param : TaskParam}
    (hpc : s.pc p = .sendOnLine .addOnlineDevice param) :
    addsApart sha256 s (.run p ch) = true ↔ maxOnlineDeviceSize < s.sh.devIdEntrySet.size ∨
      ∀ e ∈ s.sh.devIdEntrySet,
        e.sharesId (onlineEntry sha256 param.udid param.uuid param.networkId) = true →
          e = onlineEntry sha256 param.udid param.uuid param.networkId := by
  simp [addsApart, hpc, Std.TreeSet.mem_toList, imp_iff_not_or]

theorem sharesId_comm (e e' : DeviceIdEntry) : e.sharesId e' = e'.sharesId e := by
  simp only [DeviceIdEntry.sharesId, Bool.beq_comm]

/-- Adding to a one to one table leaves it so exactly where the entry shares no id. -/
theorem oneToOne_add_iff {set : DeviceIdEntrySet} {param : TaskParam}
    (valid : validIds param = true)
    (h : ∀ e ∈ set, ∀ e' ∈ set, e.sharesId e' = true → e = e') :
    (∀ e ∈ addOnlineDevice sha256 param.udid param.uuid param.networkId set,
      ∀ e' ∈ addOnlineDevice sha256 param.udid param.uuid param.networkId set,
        e.sharesId e' = true → e = e') ↔
      maxOnlineDeviceSize < set.size ∨
        ∀ e ∈ set, e.sharesId (onlineEntry sha256 param.udid param.uuid param.networkId) = true →
          e = onlineEntry sha256 param.udid param.uuid param.networkId := by
  simp only [validIds, Bool.and_eq_true] at valid
  by_cases full : maxOnlineDeviceSize < set.size
  · have same : addOnlineDevice sha256 param.udid param.uuid param.networkId set = set := by
      simp [addOnlineDevice, full]
    rw [same]
    exact iff_of_true h (.inl full)
  · have mem (e : DeviceIdEntry) :
        e ∈ addOnlineDevice sha256 param.udid param.uuid param.networkId set ↔
          e = onlineEntry sha256 param.udid param.uuid param.networkId ∨ e ∈ set :=
      mem_addOnlineDevice valid.2 valid.1.2 valid.1.1 (Nat.not_lt.mp full) e
    constructor
    · intro all
      exact .inr (fun e he => all e ((mem e).mpr (.inr he)) _ ((mem _).mpr (.inl rfl)))
    · intro apart e he e' he' hshare
      have apart := apart.resolve_left full
      obtain rfl | he := (mem e).mp he
      · obtain rfl | he' := (mem e').mp he'
        · rfl
        · exact (apart e' he' (sharesId_comm _ _ ▸ hshare)).symm
      · obtain rfl | he' := (mem e').mp he'
        · exact apart e he hshare
        · exact h e he e' he' hshare

theorem isBijection_step_iff {s t : Sys} {a : Act} (reach : (taskSystem sha256).Reachable s)
    (h : IsBijection s.sh.devIdEntrySet) (hs : step sha256 s a = some t) :
    IsBijection t.sh.devIdEntrySet ↔ addsApart sha256 s a = true := by
  have valid := validIds_of_reachable reach
  rw [isBijection_iff (valid.step (lifecycle reach) hs).entries]
  cases tableStep hs with
  | same same elsewhere =>
      rw [same]
      exact iff_of_true h.oneToOne (addsApart_of_not_add elsewhere)
  | add hpc ht =>
      rw [ht, addsApart_add hpc]
      exact oneToOne_add_iff (valid.events _ _ (by rw [hpc]; rfl)) h.oneToOne
  | remove hpc ht =>
      rw [ht]
      refine iff_of_true ?_ (addsApart_of_not_add ?_)
      · intro e he e' he'
        exact h.oneToOne e (mem_of_mem_removeOnline he) e' (mem_of_mem_removeOnline he')
      · rintro p ch param ⟨⟩ hadd
        rw [hpc] at hadd
        cases hadd

/-- The table is a bijection throughout exactly in the runs whose adds all find it free of
the ids they bring. -/
theorem onlineTable_isBijection_iff {acts : List Act} {s : Sys} :
    (taskSystem sha256).RunIn (fun s => IsBijection s.sh.devIdEntrySet) acts s ↔
      (taskSystem sha256).Run (fun s a => addsApart sha256 s a = true) acts s := by
  apply TransitionSystem.runIn_iff_run
  · rintro _ rfl
    rw [isBijection_iff (fun e he => absurd he Std.TreeSet.not_mem_emptyc)]
    exact fun e he => absurd he Std.TreeSet.not_mem_emptyc
  · exact fun s a t reach h hs => isBijection_step_iff reach h hs

end Add

section Sessions

/-- Device A under the network id of its next session. -/
private def deviceAgain : TaskParam := { deviceA with networkId := "nB" }

/-- Two threads bring device A online at once: both ask before either adds. -/
private def onLineTwice : List Act :=
  .call 0 (.sendOnLineEvent deviceA) :: runs (.call 0) 2 {} ++
  .call 1 (.sendOnLineEvent deviceAgain) :: runs (.call 1) 2 {} ++
  runs (.call 0) 1 {} ++ runs (.call 1) 1 {}

theorem exists_two_entries_of_one_device :
    ∃ s, (taskSystem sampleSha256).Reachable s ∧ ∃ e ∈ s.sh.devIdEntrySet,
      ∃ e' ∈ s.sh.devIdEntrySet, e.uuid = e'.uuid ∧ e.networkId ≠ e'.networkId ∧
        getNetworkIdByUuid (getUuidByNetworkId e'.networkId s.sh.devIdEntrySet)
          s.sh.devIdEntrySet ≠ e'.networkId ∧
        isDeviceOnline e.uuid
          (removeOnlineDeviceIdEntryByNetworkId e.networkId s.sh.devIdEntrySet) = true := by
  have run : ∃ s ∈ (taskSystem sampleSha256).replay (fun _ _ => True) {} onLineTwice,
      ∃ e ∈ s.sh.devIdEntrySet.toList, ∃ e' ∈ s.sh.devIdEntrySet.toList,
        e.uuid = e'.uuid ∧ e.networkId ≠ e'.networkId ∧
        getNetworkIdByUuid (getUuidByNetworkId e'.networkId s.sh.devIdEntrySet)
          s.sh.devIdEntrySet ≠ e'.networkId ∧
        isDeviceOnline e.uuid
          (removeOnlineDeviceIdEntryByNetworkId e.networkId s.sh.devIdEntrySet) = true := by
    decide +kernel
  obtain ⟨s, hs, e, he, e', he', rest⟩ := run
  exact ⟨s, (TransitionSystem.run_of_replay rfl hs).reachable, e, Std.TreeSet.mem_toList.mp he,
    e', Std.TreeSet.mem_toList.mp he', rest⟩

end Sessions
end DistributedHardware
