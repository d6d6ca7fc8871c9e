import DistributedHardware.Common.DhContext
import DistributedHardware.Task.Step

/-!
Deferred refreshes against the business state.

`ProcessFullCapsRsp` asks for the state of a hardware and, where it is busy, saves
the refresh for later; `UpdateBusinessState` records a state and, where it is
`IDLE`, fetches what was saved. Both use two sections on two maps. A refresh is
stranded exactly where it is saved after the last fetch of an idle hardware.
-/

namespace DistributedHardware

inductive BusinessState
  | unknown | idle | running | pausing
  deriving DecidableEq

/-- The key of both maps: a network id and a dhId. -/
abbrev HardwareKey := String × String

namespace Refresh

/-- Where a thread is in one of the two calls. A `createTask` goes on with the records
that are left of its response. -/
inductive Pc
  | idle
  | writeState (key : HardwareKey) (state : BusinessState)
  | fetchNeedRefreshTask (key : HardwareKey)
  | query (networkId uuid : String) (caps : List CapabilityInfo)
  | saveNeedRefreshTask (param : TaskParam) (caps : List CapabilityInfo)
  | createTask (param : TaskParam) (caps : List CapabilityInfo)
  | returned
  deriving DecidableEq

inductive Call
  | updateBusinessState (networkId dhId : String) (state : BusinessState)
  | processFullCapsRsp (networkId : String) (caps : List CapabilityInfo) (set : DeviceIdEntrySet)

inductive Act
  | call (n : Nat) (c : Call)
  | run (n : Nat)

structure State where
  dhBizStates : Store HardwareKey BusinessState := ∅
  needRefreshTaskParams : Store HardwareKey TaskParam := ∅
  /-- The `EnableTask`s created so far. -/
  created : List TaskParam := []
  pcs : Store Nat Pc := ∅

namespace State

def pc (s : State) (n : Nat) : Pc := (s.pcs.get n).getD .idle

def setPc (s : State) (n : Nat) (c : Pc) : State := { s with pcs := s.pcs.set n c }

@[simp] theorem pc_setPc (s : State) (n m : Nat) (c : Pc) :
    (s.setPc n c).pc m = if m = n then c else s.pc m := by
  by_cases h : m = n <;> simp [pc, setPc, h]

@[simp] theorem needRefreshTaskParams_setPc (s : State) (n : Nat) (c : Pc) :
    (s.setPc n c).needRefreshTaskParams = s.needRefreshTaskParams := rfl

@[simp] theorem dhBizStates_setPc (s : State) (n : Nat) (c : Pc) :
    (s.setPc n c).dhBizStates = s.dhBizStates := rfl

/-- `ComponentManager::QueryBusinessState`. -/
def queryBusinessState (s : State) (networkId dhId : String) : BusinessState :=
  if !isIdLengthValid networkId || !isIdLengthValid dhId then .unknown
  else (s.dhBizStates.get (networkId, dhId)).getD .unknown

end State

def isBusy (state : BusinessState) : Bool := state = .running || state = .pausing

/-- The parameters of a refresh of one record. -/
def refreshParam (networkId uuid : String) (cap : CapabilityInfo) : TaskParam :=
  { networkId, uuid, dhId := cap.dhId, dhType := cap.dhType }

def keyOf (param : TaskParam) : HardwareKey := (param.networkId, param.dhId)

/-- The checks at the start of a call. -/
def entryOfCall : Call → Pc
  | .updateBusinessState networkId dhId state =>
      if !isIdLengthValid networkId || !isIdLengthValid dhId then .returned
      else .writeState (networkId, dhId) state
  | .processFullCapsRsp networkId caps set =>
      if networkId = "" || caps = [] then .returned
      else
        let uuid := getUuidByNetworkId networkId set
        if uuid = "" then .returned else .query networkId uuid caps

/-- One section of a thread. -/
def exec (s : State) (n : Nat) : Option State :=
  match s.pc n with
  | .idle | .returned => none
  | .writeState key state =>
      some ({ s with dhBizStates := s.dhBizStates.set key state }.setPc n
        (if state = BusinessState.idle then .fetchNeedRefreshTask key else .returned))
  | .fetchNeedRefreshTask key =>
      match s.needRefreshTaskParams.get key with
      | none => some (s.setPc n .returned)
      | some param =>
          some ({ s with needRefreshTaskParams := s.needRefreshTaskParams.erase key }.setPc n
            (.createTask param []))
  | .query _ _ [] => some (s.setPc n .returned)
  | .query networkId uuid (cap :: caps) =>
      let param := refreshParam networkId uuid cap
      some (s.setPc n
        (if isBusy (s.queryBusinessState networkId cap.dhId) then .saveNeedRefreshTask param caps
          else .createTask param caps))
  | .saveNeedRefreshTask param caps =>
      some ({ s with
        needRefreshTaskParams := s.needRefreshTaskParams.set (keyOf param) param }.setPc n
        (.query param.networkId param.uuid caps))
  | .createTask param caps =>
      some ({ s with created := s.created ++ [param] }.setPc n
        (.query param.networkId param.uuid caps))

def refreshSystem : TransitionSystem State Act where
  init := fun s => s = {}
  step := fun s a =>
    match a with
    | .call n c => if s.pc n = .idle then some (s.setPc n (entryOfCall c)) else none
    | .run n => exec s n

/-- An `IDLE` of the hardware is recorded and its fetch still to come. -/
def fetchPending (s : State) (key : HardwareKey) : Bool :=
  s.pcs.keys.any (fun n => s.pc n = .fetchNeedRefreshTask key)

def busy (s : State) (key : HardwareKey) : Bool :=
  (s.dhBizStates.get key).any isBusy

/-- Between the two sections of an `UpdateBusinessState` of the hardware a refresh may
wait for the fetch; otherwise it waits only while the hardware is busy. -/
def NoStranded (s : State) : Prop :=
  ∀ key, (s.needRefreshTaskParams.get key).isSome → busy s key = true ∨ fetchPending s key = true

/-- A refresh is saved while its hardware is still busy, or while the fetch of it is to
come; and no hardware with a saved refresh becomes `UNKNOWN`. -/
def savesInTime (s : State) : Act → Bool
  | .run n =>
      match s.pc n with
      | .saveNeedRefreshTask param _ => busy s (keyOf param) || fetchPending s (keyOf param)
      | .writeState key .unknown =>
          (s.needRefreshTaskParams.get key).isNone || fetchPending s key
      | _ => true
  | _ => true

theorem fetchPending_iff {s : State} {key : HardwareKey} :
    fetchPending s key = true ↔ ∃ n, s.pc n = .fetchNeedRefreshTask key := by
  simp only [fetchPending, List.any_eq_true, decide_eq_true_eq]
  constructor
  · rintro ⟨n, -, hn⟩
    exact ⟨n, hn⟩
  · rintro ⟨n, hn⟩
    refine ⟨n, ?_, hn⟩
    cases hp : s.pcs.get n with
    | none => simp [State.pc, hp] at hn
    | some c => exact (Store.mem_keys_iff s.pcs n).mpr ⟨c, hp⟩

/-- A thread that does not leave the fetch of a key leaves it pending. -/
theorem fetchPending_of_setPc {s s' : State} {n : Nat} {c : Pc} {key : HardwareKey}
    (pcs : s'.pcs = s.pcs) (hn : s.pc n ≠ .fetchNeedRefreshTask key)
    (h : fetchPending s key = true) : fetchPending (s'.setPc n c) key = true := by
  obtain ⟨m, hm⟩ := fetchPending_iff.mp h
  refine fetchPending_iff.mpr ⟨m, ?_⟩
  have hne : m ≠ n := by
    rintro rfl
    exact hn hm
  rw [State.pc_setPc, if_neg hne, State.pc, pcs]
  exact hm

/-- A thread that does not come to the fetch of a key makes none pending. -/
theorem fetchPending_setPc {s s' : State} {n : Nat} {c : Pc} {key : HardwareKey}
    (pcs : s'.pcs = s.pcs) (hn : c ≠ .fetchNeedRefreshTask key)
    (h : fetchPending (s'.setPc n c) key = true) : fetchPending s key = true := by
  obtain ⟨m, hm⟩ := fetchPending_iff.mp h
  rw [State.pc_setPc] at hm
  split at hm
  · exact absurd hm hn
  · refine fetchPending_iff.mpr ⟨m, ?_⟩
    rw [State.pc, pcs] at hm
    exact hm

/-- What a saved refresh waits for stays, where the step is not the fetch of its key and
records no state under it. -/
theorem waits_of_setPc {s s' : State} {n : Nat} {c : Pc} {key : HardwareKey}
    (pcs : s'.pcs = s.pcs) (states : s'.dhBizStates.get key = s.dhBizStates.get key)
    (hn : s.pc n ≠ .fetchNeedRefreshTask key)
    (h : busy s key = true ∨ fetchPending s key = true) :
    busy (s'.setPc n c) key = true ∨ fetchPending (s'.setPc n c) key = true := by
  refine h.imp (fun hbusy => ?_) (fetchPending_of_setPc pcs hn)
  rw [busy, State.dhBizStates_setPc, states]
  exact hbusy

theorem NoStranded.quiet {s s' : State} {n : Nat} {c : Pc} (h : NoStranded s)
    (pcs : s'.pcs = s.pcs) (needs : s'.needRefreshTaskParams = s.needRefreshTaskParams)
    (states : s'.dhBizStates = s.dhBizStates)
    (hn : ∀ key, s.pc n ≠ .fetchNeedRefreshTask key) : NoStranded (s'.setPc n c) := by
  intro key hkey
  rw [State.needRefreshTaskParams_setPc, needs] at hkey
  exact waits_of_setPc pcs (by rw [states]) (hn key) (h key hkey)

/-- A fetch takes what is saved under its key, if anything is. -/
theorem NoStranded.fetch {s s' : State} {n : Nat} {c : Pc} {key : HardwareKey} (h : NoStranded s)
    (hpc : s.pc n = .fetchNeedRefreshTask key) (pcs : s'.pcs = s.pcs)
    (states : s'.dhBizStates = s.dhBizStates)
    (needs : ∀ key', s'.needRefreshTaskParams.get key' =
      if key' = key then none else s.needRefreshTaskParams.get key') :
    NoStranded (s'.setPc n c) := by
  intro key' hkey
  rw [State.needRefreshTaskParams_setPc, needs] at hkey
  split at hkey
  · cases hkey
  · refine waits_of_setPc pcs (by rw [states]) ?_ (h key' hkey)
    rw [hpc]
    rintro ⟨⟩
    contradiction

theorem noStranded_save_iff {s : State} {n : Nat} {param : TaskParam} {c : Pc} (h : NoStranded s)
    (hn : ∀ key, s.pc n ≠ .fetchNeedRefreshTask key)
    (hc : ∀ key, c ≠ .fetchNeedRefreshTask key) :
    NoStranded ({ s with
        needRefreshTaskParams := s.needRefreshTaskParams.set (keyOf param) param }.setPc n c) ↔
      (busy s (keyOf param) || fetchPending s (keyOf param)) = true := by
  rw [Bool.or_eq_true]
  constructor
  · intro ht
    refine (ht (keyOf param) (by simp)).imp id (fetchPending_setPc rfl (hc _))
  · intro hwaits key hkey
    refine waits_of_setPc rfl rfl (hn key) ?_
    by_cases heq : key = keyOf param
    · exact heq ▸ hwaits
    · refine h key ?_
      simpa [heq] using hkey

theorem noStranded_writeState_iff {s : State} {n : Nat} {key : HardwareKey} {state : BusinessState}
    (h : NoStranded s) (hpc : s.pc n = .writeState key state) :
    NoStranded ({ s with dhBizStates := s.dhBizStates.set key state }.setPc n
        (if state = BusinessState.idle then .fetchNeedRefreshTask key else .returned)) ↔
      savesInTime s (.run n) = true := by
  have hn (key' : HardwareKey) : s.pc n ≠ .fetchNeedRefreshTask key' := by
    rw [hpc]
    simp
  -- the refreshes of other hardware wait for what they waited for
  have other (c : Pc) (own : (s.needRefreshTaskParams.get key).isSome →
      busy ({ s with dhBizStates := s.dhBizStates.set key state }.setPc n c) key = true ∨
      fetchPending ({ s with dhBizStates := s.dhBizStates.set key state }.setPc n c) key = true) :
      NoStranded ({ s with dhBizStates := s.dhBizStates.set key state }.setPc n c) := by
    intro key' hkey
    by_cases heq : key' = key
    · subst heq
      exact own hkey
    · exact waits_of_setPc (s := s) rfl (by simp [heq]) (hn key') (h key' hkey)
  cases state with
  | idle =>
      refine iff_of_true (other _ fun _ => .inr (fetchPending_iff.mpr ⟨n, ?_⟩)) ?_
      · simp
      · simp [savesInTime, hpc]
  | running | pausing =>
      refine iff_of_true (other _ fun _ => .inl ?_) ?_
      · simp [busy, isBusy]
      · simp [savesInTime, hpc]
  | unknown =>
      simp only [savesInTime, hpc, reduceCtorEq, if_false, Bool.or_eq_true]
      constructor
      · intro ht
        cases hneed : s.needRefreshTaskParams.get key with
        | none => exact .inl rfl
        | some param =>
            refine .inr ?_
            obtain hbusy | hpending := ht key (by simp [hneed])
            · simp [busy, isBusy] at hbusy
            · exact fetchPending_setPc rfl (by simp) hpending
      · intro hok
        refine other _ fun hneed => .inr ?_
        obtain hnone | hpending := hok
        · rw [Option.isNone_iff_eq_none.mp hnone] at hneed
          cases hneed
        · exact fetchPending_of_setPc rfl (hn key) hpending

theorem noStranded_step_iff {s t : State} {a : Act} (h : NoStranded s)
    (hs : refreshSystem.step s a = some t) : NoStranded t ↔ savesInTime s a = true := by
  cases a with
  | call n c =>
      simp only [refreshSystem] at hs
      split at hs
      · cases hs
        exact iff_of_true (h.quiet rfl rfl rfl (fun key => by simp [*])) rfl
      · cases hs
  | run n =>
      simp only [refreshSystem, exec] at hs
      cases hpc : s.pc n with
      | idle | returned => simp [hpc] at hs
      | createTask param caps =>
          simp only [hpc, Option.some.injEq] at hs
          subst hs
          refine iff_of_true (h.quiet rfl rfl rfl (fun key => by simp [hpc])) ?_
          simp [savesInTime, hpc]
      | query networkId uuid caps =>
          cases caps <;> simp only [hpc, Option.some.injEq] at hs <;> subst hs <;>
            refine iff_of_true (h.quiet rfl rfl rfl (fun key => by simp [hpc])) ?_ <;>
            simp [savesInTime, hpc]
      | fetchNeedRefreshTask key =>
          refine iff_of_true ?_ (by simp [savesInTime, hpc])
          simp only [hpc] at hs
          split at hs <;> cases hs
          · refine h.fetch hpc rfl rfl (fun key' => ?_)
            split
            · simp [*]
            · rfl
          · exact h.fetch hpc rfl rfl (fun key' => Store.get_erase _ _ _)
      | saveNeedRefreshTask param caps =>
          simp only [hpc, Option.some.injEq] at hs
          subst hs
          rw [noStranded_save_iff h (fun key => by simp [hpc]) (fun key => by simp)]
          simp [savesInTime, hpc]
      | writeState key state =>
          simp only [hpc, Option.some.injEq] at hs
          subst hs
          exact noStranded_writeState_iff h hpc

/-- No call is in progress. -/
def Idle (s : State) : Prop := ∀ n, s.pc n = .idle ∨ s.pc n = .returned

theorem idle_of_keys {s : State} (h : ∀ n ∈ s.pcs.keys, s.pc n = .returned) : Idle s := by
  intro n
  by_cases hn : n ∈ s.pcs.keys
  · exact .inr (h n hn)
  · refine .inl ?_
    cases hp : s.pcs.get n with
    | none => simp [State.pc, hp]
    | some c => exact absurd ((Store.mem_keys_iff s.pcs n).mpr ⟨c, hp⟩) hn

/-- Exactly where every refresh is saved in time is none ever stranded; then, with no
call in progress, refreshes wait only for hardware that is busy. -/
theorem noStranded_iff_savesInTime {acts : List Act} {s : State} :
    (refreshSystem.RunIn NoStranded acts s ↔
      refreshSystem.Run (fun s a => savesInTime s a = true) acts s) ∧
    (refreshSystem.Run (fun s a => savesInTime s a = true) acts s → Idle s →
      ∀ key, (s.needRefreshTaskParams.get key).isSome →
        ∃ state, s.dhBizStates.get key = some state ∧ isBusy state = true) := by
  have initial : ∀ s, refreshSystem.init s → NoStranded s := by
    rintro _ rfl key hkey
    cases hkey
  have runs : refreshSystem.RunIn NoStranded acts s ↔
      refreshSystem.Run (fun s a => savesInTime s a = true) acts s :=
    TransitionSystem.runIn_iff_run initial (fun _ _ _ _ => noStranded_step_iff)
  refine ⟨runs, fun run idle key hkey => ?_⟩
  obtain hbusy | hpending := TransitionSystem.RunIn.good initial (runs.mpr run) key hkey
  · rwa [busy, Option.any_eq_true] at hbusy
  · obtain ⟨n, hn⟩ := fetchPending_iff.mp hpending
    obtain h | h := idle n <;> rw [hn] at h <;> cases h

section Camera

/-- The camera of device A is running when its record comes, and goes on running. -/
private def savedInTime : List Act :=
  [.call 0 (.updateBusinessState "nA" "camera" .running), .run 0,
    .call 1 (.processFullCapsRsp "nA" [{ dhId := "camera" }]
      (addOnlineDevice sampleSha256 "dA" "uA" "nA" ∅)), .run 1, .run 1, .run 1]

theorem noStranded_iff_savesInTime_camera :
    ∃ s ∈ refreshSystem.replay (fun s a => savesInTime s a = true) {} savedInTime,
      (s.needRefreshTaskParams.get ("nA", "camera")).isSome ∧
      ∃ state, s.dhBizStates.get ("nA", "camera") = some state ∧ isBusy state = true := by
  have run : ∃ s ∈ refreshSystem.replay (fun s a => savesInTime s a = true) {} savedInTime,
      (∀ n ∈ s.pcs.keys, s.pc n = .returned) ∧
      (s.needRefreshTaskParams.get ("nA", "camera")).isSome := by
    decide +kernel
  obtain ⟨s, hs, hpcs, hneed⟩ := run
  exact ⟨s, hs, hneed, noStranded_iff_savesInTime.2 (TransitionSystem.run_of_replay rfl hs)
    (idle_of_keys hpcs) _ hneed⟩

/-- The camera becomes idle between the query and the save. -/
private def savedTooLate : List Act :=
  [.call 0 (.updateBusinessState "nA" "camera" .running), .run 0,
    .call 1 (.processFullCapsRsp "nA" [{ dhId := "camera" }]
      (addOnlineDevice sampleSha256 "dA" "uA" "nA" ∅)), .run 1,
    .call 2 (.updateBusinessState "nA" "camera" .idle), .run 2, .run 2, .run 1, .run 1]

/-- Nothing is in progress, the camera is idle and its refresh is still saved. -/
theorem exists_stranded_refresh :
    ∃ s, refreshSystem.Reachable s ∧ Idle s ∧
      s.needRefreshTaskParams.get ("nA", "camera") =
        some { deviceA with udid := "", dhId := "camera" } ∧
      s.dhBizStates.get ("nA", "camera") = some .idle := by
  have run : ∃ s ∈ refreshSystem.replay (fun _ _ => True) {} savedTooLate,
      (∀ n ∈ s.pcs.keys, s.pc n = .returned) ∧
      s.needRefreshTaskParams.get ("nA", "camera") =
        some { deviceA with udid := "", dhId := "camera" } ∧
      s.dhBizStates.get ("nA", "camera") = some .idle := by
    decide +kernel
  obtain ⟨s, hs, hpcs, h⟩ := run
  exact ⟨s, (TransitionSystem.run_of_replay rfl hs).reachable, idle_of_keys hpcs, h⟩

end Camera
end Refresh
end DistributedHardware
