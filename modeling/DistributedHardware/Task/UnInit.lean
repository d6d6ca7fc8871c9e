import DistributedHardware.Task.OfflineBarrier

/-!
When the framework is uninitialised.

An `OffLineTask` removes itself from the board and then, in three more sections,
decides whether to call `UnInit`; `UnInit` clears the flag that `SendOffLineEvent`
has set. The first part asks how often `UnInit` is called, the second whether the
flag is ever left behind.
-/

namespace DistributedHardware
variable {sha256 : String → String}

/-- Between the removal from the board and the decision about `UnInit`. -/
def TaskPoint.deciding : TaskPoint → Bool
  | .realTimeCount | .isomerismCount | .allTaskFinish => true
  | _ => false

/-- In `UnInit`, with the flag still to clear. -/
def TaskPoint.clearing : TaskPoint → Bool
  | .release | .storeIsInit | .storeFlagUnInit => true
  | _ => false

/-- Past the decision. -/
def Pc.decided : Pc → Bool
  | .returned _ => true
  | .body pt => pt.stage = 3 && !pt.deciding
  | _ => false

/-- The `OffLineTask` takes the branch to `UnInit` in its next section. -/
def CallsUnInit (s : Sys) (f : TaskId) : Prop :=
  s.pc (.task f) = .body .allTaskFinish ∧ s.sh.tasks = ∅

theorem decided_step {s t : Sys} {a : Act} {f : TaskId} (life : Lifecycle s)
    (hs : step sha256 s a = some t) (h : (s.pc (.task f)).decided = true) :
    (t.pc (.task f)).decided = true := by
  cases thread_step life hs (.task f) with
  | stays hpc => rw [hpc]; exact h
  | called hq => cases hq
  | started _ hidle => rw [hidle] at h; cases h
  | @runs ch sh' c' he ht =>
      subst ht
      rw [Sys.pc_setPc, if_pos rfl]
      cases hpc : s.pc (.task f) with
      | body pt =>
          rw [hpc] at h he
          obtain ⟨param, -, he⟩ := exec_body he
          cases pt with
          | release | storeIsInit | storeFlagUnInit | managerInitialize | storeIsInitAgain =>
              obtain ⟨-, rfl⟩ := he
              rfl
          | checkExitSa =>
              simp only [taskBody, Option.some.injEq, Prod.mk.injEq] at he
              obtain ⟨-, rfl⟩ := he
              split <;> rfl
          | _ => cases h
      | returned ret =>
          rw [hpc] at he
          cases he
      | _ => rw [hpc] at h; cases h

theorem Family.decided_of_stage {s : Sys} (fam : Family s) {f : TaskId}
    (hstage : (s.pc (.task f)).stage = 3)
    (undecided : ∀ pt, s.pc (.task f) = .body pt → pt.deciding = false) :
    (s.pc (.task f)).decided = true := by
  obtain ⟨kind, -, hfits⟩ := fam.fits f (fun hidle => by simp [hidle] at hstage)
  cases hpc : s.pc (.task f) with
  | idle => simp [hpc] at hstage
  | returned ret => rfl
  | sendOnLine _ _ | sendOffLine _ _ | createTask _ _ => simp [hpc, Pc.Fits] at hfits
  | body pt =>
      rw [hpc, Pc.stage_body] at hstage
      simp [Pc.decided, hstage, undecided pt hpc]
  | addChildrenTask _ next | addTask _ next | pushTask _ next =>
      rw [hpc] at hstage hfits
      cases next with
      | returned ret => exact hfits.2.elim
      | body pt => exact absurd hstage hfits.2.2

/-- A task whose body has left the board was on it before. -/
theorem mem_tasks_of_stage {s t : Sys} {a : Act} {f : TaskId}
    (h : (taskSystem sha256).Reachable s) (hs : step sha256 s a = some t)
    (before : (s.pc (.task f)).stage ≠ 3) (after : (t.pc (.task f)).stage = 3) :
    f ∈ s.sh.tasks := by
  have life := lifecycle h
  have hstarted : s.pc (.task f) ≠ .idle := by
    intro hidle
    cases thread_step life hs (.task f) with
    | stays hpc => exact before (hpc ▸ after)
    | called hq => cases hq
    | started _ _ hpc => simp [hpc] at after
    | runs he => rw [hidle] at he; cases he
  obtain ⟨p, hp⟩ | hmem | hstage := (onBoard h).added f (life.started f hstarted)
  · exact absurd (life.creating p f (Pc.creating_of_adding hp)).2.2 hstarted
  · exact hmem
  · exact absurd hstage before

/-- Between two calls of `UnInit` a task was put on the board, unless the second
caller had already left the board at the first call. -/
theorem task_added_between_unInit_calls {s r t : Sys} {f g : TaskId} {ch : Choice}
    {acts : List Act} (h : (taskSystem sha256).Reachable s) (first : CallsUnInit s g)
    (hs : step sha256 s (.run (.task g) ch) = some r)
    (path : (taskSystem sha256).Path (fun _ _ => True) r acts t) (second : CallsUnInit t f)
    (other : f ≠ g → ∀ pt, s.pc (.task f) = .body pt → pt.deciding = false) :
    ∃ pre a post m m', acts = pre ++ a :: post ∧
      (taskSystem sha256).Path (fun _ _ => True) r pre m ∧ step sha256 m a = some m' ∧
      (taskSystem sha256).Path (fun _ _ => True) m' post t ∧
      ∃ id, id ∉ m.sh.tasks ∧ id ∈ m'.sh.tasks := by
  have reach := reachable_step h hs
  obtain ⟨hg, hempty⟩ := first
  obtain ⟨hf, -⟩ := second
  -- the first caller goes on into `UnInit`, and the board stays empty in that step
  have hr : r = s.setPc (.task g) (.body .release) := by
    obtain ⟨sh', c', he, rfl⟩ := step_run hs
    rw [hg] at he
    obtain ⟨param, -, he⟩ := exec_body he
    simp only [taskBody, Shared.isAllTaskFinish, hempty, decide_true, if_true,
      Option.some.injEq, Prod.mk.injEq] at he
    obtain ⟨rfl, rfl⟩ := he
    rfl
  have undecided : (r.pc (.task f)).decided = false := by
    by_contra hd
    have stays : (t.pc (.task f)).decided = true :=
      path.invariant (I := fun x => (x.pc (.task f)).decided = true)
        (fun _ _ _ hx hd _ hs => decided_step (lifecycle hx) hs hd) reach (by simpa using hd)
    rw [hf] at stays
    cases stays
  have before : ¬ (f ∈ r.sh.tasks ∨ (r.pc (.task f)).stage = 3) := by
    rintro (hmem | hstage)
    · rw [hr, Sys.sh_setPc, hempty] at hmem
      exact absurd hmem (Finset.notMem_empty f)
    · rw [hr, Sys.pc_setPc] at hstage undecided
      split at undecided
      case isTrue => cases undecided
      case isFalse hne =>
        rw [if_neg hne] at hstage
        have := (family h).decided_of_stage hstage (other (by rintro rfl; exact hne rfl))
        rw [undecided] at this
        cases this
  have after : f ∈ t.sh.tasks ∨ (t.pc (.task f)).stage = 3 := .inr (by rw [hf]; rfl)
  obtain ⟨pre, a, post, m, m', hacts, hpre, -, hstep, hpost, hm, hm'⟩ :=
    path.gained (P := fun x => f ∈ x.sh.tasks ∨ (x.pc (.task f)).stage = 3) before after
  refine ⟨pre, a, post, m, m', hacts, hpre, hstep, hpost, f, fun hmem => hm (.inl hmem), ?_⟩
  obtain hmem | hstage := hm'
  · exact hmem
  · exact absurd (.inl (mem_tasks_of_stage (hpre.reachable reach) hstep
      (fun h3 => hm (.inr h3)) hstage)) hm

/-- Device A goes offline and its `OffLineTask`, task 2, comes to its decision. -/
private def firstDrain : List Act :=
  .call 0 (.sendOnLineEvent deviceA) :: runs (.call 0) 10 { newId := 1 } ++
  .call 1 (.sendOffLineEvent deviceA) :: runs (.call 1) 9 { newId := 2 } ++
  dispatch ++ runs (.task 1) 11 { newId := 3 } ++
  dispatch ++ .startSubmitted 2 :: runs (.task 2) 8 { newId := 4 } ++
  dispatch ++ dispatch ++ .startSubmitted 3 :: runs (.task 3) 2 {} ++
  .startSubmitted 4 :: runs (.task 4) 3 {} ++ runs (.task 2) 6 {}

/-- It comes online and goes offline again; its second `OffLineTask` is task 6. -/
private def secondDrain : List Act :=
  runs (.task 2) 4 {} ++
  .call 2 (.sendOnLineEvent deviceA) :: runs (.call 2) 10 { newId := 5 } ++
  .call 3 (.sendOffLineEvent deviceA) :: runs (.call 3) 9 { newId := 6 } ++
  dispatch ++ runs (.task 5) 11 { newId := 7 } ++
  dispatch ++ .startSubmitted 6 :: runs (.task 6) 8 { newId := 8 } ++
  dispatch ++ dispatch ++ .startSubmitted 7 :: runs (.task 7) 2 {} ++
  .startSubmitted 8 :: runs (.task 8) 3 {} ++ runs (.task 6) 6 {}

theorem task_added_between_unInit_calls_deviceA :
    ∃ s r t, (taskSystem sampleSha256).Reachable s ∧ CallsUnInit s 2 ∧
      step sampleSha256 s (.run (.task 2) {}) = some r ∧ CallsUnInit t 6 ∧
      ∃ pre a post m m', secondDrain = pre ++ a :: post ∧
        (taskSystem sampleSha256).Path (fun _ _ => True) r pre m ∧
        step sampleSha256 m a = some m' ∧
        (taskSystem sampleSha256).Path (fun _ _ => True) m' post t ∧
        ∃ id, id ∉ m.sh.tasks ∧ id ∈ m'.sh.tasks := by
  have run : ∃ s ∈ (taskSystem sampleSha256).replay (fun _ _ => True) {} firstDrain,
      (s.pc (.task 2) = .body .allTaskFinish ∧ s.sh.tasks = ∅) ∧ s.pc (.task 6) = .idle ∧
      ∃ r ∈ step sampleSha256 s (.run (.task 2) {}),
      ∃ t ∈ (taskSystem sampleSha256).replay (fun _ _ => True) r secondDrain,
        t.pc (.task 6) = .body .allTaskFinish ∧ t.sh.tasks = ∅ := by
    decide +kernel
  obtain ⟨s, hs, first, hidle, r, hr, t, ht, second⟩ := run
  have reach := (TransitionSystem.run_of_replay rfl hs).reachable
  refine ⟨s, r, t, reach, first, hr, second, ?_⟩
  exact task_added_between_unInit_calls reach first hr (TransitionSystem.path_of_replay ht) second
    (fun _ pt hpt => by rw [hidle] at hpt; cases hpt)

/-- Devices A and B go offline together: both `OffLineTask`s, 3 and 4, leave the board
before either looks at it. -/
private def doubleDrain : List Act :=
  .call 0 (.sendOnLineEvent deviceA) :: runs (.call 0) 10 { newId := 1 } ++
  .call 1 (.sendOnLineEvent deviceB) :: runs (.call 1) 8 { newId := 2 } ++
  .call 2 (.sendOffLineEvent deviceA) :: runs (.call 2) 7 { newId := 3 } ++
  .call 3 (.sendOffLineEvent deviceB) :: runs (.call 3) 9 { newId := 4 } ++
  dispatch ++ runs (.task 1) 11 { newId := 5 } ++ dispatch ++ runs (.task 2) 11 { newId := 6 } ++
  dispatch ++ dispatch ++ .startSubmitted 3 :: runs (.task 3) 8 { newId := 7 } ++
  .startSubmitted 4 :: runs (.task 4) 8 { newId := 8 } ++
  dispatch ++ dispatch ++ dispatch ++ dispatch ++
  .startSubmitted 5 :: runs (.task 5) 2 {} ++ .startSubmitted 6 :: runs (.task 6) 2 {} ++
  .startSubmitted 7 :: runs (.task 7) 3 {} ++ .startSubmitted 8 :: runs (.task 8) 3 {} ++
  runs (.task 3) 4 {} ++ runs (.task 4) 4 {} ++ runs (.task 3) 2 {} ++ runs (.task 4) 2 {}

/-- Two calls of `UnInit` one right after the other. -/
theorem exists_unInit_twice :
    ∃ s r, (taskSystem sampleSha256).Reachable s ∧ CallsUnInit s 3 ∧
      step sampleSha256 s (.run (.task 3) {}) = some r ∧ CallsUnInit r 4 := by
  have run : ∃ s ∈ (taskSystem sampleSha256).replay (fun _ _ => True) {} doubleDrain,
      (s.pc (.task 3) = .body .allTaskFinish ∧ s.sh.tasks = ∅) ∧
      ∃ r ∈ step sampleSha256 s (.run (.task 3) {}),
        r.pc (.task 4) = .body .allTaskFinish ∧ r.sh.tasks = ∅ := by
    decide +kernel
  obtain ⟨s, hs, first, r, hr, second⟩ := run
  exact ⟨s, r, (TransitionSystem.run_of_replay rfl hs).reachable, first, hr, second⟩

section Flag

/-- Between the store of the flag and the `AddTask` of an `OffLineTask`. -/
def addsOffLine (sh : Shared) : Pc → Bool
  | .sendOffLine .createTask _ => true
  | .addTask id _ => sh.typeOf id = some .offLine
  | _ => false

def OffLineOnBoard (s : Sys) : Prop := ∃ id ∈ s.sh.tasks, s.sh.typeOf id = some .offLine

/-- Where the flag is set, and no event is about to add its `OffLineTask` and no
`OffLineTask` about to decide, one is on the board or `UnInit` is on its way to
clear the flag. -/
def FlagOwned (s : Sys) : Prop :=
  s.sh.flagUnInit = true → (∀ p, addsOffLine s.sh (s.pc p) = false) →
    (∀ f pt, s.pc (.task f) = .body pt → pt.deciding = false) →
    OffLineOnBoard s ∨ ∃ f pt, s.pc (.task f) = .body pt ∧ pt.clearing = true

/-- An `OffLineTask` returns from its decision without calling `UnInit`. -/
def finalCheckFails (s : Sys) (f : TaskId) : Bool :=
  match s.pc (.task f) with
  | .body .realTimeCount => s.sh.getRealTimeOnlineDeviceCount != 0
  | .body .isomerismCount => s.sh.getIsomerismConnectCount != 0
  | .body .allTaskFinish => s.sh.tasks != ∅
  | _ => false

/-- Someone other than task `f` will come to the decision, or clear the flag. -/
def HasSuccessor (s : Sys) (f : TaskId) : Prop :=
  OffLineOnBoard s ∨ (∃ p, addsOffLine s.sh (s.pc p) = true) ∨
    ∃ g ≠ f, ∃ pt, s.pc (.task g) = .body pt ∧ (pt.deciding || pt.clearing) = true

/-- The condition on a step: an `OffLineTask` whose final check fails while the flag
is set leaves a successor. -/
def HandsOver (s : Sys) : Act → Prop
  | .run (.task f) _ =>
      finalCheckFails s f = true → s.sh.flagUnInit = true → HasSuccessor s f
  | _ => True

/-- The flag has an owner: this is `FlagOwned` with its two windows as cases. -/
def FlagCarried (s : Sys) : Prop :=
  s.sh.flagUnInit = true → OffLineOnBoard s ∨ (∃ p, addsOffLine s.sh (s.pc p) = true) ∨
    ∃ f pt, s.pc (.task f) = .body pt ∧ (pt.deciding || pt.clearing) = true

theorem flagOwned_iff_flagCarried {s : Sys} : FlagOwned s ↔ FlagCarried s := by
  constructor
  · intro h hflag
    by_cases hadds : ∃ p, addsOffLine s.sh (s.pc p) = true
    · exact .inr (.inl hadds)
    · by_cases hdecides : ∃ f pt, s.pc (.task f) = .body pt ∧ pt.deciding = true
      · obtain ⟨f, pt, hpc, hpt⟩ := hdecides
        exact .inr (.inr ⟨f, pt, hpc, by simp [hpt]⟩)
      · push Not at hadds hdecides
        obtain hboard | ⟨f, pt, hpc, hpt⟩ :=
          h hflag (by simpa using hadds) (by simpa using hdecides)
        · exact .inl hboard
        · exact .inr (.inr ⟨f, pt, hpc, by simp [hpt]⟩)
  · intro h hflag hadds hdecides
    obtain hboard | ⟨p, hp⟩ | ⟨f, pt, hpc, hpt⟩ := h hflag
    · exact .inl hboard
    · simp [hadds p] at hp
    · exact .inr ⟨f, pt, hpc, by simpa [hdecides f pt hpc] using hpt⟩

theorem exec_flag {sh sh' : Shared} {ch : Choice} {p : ProcId} {c c' : Pc}
    (h : exec sha256 sh ch p c = some (sh', c')) (hflag : sh'.flagUnInit = true) :
    sh.flagUnInit = true ∨
      ∃ n param, p = .call n ∧ c = .sendOffLine .storeFlagUnInit param ∧
        c' = .sendOffLine .createTask param := by
  cases exec_devices h with
  | same same => exact .inl (same.flagUnInit ▸ hflag)
  | storeFlagUnInit => exact .inr ⟨_, _, rfl, rfl, rfl⟩
  | clearFlagUnInit => cases hflag
  | addOnlineDevice | addRealTime | deleteRealTime | removeOnlineEntry | registerHardware
  | unRegisterHardware => exact .inl hflag

/-- The flag is set only by an event that goes on to add its `OffLineTask`. -/
theorem step_flag {s t : Sys} {a : Act} (hs : step sha256 s a = some t)
    (hflag : t.sh.flagUnInit = true) :
    s.sh.flagUnInit = true ∨ ∃ p, addsOffLine t.sh (t.pc p) = true := by
  by_cases hrun : ∃ p ch, a = .run p ch
  · obtain ⟨p, ch, rfl⟩ := hrun
    obtain ⟨sh', c', he, rfl⟩ := step_run hs
    obtain hbefore | ⟨n, param, rfl, -, rfl⟩ := exec_flag he hflag
    · exact .inl hbefore
    · exact .inr ⟨_, by rw [Sys.pc_setPc_self]; rfl⟩
  · push Not at hrun
    exact .inl ((step_devices hs hrun).flagUnInit ▸ hflag)

/-- An `OffLineTask` leaves the board only by its own removal. -/
theorem step_offLineOnBoard {s t : Sys} {a : Act} {id : TaskId} (fam : Family s)
    (hs : step sha256 s a = some t) (hmem : id ∈ s.sh.tasks)
    (hk : s.sh.typeOf id = some .offLine) :
    OffLineOnBoard t ∨ t.pc (.task id) = .body .realTimeCount := by
  have keeps := step_keepsTask hs (Shared.allocated_of_typeOf hk)
  have stays (h : id ∈ t.sh.tasks) : OffLineOnBoard t := ⟨id, h, keeps.typeOf.trans hk⟩
  cases step_effect hs with
  | @run p ch sh' c' effect =>
      generalize hc : s.pc p = c at effect
      cases effect with
      | call same | body same | finish same | bodyReturn same =>
          exact .inl (stays (same.tasks ▸ hmem))
      | callCreate new | bodyCreate new => exact .inl (stays (Shared.tasks_newTask new ▸ hmem))
      | addChildrenTask => exact .inl (stays (by simpa [Shared.tasks_addChildrenTask] using hmem))
      | addTask => exact .inl (stays ((Shared.mem_tasks_addTask _ _ _).mpr (.inr hmem)))
      | pushTask =>
          exact .inl (stays (by simpa [(Shared.sameBoard_pushTask s.sh _).tasks] using hmem))
      | passWait => exact .inl (stays hmem)
      | notifyFather => exact .inl (stays (by simpa [Shared.tasks_notifyFatherFinish] using hmem))
      | @leaveBoard id' pt sh' c' same hpt =>
          by_cases heq : id = id'
          · subst heq
            obtain ⟨rfl, rfl⟩ | ⟨-, hkind⟩ := hpt
            · exact .inr (by simp)
            · exact absurd (fam.kind_mem hc hk) hkind
          · refine .inl (stays ?_)
            rw [Sys.sh_setPc, same.tasks]
            exact Finset.mem_erase.mpr ⟨heq, hmem⟩
  | call => exact .inl (stays hmem)
  | start _ same | move same | reject same => exact .inl (stays (same.tasks ▸ hmem))

/-- A thread about to add an `OffLineTask` goes on to do so. -/
theorem step_addsOffLine {s t : Sys} {a : Act} {p : ProcId} (life : Lifecycle s)
    (hs : step sha256 s a = some t) (h : addsOffLine s.sh (s.pc p) = true) :
    OffLineOnBoard t ∨ addsOffLine t.sh (t.pc p) = true := by
  cases thread_step life hs p with
  | stays hpc =>
      refine .inr ?_
      rw [hpc]
      cases hc : s.pc p with
      | addTask id next =>
          rw [hc] at h
          have hk : s.sh.typeOf id = some .offLine := by simpa [addsOffLine] using h
          simpa [addsOffLine] using
            (step_keepsTask hs (Shared.allocated_of_typeOf hk)).typeOf.trans hk
      | sendOffLine pt param =>
          rw [hc] at h
          cases pt <;> first | rfl | cases h
      | _ => rw [hc] at h; cases h
  | called _ hidle | started _ hidle => rw [hidle] at h; cases h
  | @runs ch sh' c' he ht =>
      subst ht
      cases hc : s.pc p with
      | addTask id next =>
          rw [hc] at h he
          have hk : s.sh.typeOf id = some .offLine := by simpa [addsOffLine] using h
          have hadd : sh' = s.sh.addTask id := by cases p <;> cases he <;> rfl
          refine .inl ⟨id, ?_, ?_⟩
          · rw [Sys.sh_setPc, hadd]
            exact (Shared.mem_tasks_addTask _ _ _).mpr (.inl rfl)
          · rw [Sys.sh_setPc, hadd, (Shared.sameHeads_addTask _ _).typeOf, hk]
      | sendOffLine pt param =>
          rw [hc] at h he
          cases pt with
          | createTask =>
              cases p with
              | task id => cases he
              | call n =>
                  obtain ⟨hnew, rfl⟩ := createThen_eq_some he
                  exact .inr (by simp [addsOffLine, Shared.typeOf_newTask hnew])
          | _ => cases h
      | _ => rw [hc] at h; cases h

/-- A task that decides or uninitialises goes on to clear the flag, or its final
check fails. -/
theorem step_deciding {s t : Sys} {a : Act} {f : TaskId} {pt : TaskPoint} (life : Lifecycle s)
    (hs : step sha256 s a = some t) (hpc : s.pc (.task f) = .body pt)
    (h : (pt.deciding || pt.clearing) = true) :
    t.sh.flagUnInit = false ∨ (∃ ch, a = .run (.task f) ch ∧ finalCheckFails s f = true) ∨
      ∃ pt', t.pc (.task f) = .body pt' ∧ (pt'.deciding || pt'.clearing) = true := by
  cases thread_step life hs (.task f) with
  | stays hpc' => exact .inr (.inr ⟨pt, hpc'.trans hpc, h⟩)
  | called hq => cases hq
  | started _ hidle => rw [hidle] at hpc; cases hpc
  | @runs ch sh' c' he ht =>
      subst ht
      rw [hpc] at he
      obtain ⟨param, -, he⟩ := exec_body he
      cases pt with
      | realTimeCount | isomerismCount | allTaskFinish =>
          simp only [taskBody, Option.some.injEq, Prod.mk.injEq] at he
          obtain ⟨rfl, rfl⟩ := he
          split
          case isTrue => exact .inr (.inr ⟨_, Sys.pc_setPc_self _ _ _, rfl⟩)
          case isFalse hno =>
            refine .inr (.inl ⟨ch, rfl, ?_⟩)
            simpa [finalCheckFails, hpc, Shared.isAllTaskFinish] using hno
      | release | storeIsInit =>
          obtain ⟨rfl, rfl⟩ := he
          exact .inr (.inr ⟨_, Sys.pc_setPc_self _ _ _, rfl⟩)
      | storeFlagUnInit =>
          obtain ⟨rfl, rfl⟩ := he
          exact .inl rfl
      | _ => cases h

theorem FlagCarried.step {s t : Sys} {a : Act} (h : FlagCarried s) (fam : Family s)
    (life : Lifecycle s) (ok : HandsOver s a) (hs : step sha256 s a = some t) : FlagCarried t := by
  intro hflag
  -- what carries the flag before the step carries it after, final checks apart
  have board : OffLineOnBoard s → OffLineOnBoard t ∨ (∃ p, addsOffLine t.sh (t.pc p) = true) ∨
      ∃ f pt, t.pc (.task f) = .body pt ∧ (pt.deciding || pt.clearing) = true := by
    rintro ⟨id, hmem, hk⟩
    obtain hboard | hpc := step_offLineOnBoard fam hs hmem hk
    · exact .inl hboard
    · exact .inr (.inr ⟨id, _, hpc, rfl⟩)
  have adds : (∃ p, addsOffLine s.sh (s.pc p) = true) →
      OffLineOnBoard t ∨ (∃ p, addsOffLine t.sh (t.pc p) = true) ∨
      ∃ f pt, t.pc (.task f) = .body pt ∧ (pt.deciding || pt.clearing) = true := by
    rintro ⟨p, hp⟩
    obtain hboard | hadds := step_addsOffLine life hs hp
    · exact .inl hboard
    · exact .inr (.inl ⟨p, hadds⟩)
  have before := step_flag hs hflag
  obtain hbefore | hadds := before
  · obtain hboard | hadds | ⟨f, pt, hpc, hpt⟩ := h hbefore
    · exact board hboard
    · exact adds hadds
    · obtain hclear | ⟨ch, rfl, hfails⟩ | ⟨pt', hpc', hpt'⟩ := step_deciding life hs hpc hpt
      · rw [hclear] at hflag
        cases hflag
      · obtain hboard | hadds | ⟨g, hne, pt', hpc', hpt'⟩ := ok hfails hbefore
        · exact board hboard
        · exact adds hadds
        · obtain hclear | ⟨ch', heq, -⟩ | ⟨pt'', hpc'', hpt''⟩ := step_deciding life hs hpc' hpt'
          · rw [hclear] at hflag
            cases hflag
          · cases heq
            exact absurd rfl hne
          · exact .inr (.inr ⟨g, pt'', hpc'', hpt''⟩)
      · exact .inr (.inr ⟨f, pt', hpc', hpt'⟩)
  · exact .inr (.inl hadds)

/-- A failed final check without a successor leaves the flag behind. -/
theorem handsOver_of_flagCarried {s t : Sys} {a : Act}
    (hs : step sha256 s a = some t) (good : FlagCarried t) : HandsOver s a := by
  cases a with
  | run p ch =>
      cases p with
      | call n => trivial
      | task f =>
          intro hfails hflag
          have ht : t = s.setPc (.task f) (.returned dhFwkSuccess) := by
            obtain ⟨sh', c', he, rfl⟩ := step_run hs
            simp only [finalCheckFails] at hfails
            split at hfails
            case h_1 hpc | h_2 hpc | h_3 hpc =>
              rw [hpc] at he
              obtain ⟨param, -, he⟩ := exec_body he
              simp only [taskBody, Option.some.injEq, Prod.mk.injEq] at he
              obtain ⟨rfl, rfl⟩ := he
              rw [if_neg (by simpa [Shared.isAllTaskFinish] using hfails)]
            case h_4 => cases hfails
          subst ht
          obtain hboard | ⟨p, hp⟩ | ⟨g, pt, hpc, hpt⟩ := good hflag
          · exact .inl hboard
          · refine .inr (.inl ⟨p, ?_⟩)
            rw [Sys.pc_setPc] at hp
            split at hp
            case isTrue => cases hp
            case isFalse => exact hp
          · rw [Sys.pc_setPc] at hpc
            split at hpc
            case isTrue => cases hpc
            case isFalse hne => exact .inr (.inr ⟨g, by rintro rfl; exact hne rfl, pt, hpc, hpt⟩)
  | call _ _ | popTask | postTask _ | runPosted | startSubmitted _ | isomerism _ _
  | registries _ _ _ => trivial

theorem flagCarried_step_iff {s t : Sys} {a : Act} (reach : (taskSystem sha256).Reachable s)
    (h : FlagCarried s) (hs : step sha256 s a = some t) : FlagCarried t ↔ HandsOver s a :=
  ⟨handsOver_of_flagCarried hs, fun ok => h.step (family reach) (lifecycle reach) ok hs⟩

theorem flagOwned_iff_handsOver {acts : List Act} {s : Sys} :
    (taskSystem sha256).RunIn FlagOwned acts s ↔ (taskSystem sha256).Run HandsOver acts s := by
  refine TransitionSystem.runIn_iff_run ?_ (fun _ _ _ reach owned hs => ?_)
  · rintro _ rfl hflag
    cases hflag
  · exact flagOwned_iff_flagCarried.trans
      (flagCarried_step_iff reach (flagOwned_iff_flagCarried.mp owned) hs)

/-- Device A goes offline while an `EnableTask` that a notification of the DB has
created is on the board: the last `OffLineTask` finds the board not empty. -/
private def strandedFlag : List Act :=
  .call 0 (.sendOnLineEvent deviceA) :: runs (.call 0) 10 { newId := 1 } ++
  dispatch ++ runs (.task 1) 11 { newId := 2 } ++
  dispatch ++ .startSubmitted 2 :: runs (.task 2) 2 {} ++
  .call 1 (.createTask .enable { deviceA with dhId := "camera" }) ::
    runs (.call 1) 3 { newId := 3 } ++
  .call 2 (.sendOffLineEvent deviceA) :: runs (.call 2) 9 { newId := 4 } ++
  dispatch ++ dispatch ++ .startSubmitted 4 :: runs (.task 4) 8 { newId := 5 } ++
  dispatch ++ .startSubmitted 5 :: runs (.task 5) 3 {} ++ runs (.task 4) 7 {} ++
  .startSubmitted 3 :: runs (.task 3) 2 { ok := false }

/-- Nothing runs, nothing is on the board, and the flag is set. -/
theorem exists_flagUnInit_stranded :
    ∃ s, (taskSystem sampleSha256).Reachable s ∧ s.sh.flagUnInit = true ∧ s.sh.tasks = ∅ ∧
      ∀ p, s.pc p = .idle ∨ ∃ ret, s.pc p = .returned ret := by
  have run : ∃ s ∈ (taskSystem sampleSha256).replay (fun _ _ => True) {} strandedFlag,
      s.sh.flagUnInit = true ∧ s.sh.tasks = ∅ ∧
      ∀ p ∈ s.pcs.keys, s.pc p = .returned dhFwkSuccess := by
    decide +kernel
  obtain ⟨s, hs, hflag, hempty, hpcs⟩ := run
  refine ⟨s, (TransitionSystem.run_of_replay rfl hs).reachable, hflag, hempty, fun p => ?_⟩
  by_cases hp : p ∈ s.pcs.keys
  · exact .inr ⟨_, hpcs p hp⟩
  · exact .inl (Sys.pc_of_notMem_keys hp)

end Flag
end DistributedHardware
