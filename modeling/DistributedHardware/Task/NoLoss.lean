import DistributedHardware.Task.Lifecycle
import DistributedHardware.Task.OfflineBarrier

/-!
No task is lost while the executor takes every task.

A task on the board, or in the waiting set of an `OffLineTask`, is being created,
queued, posted or running: the invariant holds exactly in the runs in which no
`PushTask` finds the queue full and every `PostTask` is accepted. A task dropped
in either place stays on the board for ever.
-/

namespace DistributedHardware
variable {sha256 : String → String}

def Running (s : Sys) (id : TaskId) : Prop :=
  s.pc (.task id) ≠ .idle ∧ ∀ ret, s.pc (.task id) ≠ .returned ret

/-- Between its `CreateTask` and `PushTask`, on its way through the executor, or
running. -/
def Alive (s : Sys) (id : TaskId) : Prop :=
  (∃ p, (s.pc p).creating = some id) ∨ id ∈ s.sh.pipeline ∨ Running s id

structure NoTaskLost (s : Sys) : Prop where
  board : ∀ id ∈ s.sh.tasks, Alive s id
  children : ∀ f, ∀ c ∈ s.sh.unFinishChildren f, Alive s c

/-- The executor takes the task of a step: its queue has room, or the event handler
accepts the closure. -/
def executorTakes (s : Sys) : Act → Bool
  | .run p _ =>
      match s.pc p with
      | .pushTask _ _ => s.sh.taskQueue.length ≤ maxTaskQueueLength
      | _ => true
  | .postTask accepted => accepted
  | _ => true

/-- Every task ever made is somewhere, or has run. -/
def Kept (s : Sys) : Prop :=
  ∀ id, s.sh.allocated id →
    (∃ p, (s.pc p).creating = some id) ∨ id ∈ s.sh.pipeline ∨ s.pc (.task id) ≠ .idle

theorem mem_pipeline_pushTask {sh : Shared} {id id' : TaskId}
    (room : sh.taskQueue.length ≤ maxTaskQueueLength) :
    id' ∈ (sh.pushTask id).pipeline ↔ id' = id ∨ id' ∈ sh.pipeline := by
  simp only [Shared.pushTask, Nat.not_lt.mpr room, if_false, Shared.pipeline,
    ← List.append_assoc, List.mem_append, List.mem_singleton]
  tauto

theorem Kept.step {s t : Sys} {a : Act} (h : Kept s) (life : Lifecycle s)
    (takes : executorTakes s a = true) (hs : step sha256 s a = some t) : Kept t := by
  cases place_effect hs with
  | quiet creating idle pipeline allocated =>
      simpa only [Kept, creating, ne_eq, idle, pipeline, allocated] using h
  | @create _ _ p id fresh before creating idle pipeline allocated =>
      intro id' ha
      simp only [creating, ne_eq, idle, pipeline]
      obtain rfl | ha := (allocated id').mp ha
      · exact .inl ⟨p, by simp⟩
      · obtain ⟨q, hq⟩ | hrest := h id' ha
        · refine .inl ⟨q, ?_⟩
          rw [if_neg (fun heq => by rw [heq, before] at hq; cases hq)]
          exact hq
        · exact .inr hrest
  | @push p ch id next hp =>
      have room : s.sh.taskQueue.length ≤ maxTaskQueueLength := by
        simpa [executorTakes, hp] using takes
      intro id' ha
      rw [Sys.sh_setPc, mem_pipeline_pushTask room]
      obtain ⟨q, hq⟩ | hmem | hne := h id' (((Shared.sameBoard_pushTask _ _).allocated id').mp ha)
      · by_cases heq : q = p
        · rw [heq, hp] at hq
          exact .inr (.inl (.inl (Option.some.inj hq).symm))
        · exact .inl ⟨q, by rw [Sys.pc_setPc, if_neg heq]; exact hq⟩
      · exact .inr (.inl (.inr hmem))
      · refine .inr (.inr ?_)
        rw [Sys.pc_setPc]
        split
        · cases next <;> simp [Next.pc]
        · exact hne
  | @start _ id sh' pt same perm =>
      have hidle := (life.waiting id (perm.mem_iff.mpr List.mem_cons_self)).2
      intro id' ha
      by_cases heq : id' = id
      · exact .inr (.inr (by simp [heq]))
      · obtain ⟨q, hq⟩ | hmem | hne := h id' ((same.allocated id').mp ha)
        · refine .inl ⟨q, ?_⟩
          rw [Sys.pc_setPc, if_neg (fun hq' => by rw [hq', hidle] at hq; cases hq)]
          exact hq
        · obtain hid | hmem := List.mem_cons.mp (perm.mem_iff.mp hmem)
          · exact absurd hid heq
          · exact .inr (.inl hmem)
        · exact .inr (.inr (by rw [Sys.pc_setPc, if_neg (by simpa using heq)]; exact hne))
  | move same perm =>
      intro id' ha
      obtain hq | hmem | hne := h id' ((same.allocated id').mp ha)
      · exact .inl hq
      · exact .inr (.inl (perm.mem_iff.mp hmem))
      · exact .inr (.inr hne)
  | reject => simp [executorTakes] at takes

theorem Kept.noTaskLost {s : Sys} (h : Kept s) (board : OnBoard s) (bar : Barrier s) :
    NoTaskLost s := by
  have alive : ∀ id, s.sh.allocated id → (s.pc (.task id)).stage ≠ 3 → Alive s id := by
    intro id ha hstage
    obtain hq | hmem | hne := h id ha
    · exact .inl hq
    · exact .inr (.inl hmem)
    · exact .inr (.inr ⟨hne, fun ret hret => hstage (by simp [hret])⟩)
  constructor
  case board =>
    intro id hmem
    exact alive id (board.onBoard id hmem).1 (board.onBoard id hmem).2.1
  case children =>
    intro f c hmem
    obtain ⟨hf, -, hstage⟩ := bar.unFinish f c hmem
    exact alive c (Shared.allocated_of_fatherOf hf) (by omega)

/-- A task that leaves its creator or the pipeline without going on is lost. -/
theorem executorTakes_of_noTaskLost {s t : Sys} {a : Act}
    (h : (taskSystem sha256).Reachable s) (hs : step sha256 s a = some t) (good : NoTaskLost t) :
    executorTakes s a = true := by
  have life := lifecycle h
  have board := onBoard h
  -- on the board, in no place, and not started
  have lost : ∀ id, s.sh.allocated id → s.pc (.task id) = .idle → t.pc (.task id) = .idle →
      (∀ p, (s.pc p).adding ≠ some id) → (id ∈ s.sh.tasks → id ∈ t.sh.tasks) →
      (∀ p, (t.pc p).creating ≠ some id) → id ∉ t.sh.pipeline → False := by
    intro id ha hidle hidle' hadd htasks hcreating hpipe
    obtain ⟨p, hp⟩ | hmem | hstage := board.added id ha
    · exact hadd p hp
    · obtain ⟨p, hp⟩ | hmem | hrun := good.board id (htasks hmem)
      · exact hcreating p hp
      · exact hpipe hmem
      · exact hrun.1 hidle'
    · simp [hidle] at hstage
  by_contra hno
  cases a with
  | run p ch =>
      cases hp : s.pc p with
      | pushTask id next =>
          have full : s.sh.taskQueue.length > maxTaskQueueLength := by
            simpa [executorTakes, hp] using hno
          have hexec : exec sha256 s.sh ch p (.pushTask id next) =
              some (s.sh.pushTask id, next.pc) := by cases p <;> rfl
          simp only [step, hp, hexec, Option.map_some, Option.some.injEq] at hs
          subst hs
          have hid : (s.pc p).creating = some id := by rw [hp]; rfl
          obtain ⟨ha, hpipe, hidle⟩ := life.creating p id hid
          have hne : p ≠ .task id := by
            rintro rfl
            rw [hidle] at hp
            cases hp
          refine lost id ha hidle (by simpa [hne.symm] using hidle) ?_ ?_ ?_ ?_
          · intro q hq
            have := life.creator q p id (Pc.creating_of_adding hq) hid
            rw [this, hp] at hq
            cases hq
          · simp [(Shared.sameBoard_pushTask s.sh id).tasks]
          · intro q hq
            rw [Sys.pc_setPc] at hq
            split at hq
            case isTrue => simp at hq
            case isFalse heq => exact heq (life.creator q p id hq hid)
          · simpa [Shared.pushTask, full] using hpipe
      | idle | returned _ | sendOnLine _ _ | sendOffLine _ _ | createTask _ _ | body _
      | addChildrenTask _ _ | addTask _ _ => exact hno (by simp [executorTakes, hp])
  | postTask accepted =>
      obtain rfl : accepted = false := by simpa [executorTakes] using hno
      cases hpop : s.sh.popped with
      | none => simp [step, hpop] at hs
      | some id =>
          simp only [step, hpop, Bool.false_eq_true, if_false, Option.some.injEq] at hs
          subst hs
          have hmem : id ∈ s.sh.pipeline := by simp [Shared.pipeline, hpop]
          obtain ⟨ha, hidle⟩ := life.waiting id hmem
          refine lost id ha hidle hidle ?_ (fun h => h) ?_ ?_
          · exact fun q hq => (life.creating q id (Pc.creating_of_adding hq)).2.1 hmem
          · exact fun q hq => (life.creating q id hq).2.1 hmem
          · have nodup := life.nodup
            simp only [Shared.pipeline, hpop, Option.toList_some, List.append_assoc,
              List.singleton_append] at nodup ⊢
            rw [← List.append_assoc, List.nodup_middle] at nodup
            simpa using (List.nodup_cons.mp nodup).1
  | call _ _ | popTask | runPosted | startSubmitted _ | isomerism _ _ | registries _ _ _ =>
      exact hno rfl

theorem kept_of_executorTakes {acts : List Act} {s : Sys}
    (run : (taskSystem sha256).Run (fun s a => executorTakes s a = true) acts s) : Kept s := by
  refine run.invariant (I := fun _ => Kept) ?_ ?_
  · rintro _ rfl id ha
    simp [Shared.allocated] at ha
  · exact fun _ _ _ _ reach kept takes hs => kept.step (lifecycle reach) takes hs

theorem noTaskLost_iff_executorTakes {acts : List Act} {s : Sys} :
    (taskSystem sha256).RunIn NoTaskLost acts s ↔
      (taskSystem sha256).Run (fun s a => executorTakes s a = true) acts s := by
  constructor
  · intro run
    exact run.imp (fun _ _ _ _ run _ good hs =>
      executorTakes_of_noTaskLost run.reachable hs (good _ hs))
  · intro run
    refine run.imp (fun acts s a t run _ takes _ r hr => ?_)
    have run' := run.step takes hr
    exact (kept_of_executorTakes run').noTaskLost (onBoard run'.reachable) (barrier run'.reachable)

section Flood

/-- A call creates a task up to its `PushTask`. -/
theorem exists_pushTask {s : Sys} (h : (taskSystem sha256).Reachable s) (n id : Nat)
    (idle : s.pc (.call n) = .idle) (fresh : ¬ s.sh.allocated id) :
    ∃ t, (taskSystem sha256).Reachable t ∧ t.pc (.call n) = .pushTask id (.returned dhFwkSuccess) ∧
      t.sh.taskQueue = s.sh.taskQueue ∧ (∀ m ≠ n, t.pc (.call m) = s.pc (.call m)) ∧
      ∀ id', t.sh.allocated id' ↔ id' = id ∨ s.sh.allocated id' := by
  obtain ⟨sh', new⟩ : ∃ sh', s.sh.newTask id .enable deviceA none = some sh' := by
    unfold Shared.newTask
    exact ⟨_, if_neg fresh⟩
  have called : (taskSystem sha256).Reachable
      (s.setPc (.call n) (.createTask .enable deviceA)) := by
    refine reachable_step h (a := .call n (.createTask .enable deviceA)) ?_
    simp [step, idle, entryOfCall]
  have creates : exec sha256 s.sh { newId := id } (.call n) (.createTask .enable deviceA) =
      some (sh', .addTask id (.returned dhFwkSuccess)) := by
    simp [exec, createThen, ClientTask.taskType, new]
  have created := reachable_run called { newId := id } (p := .call n) (by simp) creates
  have added := reachable_run created {} (p := .call n) (by simp; rfl) rfl
  refine ⟨_, added, by simp, ?_, ?_, ?_⟩
  · simp only [Sys.sh_setPc, Shared.taskQueue_addTask, Shared.taskQueue_newTask new]
  · intro m hm
    simp [hm]
  · intro id'
    simp only [Sys.sh_setPc, (Shared.sameHeads_addTask _ _).allocated,
      Shared.allocated_newTask new]

/-- Nothing bounds the tasks that are pushed while the executor's thread is busy. -/
theorem exists_full_queue (k : Nat) (hk : k ≤ maxTaskQueueLength + 1) :
    ∃ s, (taskSystem sha256).Reachable s ∧ s.sh.taskQueue.length = k ∧
      (∀ n ≥ k, s.pc (.call n) = .idle) ∧ ∀ id ≥ k, ¬ s.sh.allocated id := by
  induction k with
  | zero =>
      exact ⟨{}, .init rfl, rfl, fun _ _ => rfl, fun _ _ => by simp [Shared.allocated]⟩
  | succ k ih =>
      obtain ⟨s, reach, length, idle, fresh⟩ := ih (by omega)
      obtain ⟨t, reach', hpc, hqueue, hother, halloc⟩ :=
        exists_pushTask reach k k (idle k (Nat.le_refl k)) (fresh k (Nat.le_refl k))
      refine ⟨_, reachable_run reach' {} hpc rfl, ?_, ?_, ?_⟩
      · have room : t.sh.taskQueue.length ≤ maxTaskQueueLength := by
          rw [hqueue, length]
          omega
        simp only [Sys.sh_setPc, Shared.taskQueue_pushTask _ _ room, hqueue, List.length_append,
          length, List.length_singleton]
      · intro n hn
        rw [Sys.pc_setPc, if_neg (by simp; omega), Sys.pc_with_sh, hother n (by omega)]
        exact idle n (by omega)
      · intro id hid
        rw [Sys.sh_setPc, (Shared.sameBoard_pushTask _ _).allocated, halloc]
        rintro (rfl | ha)
        · omega
        · exact fresh id (by omega) ha

/-- With 257 tasks queued, the next one is dropped and stays on the board. -/
theorem exists_taskLost :
    ∃ s, (taskSystem sampleSha256).Reachable s ∧ ¬ NoTaskLost s := by
  obtain ⟨s, reach, length, idle, fresh⟩ := exists_full_queue (maxTaskQueueLength + 1) (by decide)
  obtain ⟨t, reach', hpc, hqueue, -, -⟩ :=
    exists_pushTask reach 257 257 (idle 257 (by decide)) (fresh 257 (by decide))
  have pushed : step sampleSha256 t (.run (.call 257) {}) =
      some ({ t with sh := t.sh.pushTask 257 }.setPc (.call 257) (.returned dhFwkSuccess)) := by
    simp [step, exec, hpc, Next.pc]
  refine ⟨_, reachable_step reach' pushed, fun good => ?_⟩
  have takes := executorTakes_of_noTaskLost reach' pushed good
  simp only [executorTakes, hpc, hqueue, length] at takes
  exact absurd takes (by decide)

end Flood
end DistributedHardware
