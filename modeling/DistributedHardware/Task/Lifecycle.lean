import DistributedHardware.Task.Effect

/-!
The life of a task: created by one thread, pushed, queued, run once.

`Lifecycle` ties each task id to at most one of the places a task passes
through: the thread that creates it, the pipeline between `PushTask` and the
start of its body, and the body. `OnBoard` adds when a task is on the board.
Both hold in every reachable state.
-/

namespace DistributedHardware
variable {sha256 : String → String}

/-- One step, by what it does to the places a task passes through. -/
inductive PlaceEffect (s : Sys) : Act → Sys → Prop
  | quiet {a : Act} {t : Sys} :
      (∀ p, (t.pc p).creating = (s.pc p).creating) →
      (∀ id, t.pc (.task id) = .idle ↔ s.pc (.task id) = .idle) →
      t.sh.pipeline = s.sh.pipeline → (∀ id, t.sh.allocated id ↔ s.sh.allocated id) →
      PlaceEffect s a t
  | create {a : Act} {t : Sys} {p : ProcId} {id : TaskId} :
      ¬ s.sh.allocated id → (s.pc p).creating = none →
      (∀ q, (t.pc q).creating = if q = p then some id else (s.pc q).creating) →
      (∀ id, t.pc (.task id) = .idle ↔ s.pc (.task id) = .idle) →
      t.sh.pipeline = s.sh.pipeline →
      (∀ id', t.sh.allocated id' ↔ id' = id ∨ s.sh.allocated id') → PlaceEffect s a t
  | push {p : ProcId} {ch : Choice} {id : TaskId} {next : Next} :
      s.pc p = .pushTask id next →
      PlaceEffect s (.run p ch) ({ s with sh := s.sh.pushTask id }.setPc p next.pc)
  | start {a : Act} {id : TaskId} {sh' : Shared} {pt : TaskPoint} :
      Shared.SameBoard s.sh sh' → s.sh.pipeline.Perm (id :: sh'.pipeline) →
      PlaceEffect s a ({ s with sh := sh' }.setPc (.task id) (.body pt))
  | move {a : Act} {sh' : Shared} :
      Shared.SameBoard s.sh sh' → s.sh.pipeline.Perm sh'.pipeline →
      PlaceEffect s a { s with sh := sh' }
  | reject {id : TaskId} {sh' : Shared} :
      Shared.SameBoard s.sh sh' → s.sh.pipeline.Perm (id :: sh'.pipeline) →
      PlaceEffect s (.postTask false) { s with sh := sh' }

/-- A section that moves a thread between points of its own code. -/
private theorem PlaceEffect.quiet_section {s : Sys} {a : Act} {p : ProcId} {sh' : Shared}
    {c' : Pc} (creating : c'.creating = (s.pc p).creating)
    (idle : ∀ id, p = .task id → (c' = .idle ↔ s.pc p = .idle))
    (pipeline : sh'.pipeline = s.sh.pipeline)
    (allocated : ∀ id, sh'.allocated id ↔ s.sh.allocated id) :
    PlaceEffect s a ({ s with sh := sh' }.setPc p c') := by
  refine .quiet ?_ ?_ pipeline allocated
  · intro q
    rw [Sys.pc_setPc]
    split
    case isTrue heq => rw [heq, creating]
    case isFalse => rfl
  · intro id
    rw [Sys.pc_setPc]
    split
    case isTrue heq => rw [heq]; exact idle id heq.symm
    case isFalse => rfl

private theorem PlaceEffect.create_section {s : Sys} {a : Act} {p : ProcId} {sh' : Shared}
    {c' : Pc} {id : TaskId} {taskType : TaskType} {param : TaskParam} {father : Option TaskId}
    (new : s.sh.newTask id taskType param father = some sh') (before : (s.pc p).creating = none)
    (creating : c'.creating = some id)
    (idle : ∀ id, p = .task id → (c' = .idle ↔ s.pc p = .idle)) :
    PlaceEffect s a ({ s with sh := sh' }.setPc p c') := by
  refine .create (Shared.newTask_eq_some new).1 before ?_ ?_ (Shared.pipeline_newTask new)
    (Shared.allocated_newTask new)
  · intro q
    rw [Sys.pc_setPc]
    split
    case isTrue => exact creating
    case isFalse => rfl
  · intro id
    rw [Sys.pc_setPc]
    split
    case isTrue heq => rw [heq]; exact idle id heq.symm
    case isFalse => rfl

theorem place_effect {s t : Sys} {a : Act} (hs : step sha256 s a = some t) :
    PlaceEffect s a t := by
  have effect := step_effect hs
  cases effect with
  | @run p ch sh' c' effect =>
      generalize hc : s.pc p = c at effect
      cases effect with
      | call same hnone hnone' =>
          exact .quiet_section (by rw [hc, hnone, hnone']) (by simp) same.pipeline same.allocated
      | callCreate new hnone => exact .create_section new (by rw [hc, hnone]) rfl (by simp)
      | bodyCreate new => exact .create_section new (by rw [hc]; rfl) rfl (by simp [hc])
      | addChildrenTask =>
          exact .quiet_section (by rw [hc]; rfl) (by simp [hc])
            (Shared.pipeline_addChildrenTask _ _) (Shared.sameHeads_addChildrenTask _ _).allocated
      | addTask =>
          exact .quiet_section (by rw [hc]; rfl) (by simp [hc])
            (Shared.pipeline_addTask _ _) (Shared.sameHeads_addTask _ _).allocated
      | pushTask => exact .push hc
      | body same =>
          exact .quiet_section (by rw [hc]; rfl) (by simp [hc]) same.pipeline same.allocated
      | passWait => exact .quiet_section (by rw [hc]; rfl) (by simp [hc]) rfl (fun _ => .rfl)
      | finish same =>
          exact .quiet_section (by rw [hc]; rfl) (by simp [hc]) same.pipeline same.allocated
      | notifyFather =>
          exact .quiet_section (by rw [hc]; rfl) (by simp [hc])
            (Shared.pipeline_notifyFatherFinish _ _)
            (Shared.sameHeads_notifyFatherFinish _ _).allocated
      | leaveBoard same _ hstage hnone =>
          refine .quiet_section (by rw [hc, hnone]; rfl) ?_ same.pipeline same.allocated
          rintro id -
          rw [hc]
          refine ⟨fun hidle => ?_, nofun⟩
          rw [hidle] at hstage
          cases hstage
      | bodyReturn same =>
          exact .quiet_section (by rw [hc]; rfl) (by simp [hc]) same.pipeline same.allocated
  | @call n c idle =>
      refine .quiet_section ?_ (by simp) rfl (fun _ => .rfl)
      rw [idle, creating_entryOfCall]
      rfl
  | start _ same perm => exact .start same perm
  | move same perm => exact .move same perm
  | reject same perm => exact .reject same perm

structure Lifecycle (s : Sys) : Prop where
  creating : ∀ p id, (s.pc p).creating = some id →
    s.sh.allocated id ∧ id ∉ s.sh.pipeline ∧ s.pc (.task id) = .idle
  creator : ∀ p q id, (s.pc p).creating = some id → (s.pc q).creating = some id → p = q
  waiting : ∀ id ∈ s.sh.pipeline, s.sh.allocated id ∧ s.pc (.task id) = .idle
  nodup : s.sh.pipeline.Nodup
  started : ∀ id, s.pc (.task id) ≠ .idle → s.sh.allocated id

/-- A step that neither creates, queues nor starts a task. -/
theorem Lifecycle.quiet {s t : Sys} (h : Lifecycle s)
    (creating : ∀ p, (t.pc p).creating = (s.pc p).creating)
    (idle : ∀ id, t.pc (.task id) = .idle ↔ s.pc (.task id) = .idle)
    (pipeline : t.sh.pipeline = s.sh.pipeline)
    (allocated : ∀ id, t.sh.allocated id ↔ s.sh.allocated id) : Lifecycle t := by
  constructor
  case creating => simpa only [creating, idle, pipeline, allocated] using h.creating
  case creator => simpa only [creating] using h.creator
  case waiting => simpa only [idle, pipeline, allocated] using h.waiting
  case nodup => simpa only [pipeline] using h.nodup
  case started => simpa only [ne_eq, idle, allocated] using h.started

/-- The id of a new task is in none of the places. -/
theorem Lifecycle.create {s t : Sys} (h : Lifecycle s) {p : ProcId} {id : TaskId}
    (fresh : ¬ s.sh.allocated id)
    (creating : ∀ q, (t.pc q).creating = if q = p then some id else (s.pc q).creating)
    (idle : ∀ id, t.pc (.task id) = .idle ↔ s.pc (.task id) = .idle)
    (pipeline : t.sh.pipeline = s.sh.pipeline)
    (allocated : ∀ id', t.sh.allocated id' ↔ id' = id ∨ s.sh.allocated id') : Lifecycle t := by
  have unstarted : s.pc (.task id) = .idle := by
    by_contra hne
    exact fresh (h.started id hne)
  constructor
  case creating =>
    intro q id' hq
    rw [creating] at hq
    rw [pipeline, idle, allocated]
    split at hq
    · cases hq
      exact ⟨.inl rfl, fun hmem => fresh (h.waiting id hmem).1, unstarted⟩
    · obtain ⟨ha, hrest⟩ := h.creating q id' hq
      exact ⟨.inr ha, hrest⟩
  case creator =>
    intro q r id' hq hr
    rw [creating] at hq hr
    split at hq <;> split at hr
    · simp_all
    · cases hq
      exact absurd (h.creating r id hr).1 fresh
    · cases hr
      exact absurd (h.creating q id hq).1 fresh
    · exact h.creator q r id' hq hr
  case waiting =>
    intro id' hmem
    rw [pipeline] at hmem
    rw [idle, allocated]
    exact ⟨.inr (h.waiting id' hmem).1, (h.waiting id' hmem).2⟩
  case nodup => simpa only [pipeline] using h.nodup
  case started =>
    intro id' hne
    rw [ne_eq, idle] at hne
    exact (allocated id').mpr (.inr (h.started id' hne))

/-- A pushed task goes from its creator to the pipeline, or nowhere. -/
theorem Lifecycle.push {s : Sys} (h : Lifecycle s) {p : ProcId} {id : TaskId} {next : Next}
    (hp : s.pc p = .pushTask id next) :
    Lifecycle ({ s with sh := s.sh.pushTask id }.setPc p next.pc) := by
  have hid : (s.pc p).creating = some id := by rw [hp]; rfl
  obtain ⟨halloc, hnot, hidle⟩ := h.creating p id hid
  have same := Shared.sameBoard_pushTask s.sh id
  have idle : ∀ id', ({ s with sh := s.sh.pushTask id }.setPc p next.pc).pc (.task id') = .idle ↔
      s.pc (.task id') = .idle := by
    intro id'
    rw [Sys.pc_setPc]
    split
    case isTrue heq =>
      rw [heq, hp]
      cases next <;> simp [Next.pc]
    case isFalse => rfl
  constructor
  case creating =>
    intro q id' hq
    rw [Sys.pc_setPc] at hq
    split at hq
    case isTrue => simp at hq
    case isFalse hne =>
      obtain ⟨ha, hn, hi⟩ := h.creating q id' hq
      refine ⟨(same.allocated _).mpr ha, fun hmem => ?_, (idle id').mpr hi⟩
      obtain rfl | hmem := Shared.mem_pipeline_of_mem_pushTask _ _ hmem
      · exact hne (h.creator q p id' hq hid)
      · exact hn hmem
  case creator =>
    intro q r id' hq hr
    rw [Sys.pc_setPc] at hq hr
    split at hq <;> split at hr
    all_goals first
      | simp only [Next.creating_pc, reduceCtorEq] at hq
      | simp only [Next.creating_pc, reduceCtorEq] at hr
      | exact h.creator q r id' hq hr
  case waiting =>
    intro id' hmem
    obtain rfl | hmem := Shared.mem_pipeline_of_mem_pushTask _ _ hmem
    · exact ⟨(same.allocated _).mpr halloc, (idle id').mpr hidle⟩
    · exact ⟨(same.allocated _).mpr (h.waiting id' hmem).1,
        (idle id').mpr (h.waiting id' hmem).2⟩
  case nodup => exact Shared.nodup_pipeline_pushTask _ _ h.nodup hnot
  case started =>
    intro id' hne
    exact (same.allocated _).mpr (h.started id' (fun hi => hne ((idle id').mpr hi)))

/-- A task leaves the pipeline when its body starts. -/
theorem Lifecycle.start {s : Sys} (h : Lifecycle s) {id : TaskId} {sh' : Shared} {pt : TaskPoint}
    (same : Shared.SameBoard s.sh sh') (perm : s.sh.pipeline.Perm (id :: sh'.pipeline)) :
    Lifecycle ({ s with sh := sh' }.setPc (.task id) (.body pt)) := by
  have hid : id ∈ s.sh.pipeline := perm.mem_iff.mpr List.mem_cons_self
  have split := List.nodup_cons.mp (perm.nodup h.nodup)
  obtain ⟨halloc, hidle⟩ := h.waiting id hid
  have left : ∀ id' ∈ sh'.pipeline, id' ∈ s.sh.pipeline :=
    fun id' hmem => perm.mem_iff.mpr (List.mem_cons_of_mem _ hmem)
  have same_creating : ∀ q,
      ((({ s with sh := sh' } : Sys).setPc (.task id) (.body pt)).pc q).creating =
        (s.pc q).creating := by
    intro q
    rw [Sys.pc_setPc]
    split
    case isTrue heq =>
      rw [heq, hidle]
      rfl
    case isFalse => rfl
  constructor
  case creating =>
    intro q id' hq
    rw [same_creating] at hq
    obtain ⟨ha, hn, hi⟩ := h.creating q id' hq
    have hne : id' ≠ id := fun heq => hn (heq ▸ hid)
    refine ⟨(same.allocated id').mpr ha, fun hmem => hn (left id' hmem), ?_⟩
    rw [Sys.pc_setPc, if_neg (by simpa using hne)]
    exact hi
  case creator =>
    intro q r id' hq hr
    rw [same_creating] at hq hr
    exact h.creator q r id' hq hr
  case waiting =>
    intro id' hmem
    have hne : id' ≠ id := fun heq => split.1 (heq ▸ hmem)
    obtain ⟨ha, hi⟩ := h.waiting id' (left id' hmem)
    refine ⟨(same.allocated id').mpr ha, ?_⟩
    rw [Sys.pc_setPc, if_neg (by simpa using hne)]
    exact hi
  case nodup => exact split.2
  case started =>
    intro id' hne
    by_cases heq : id' = id
    · exact (same.allocated id').mpr (heq ▸ halloc)
    · rw [Sys.pc_setPc, if_neg (by simpa using heq)] at hne
      exact (same.allocated id').mpr (h.started id' hne)

/-- The pipeline may lose tasks and change their order. -/
theorem Lifecycle.subpipeline {s : Sys} (h : Lifecycle s) {sh' : Shared}
    (same : Shared.SameBoard s.sh sh') (nodup : sh'.pipeline.Nodup)
    (sub : ∀ id ∈ sh'.pipeline, id ∈ s.sh.pipeline) : Lifecycle { s with sh := sh' } := by
  constructor
  case creating =>
    intro p id hp
    obtain ⟨ha, hn, hi⟩ := h.creating p id hp
    exact ⟨(same.allocated id).mpr ha, fun hmem => hn (sub id hmem), hi⟩
  case creator => exact h.creator
  case waiting =>
    intro id hmem
    exact ⟨(same.allocated id).mpr (h.waiting id (sub id hmem)).1, (h.waiting id (sub id hmem)).2⟩
  case nodup => exact nodup
  case started => exact fun id hne => (same.allocated id).mpr (h.started id hne)

theorem Lifecycle.step {s t : Sys} {a : Act} (h : Lifecycle s)
    (hs : step sha256 s a = some t) : Lifecycle t := by
  cases place_effect hs with
  | quiet creating idle pipeline allocated => exact h.quiet creating idle pipeline allocated
  | create fresh _ creating idle pipeline allocated =>
      exact h.create fresh creating idle pipeline allocated
  | push hp => exact h.push hp
  | start same perm => exact h.start same perm
  | move same perm =>
      exact h.subpipeline same (perm.nodup h.nodup) (fun _ hmem => perm.mem_iff.mpr hmem)
  | reject same perm =>
      exact h.subpipeline same (List.nodup_cons.mp (perm.nodup h.nodup)).2
        (fun _ hmem => perm.mem_iff.mpr (List.mem_cons_of_mem _ hmem))

theorem lifecycle_init : Lifecycle {} := by
  constructor
  case creating => nofun
  case creator => nofun
  case waiting => nofun
  case nodup => exact List.nodup_nil
  case started => exact fun id hne => absurd rfl hne

theorem lifecycle {s : Sys} (h : (taskSystem sha256).Reachable s) : Lifecycle s :=
  h.invariant (fun _ hi => hi ▸ lifecycle_init) (fun _ _ _ hi hs => hi.step hs)

/-- A step from the view of one thread: it stays where it is, begins, or executes
its section. -/
inductive ThreadStep (sha256 : String → String) (s t : Sys) (q : ProcId) : Act → Prop
  | stays {a : Act} : t.pc q = s.pc q → ThreadStep sha256 s t q a
  | called {n : Nat} {c : Call} : q = .call n → s.pc q = .idle → t = s.setPc q (entryOfCall c) →
      ThreadStep sha256 s t q (.call n c)
  | started {a : Act} {id : TaskId} {kind : TaskType} : q = .task id → s.pc q = .idle →
      t.pc q = .body (entryOf kind) → s.sh.typeOf id = some kind → ThreadStep sha256 s t q a
  | runs {ch : Choice} {sh' : Shared} {c' : Pc} :
      exec sha256 s.sh ch q (s.pc q) = some (sh', c') →
      t = ({ s with sh := sh' } : Sys).setPc q c' → ThreadStep sha256 s t q (.run q ch)

theorem thread_step {s t : Sys} {a : Act} (life : Lifecycle s) (hs : step sha256 s a = some t)
    (q : ProcId) : ThreadStep sha256 s t q a := by
  by_cases hrun : ∃ ch, a = .run q ch
  · obtain ⟨ch, rfl⟩ := hrun
    obtain ⟨sh', c', he, rfl⟩ := step_run hs
    exact .runs he rfl
  · cases step_effect hs with
    | @run p ch =>
        have hne : q ≠ p := fun heq => hrun ⟨ch, by rw [heq]⟩
        exact .stays (by rw [Sys.pc_setPc, if_neg hne]; rfl)
    | @call n c hidle =>
        by_cases heq : q = .call n
        · subst heq
          exact .called rfl hidle rfl
        · exact .stays (by rw [Sys.pc_setPc, if_neg heq])
    | @start _ id kind sh' hk same perm =>
        have hidle := (life.waiting id (perm.mem_iff.mpr List.mem_cons_self)).2
        by_cases heq : q = .task id
        · subst heq
          exact .started rfl hidle (by simp) hk
        · exact .stays (by rw [Sys.pc_setPc, if_neg heq]; rfl)
    | move => exact .stays rfl
    | reject => exact .stays rfl

structure OnBoard (s : Sys) : Prop where
  added : ∀ id, s.sh.allocated id →
    (∃ p, (s.pc p).adding = some id) ∨ id ∈ s.sh.tasks ∨ (s.pc (.task id)).stage = 3
  onBoard : ∀ id ∈ s.sh.tasks,
    s.sh.allocated id ∧ (s.pc (.task id)).stage ≠ 3 ∧ ∀ p, (s.pc p).adding ≠ some id

/-- A step that neither makes a task nor touches the board. -/
theorem OnBoard.quiet {s t : Sys} (h : OnBoard s)
    (adding : ∀ p, (t.pc p).adding = (s.pc p).adding)
    (stage : ∀ id, (t.pc (.task id)).stage = 3 ↔ (s.pc (.task id)).stage = 3)
    (tasks : t.sh.tasks = s.sh.tasks)
    (allocated : ∀ id, t.sh.allocated id ↔ s.sh.allocated id) : OnBoard t := by
  constructor
  case added => simpa only [adding, stage, tasks, allocated] using h.added
  case onBoard => simpa only [adding, ne_eq, stage, tasks, allocated] using h.onBoard

private theorem OnBoard.quiet_section {s : Sys} (h : OnBoard s) {p : ProcId} {sh' : Shared}
    {c' : Pc} (adding : c'.adding = (s.pc p).adding)
    (stage : ∀ id, p = .task id → (c'.stage = 3 ↔ (s.pc p).stage = 3))
    (tasks : sh'.tasks = s.sh.tasks)
    (allocated : ∀ id, sh'.allocated id ↔ s.sh.allocated id) :
    OnBoard ({ s with sh := sh' }.setPc p c') := by
  refine h.quiet ?_ ?_ tasks allocated
  · intro q
    rw [Sys.pc_setPc]
    split
    case isTrue heq => rw [heq, adding]
    case isFalse => rfl
  · intro id
    rw [Sys.pc_setPc]
    split
    case isTrue heq => rw [heq]; exact stage id heq.symm
    case isFalse => rfl

private theorem OnBoard.create_section {s : Sys} (h : OnBoard s) {p : ProcId} {sh' : Shared}
    {c' : Pc} {id : TaskId} {taskType : TaskType} {param : TaskParam} {father : Option TaskId}
    (new : s.sh.newTask id taskType param father = some sh') (before : (s.pc p).adding = none)
    (adding : c'.adding = some id)
    (stage : ∀ id, p = .task id → (c'.stage = 3 ↔ (s.pc p).stage = 3)) :
    OnBoard ({ s with sh := sh' }.setPc p c') := by
  have fresh := (Shared.newTask_eq_some new).1
  have same : ∀ id', ((({ s with sh := sh' } : Sys).setPc p c').pc (.task id')).stage = 3 ↔
      (s.pc (.task id')).stage = 3 := by
    intro id'
    rw [Sys.pc_setPc]
    split
    case isTrue heq => rw [heq]; exact stage id' heq.symm
    case isFalse => rfl
  constructor
  case added =>
    intro id' halloc
    rw [same]
    obtain rfl | halloc := (Shared.allocated_newTask new id').mp halloc
    · exact .inl ⟨p, by simpa using adding⟩
    · obtain ⟨q, hq⟩ | hrest := h.added id' halloc
      · refine .inl ⟨q, ?_⟩
        rw [Sys.pc_setPc, if_neg (fun heq => by rw [heq, before] at hq; cases hq)]
        exact hq
      · exact .inr (by simpa [Shared.tasks_newTask new] using hrest)
  case onBoard =>
    intro id' hmem
    rw [Sys.sh_setPc, Shared.tasks_newTask new] at hmem
    obtain ⟨halloc, hstage, hnone⟩ := h.onBoard id' hmem
    refine ⟨(Shared.allocated_newTask new id').mpr (.inr halloc), (same id').not.mpr hstage, ?_⟩
    intro q
    rw [Sys.pc_setPc]
    split
    · rw [adding]
      rintro ⟨⟩
      exact fresh halloc
    · exact hnone q

theorem OnBoard.add {s : Sys} (h : OnBoard s) (life : Lifecycle s) {p : ProcId} {id : TaskId}
    {next : Next} (hp : s.pc p = .addTask id next) :
    OnBoard ({ s with sh := s.sh.addTask id }.setPc p (.pushTask id next)) := by
  have hid : (s.pc p).creating = some id := by rw [hp]; rfl
  obtain ⟨halloc, -, hidle⟩ := life.creating p id hid
  have tasks := Shared.mem_tasks_addTask s.sh id
  have allocated := (Shared.sameHeads_addTask s.sh id).allocated
  have stage : ∀ id', ((({ s with sh := s.sh.addTask id } : Sys).setPc p
      (.pushTask id next)).pc (.task id')).stage = (s.pc (.task id')).stage := by
    intro id'
    rw [Sys.pc_setPc]
    split
    case isTrue heq => rw [heq, hp]; rfl
    case isFalse => rfl
  constructor
  case added =>
    intro id' ha
    rw [stage, Sys.sh_setPc, tasks]
    obtain ⟨q, hq⟩ | hmem | hstage := h.added id' ((allocated id').mp ha)
    · by_cases heq : q = p
      · subst heq
        rw [hp] at hq
        exact .inr (.inl (.inl (Option.some.inj hq).symm))
      · exact .inl ⟨q, by rw [Sys.pc_setPc, if_neg heq]; exact hq⟩
    · exact .inr (.inl (.inr hmem))
    · exact .inr (.inr hstage)
  case onBoard =>
    intro id' hmem
    rw [stage]
    obtain rfl | hmem := (tasks id').mp hmem
    · refine ⟨(allocated id').mpr halloc, by rw [hidle]; decide, ?_⟩
      intro q hq
      rw [Sys.pc_setPc] at hq
      split at hq
      case isTrue => cases hq
      case isFalse hne => exact hne (life.creator q p id' (Pc.creating_of_adding hq) hid)
    · obtain ⟨ha, hstage, hnone⟩ := h.onBoard id' hmem
      refine ⟨(allocated id').mpr ha, hstage, ?_⟩
      intro q hq
      rw [Sys.pc_setPc] at hq
      split at hq
      case isTrue => cases hq
      case isFalse => exact hnone q hq

/-- A task leaves the board for good. -/
theorem OnBoard.leave {s : Sys} (h : OnBoard s) {id : TaskId} {pt : TaskPoint} {sh' : Shared}
    {c' : Pc} (hp : s.pc (.task id) = .body pt) (same : Shared.SameTasks (s.sh.removeTask id) sh')
    (stage : c'.stage = 3) (creating : c'.creating = none) :
    OnBoard ({ s with sh := sh' }.setPc (.task id) c') := by
  have tasks : ∀ id', id' ∈ sh'.tasks ↔ id' ≠ id ∧ id' ∈ s.sh.tasks := by
    intro id'
    rw [same.tasks]
    exact Finset.mem_erase
  have adding : ∀ q, ((({ s with sh := sh' } : Sys).setPc (.task id) c').pc q).adding =
      (s.pc q).adding := by
    intro q
    rw [Sys.pc_setPc]
    split
    case isTrue heq =>
      rw [heq, hp]
      cases hc : c'.adding with
      | none => rfl
      | some x =>
          rw [Pc.creating_of_adding hc] at creating
          cases creating
    case isFalse => rfl
  constructor
  case added =>
    intro id' ha
    obtain ⟨q, hq⟩ | hmem | hstage := h.added id' ((same.allocated id').mp ha)
    · exact .inl ⟨q, by rw [adding]; exact hq⟩
    all_goals
      by_cases heq : id' = id
      · exact .inr (.inr (by rw [Sys.pc_setPc, if_pos (by rw [heq])]; exact stage))
    · exact .inr (.inl ((tasks id').mpr ⟨heq, hmem⟩))
    · exact .inr (.inr (by rw [Sys.pc_setPc, if_neg (by simpa using heq)]; exact hstage))
  case onBoard =>
    intro id' hmem
    obtain ⟨hne, hmem⟩ := (tasks id').mp hmem
    obtain ⟨ha, hstage, hnone⟩ := h.onBoard id' hmem
    refine ⟨(same.allocated id').mpr ha, ?_, fun q => by rw [adding]; exact hnone q⟩
    rw [Sys.pc_setPc, if_neg (by simpa using hne)]
    exact hstage

theorem OnBoard.step {s t : Sys} {a : Act} (h : OnBoard s) (life : Lifecycle s)
    (hs : step sha256 s a = some t) : OnBoard t := by
  have effect := step_effect hs
  cases effect with
  | @run p ch sh' c' effect =>
      generalize hc : s.pc p = c at effect
      cases effect with
      | call same hnone hnone' =>
          refine h.quiet_section ?_ (by simp) same.tasks same.allocated
          rw [hc, Pc.adding_eq_none hnone, Pc.adding_eq_none hnone']
      | callCreate new hnone =>
          exact h.create_section new (by rw [hc, Pc.adding_eq_none hnone]) rfl (by simp)
      | bodyCreate new child =>
          obtain ⟨hstage, -, kind, -, -, hnext⟩ := child.spec
          refine h.create_section new (by rw [hc]; rfl) rfl (fun _ _ => ?_)
          simp only [hc, Pc.stage_addChildrenTask, Pc.stage_body, Next.stage_body, hstage]
          omega
      | addChildrenTask =>
          exact h.quiet_section (by rw [hc]; rfl) (by simp [hc])
            (Shared.tasks_addChildrenTask _ _) (Shared.sameHeads_addChildrenTask _ _).allocated
      | addTask => exact h.add life hc
      | pushTask =>
          exact h.quiet_section (by rw [hc, Next.adding_pc]; rfl) (by simp [hc])
            (Shared.sameBoard_pushTask _ _).tasks (Shared.sameBoard_pushTask _ _).allocated
      | body same _ hstage =>
          exact h.quiet_section (by rw [hc]; rfl) (by simp [hc, hstage])
            same.tasks same.allocated
      | passWait =>
          exact h.quiet_section (by rw [hc]; rfl) (by simp [hc, TaskPoint.stage]) rfl
            (fun _ => .rfl)
      | finish same _ hstage =>
          exact h.quiet_section (by rw [hc]; rfl)
            (by simp [hc, hstage, TaskPoint.stage.eq_def .removeTask]) same.tasks same.allocated
      | notifyFather =>
          exact h.quiet_section (by rw [hc]; rfl) (by simp [hc, TaskPoint.stage])
            (Shared.tasks_notifyFatherFinish _ _)
            (Shared.sameHeads_notifyFatherFinish _ _).allocated
      | leaveBoard same _ hstage hnone => exact h.leave hc same hstage hnone
      | bodyReturn same hstage =>
          exact h.quiet_section (by rw [hc]; rfl) (by simp [hc, hstage])
            same.tasks same.allocated
  | @call n c idle =>
      refine h.quiet_section ?_ (by simp) rfl (fun _ => .rfl)
      rw [idle, Pc.adding_eq_none (creating_entryOfCall c)]
      rfl
  | @start a id taskType sh' hk same perm =>
      have hidle := (life.waiting id (perm.mem_iff.mpr List.mem_cons_self)).2
      exact h.quiet_section (by rw [hidle]; rfl) (by simp [hidle]) same.tasks same.allocated
  | move same perm =>
      exact h.quiet (fun _ => rfl) (fun _ => .rfl) same.tasks same.allocated
  | reject same perm =>
      exact h.quiet (fun _ => rfl) (fun _ => .rfl) same.tasks same.allocated

theorem onBoard_init : OnBoard {} := by
  constructor
  case added => exact fun id ha => absurd ha (by simp [Shared.allocated])
  case onBoard => exact fun id hmem => absurd hmem (Finset.notMem_empty id)

theorem onBoard {s : Sys} (h : (taskSystem sha256).Reachable s) : OnBoard s :=
  h.invariant_of (fun _ hi => hi ▸ onBoard_init) (fun _ _ _ hr hi hs => hi.step (lifecycle hr) hs)

end DistributedHardware
