import DistributedHardware.Task.Lifecycle

/-!
The wait of an `OffLineTask` for its children.

`Family` relates each task to its kind and to the task that created it;
`Barrier` says which children a waiting set holds: those that are registered and
have not reported yet. An `OffLineTask` leaves its wait with an empty set, and by
then it creates no more children.
-/

namespace DistributedHardware
variable {sha256 : String → String}

structure Family (s : Sys) : Prop where
  fits : ∀ id, s.pc (.task id) ≠ .idle →
    ∃ kind, s.sh.typeOf id = some kind ∧ (s.pc (.task id)).Fits kind
  father : ∀ c f, s.sh.fatherOf c = some f → s.pc (.task f) ≠ .idle ∧
    (s.sh.typeOf f = some .offLine →
      s.sh.typeOf c = some .disable ∨ s.sh.typeOf c = some .metaDisable)
  registering : ∀ p c next, s.pc p = .addChildrenTask c next →
    ∃ f, p = .task f ∧ s.sh.fatherOf c = some f ∧
      (s.sh.typeOf f = some .offLine → next.stage = 0)

theorem Family.kind_of_body {s : Sys} (h : Family s) {id : TaskId} {pt : TaskPoint}
    (hpc : s.pc (.task id) = .body pt) : ∃ kind ∈ pt.kinds, s.sh.typeOf id = some kind := by
  obtain ⟨kind, hk, hfits⟩ := h.fits id (by simp [hpc])
  exact ⟨kind, by simpa only [hpc, Pc.Fits] using hfits, hk⟩

theorem Family.kind_mem {s : Sys} (h : Family s) {id : TaskId} {pt : TaskPoint} {kind : TaskType}
    (hpc : s.pc (.task id) = .body pt) (hk : s.sh.typeOf id = some kind) : kind ∈ pt.kinds := by
  obtain ⟨kind', hmem, hk'⟩ := h.kind_of_body hpc
  obtain rfl : kind' = kind := Option.some.inj (hk'.symm.trans hk)
  exact hmem

/-- A thread moves on, or starts, without creating a task. -/
private theorem Family.move_section {s : Sys} (h : Family s) {p : ProcId} {sh' : Shared} {c' : Pc}
    (heads : Shared.SameHeads s.sh sh')
    (fits : ∀ id, p = .task id → ∃ kind, s.sh.typeOf id = some kind ∧ c'.Fits kind)
    (idle : ∀ id, p = .task id → c' ≠ .idle)
    (registering : ∀ c next, c' ≠ .addChildrenTask c next) :
    Family ({ s with sh := sh' }.setPc p c') := by
  constructor
  case fits =>
    intro id hne
    rw [Sys.sh_setPc, heads.typeOf]
    rw [Sys.pc_setPc] at hne ⊢
    split at hne
    case isTrue heq => rw [if_pos heq]; exact fits id heq.symm
    case isFalse heq => rw [if_neg heq]; exact h.fits id hne
  case father =>
    intro c f hf
    simp only [Sys.sh_setPc, heads.fatherOf, heads.typeOf] at hf ⊢
    obtain ⟨hstarted, hkind⟩ := h.father c f hf
    refine ⟨?_, hkind⟩
    rw [Sys.pc_setPc]
    split
    case isTrue heq => exact idle f heq.symm
    case isFalse => exact hstarted
  case registering =>
    intro q c next hq
    rw [Sys.pc_setPc] at hq
    split at hq
    case isTrue => exact absurd hq (registering c next)
    case isFalse =>
      obtain ⟨f, rfl, hf, hstage⟩ := h.registering q c next hq
      exact ⟨f, rfl, (heads.fatherOf c).trans hf, by simpa [heads.typeOf] using hstage⟩

private theorem Family.frame {s : Sys} (h : Family s) {sh' : Shared}
    (heads : Shared.SameHeads s.sh sh') : Family { s with sh := sh' } := by
  constructor
  case fits => simpa only [Sys.pc_with_sh, heads.typeOf] using h.fits
  case father => simpa only [Sys.pc_with_sh, heads.typeOf, heads.fatherOf] using h.father
  case registering => simpa only [Sys.pc_with_sh, heads.fatherOf, heads.typeOf] using h.registering

private theorem Family.create_section {s : Sys} (h : Family s) (life : Lifecycle s) {p : ProcId}
    {sh' : Shared} {c' : Pc} {id : TaskId} {taskType : TaskType} {param : TaskParam}
    {father : Option TaskId}
    (new : s.sh.newTask id taskType param father = some sh')
    (fits : ∀ f kind, p = .task f → (s.pc p).Fits kind → c'.Fits kind)
    (started : ∀ f, p = .task f → s.pc p ≠ .idle ∧ c' ≠ .idle)
    (child : ∀ f, father = some f → p = .task f ∧ (s.sh.typeOf f = some .offLine →
      taskType = .disable ∨ taskType = .metaDisable))
    (registering : ∀ c next, c' = .addChildrenTask c next → ∃ f, c = id ∧ father = some f ∧
      (s.sh.typeOf f = some .offLine → next.stage = 0)) :
    Family ({ s with sh := sh' }.setPc p c') := by
  have fresh := (Shared.newTask_eq_some new).1
  have old : ∀ f, s.pc (.task f) ≠ .idle → f ≠ id :=
    fun f hne heq => fresh (heq ▸ life.started f hne)
  constructor
  case fits =>
    intro f hne
    rw [Sys.sh_setPc, Shared.typeOf_newTask new]
    rw [Sys.pc_setPc] at hne ⊢
    by_cases heq : ProcId.task f = p
    · have hf := (started f heq.symm).1
      rw [← heq] at hf
      obtain ⟨kind, hkind, hfits⟩ := h.fits f hf
      rw [heq] at hfits
      rw [if_neg (old f hf), if_pos heq]
      exact ⟨kind, hkind, fits f kind heq.symm hfits⟩
    · rw [if_neg heq] at hne ⊢
      rw [if_neg (old f hne)]
      exact h.fits f hne
  case father =>
    intro c f hf
    rw [Sys.sh_setPc, Shared.fatherOf_newTask new] at hf
    have still : s.pc (.task f) ≠ .idle →
        (({ s with sh := sh' } : Sys).setPc p c').pc (.task f) ≠ .idle := by
      intro hne
      rw [Sys.pc_setPc]
      split
      case isTrue heq => exact (started f heq.symm).2
      case isFalse => exact hne
    simp only [Sys.sh_setPc, Shared.typeOf_newTask new]
    split at hf
    case isTrue heq =>
      obtain ⟨rfl, hkind⟩ := child f hf
      have hne := (started f rfl).1
      refine ⟨still hne, fun ht => ?_⟩
      rw [if_neg (old f hne)] at ht
      simpa only [heq, if_true, Option.some.injEq] using hkind ht
    case isFalse heq =>
      obtain ⟨hne, hkind⟩ := h.father c f hf
      refine ⟨still hne, fun ht => ?_⟩
      rw [if_neg (old f hne)] at ht
      simpa only [heq, if_false] using hkind ht
  case registering =>
    intro q c next hq
    rw [Sys.pc_setPc] at hq
    simp only [Sys.sh_setPc, Shared.fatherOf_newTask new, Shared.typeOf_newTask new]
    split at hq
    case isTrue heq =>
      obtain ⟨f, rfl, hf, hstage⟩ := registering c next hq
      obtain ⟨rfl, -⟩ := child f hf
      refine ⟨f, heq, by simpa using hf, ?_⟩
      rw [if_neg (old f (started f rfl).1)]
      exact hstage
    case isFalse =>
      obtain ⟨f, rfl, hf, hstage⟩ := h.registering q c next hq
      have : c ≠ id := fun heq => fresh (heq ▸ (life.creating (.task f) c (by
        rw [Sys.pc_with_sh] at hq; rw [hq]; rfl)).1)
      have hne := old f (h.father c f hf).1
      exact ⟨f, rfl, by rw [if_neg this]; exact hf, by rw [if_neg hne]; exact hstage⟩

theorem Family.step {s t : Sys} {a : Act} (h : Family s) (life : Lifecycle s)
    (hs : step sha256 s a = some t) : Family t := by
  have effect := step_effect hs
  cases effect with
  | @run p ch sh' c' effect =>
      generalize hc : s.pc p = c at effect
      -- what the kind of the running task says about its next point
      have keeps : ∀ {c'' : Pc} {id : TaskId}, p = .task id → c ≠ .idle →
          (∀ kind, c.Fits kind → c''.Fits kind) →
          ∃ kind, s.sh.typeOf id = some kind ∧ c''.Fits kind := by
        rintro c'' id rfl hne hfits
        rw [← hc] at hne hfits
        obtain ⟨kind, hkind, hk⟩ := h.fits id hne
        exact ⟨kind, hkind, hfits kind hk⟩
      cases effect with
      | call same hnone hnone' =>
          refine h.move_section same.toSameHeads (by simp) (by simp) ?_
          rintro c next rfl
          cases hnone'
      | callCreate new => exact h.create_section life new (by simp) (by simp) (by simp) (by simp)
      | @bodyCreate f id pt next taskType param sh' new child =>
          obtain ⟨hstage, -, kind, hpt, hnext, hkind⟩ := child.spec
          -- an `OffLineTask` creates only at the points before its wait
          have offline : s.sh.typeOf f = some .offLine →
              next.stage = 0 ∧ (taskType = .disable ∨ taskType = .metaDisable) := by
            intro ht
            obtain rfl : TaskType.offLine = kind := by simpa [hpt] using h.kind_mem hc ht
            obtain ⟨⟨⟩, -⟩ | ⟨-, hkind⟩ := hkind
            exact hkind
          refine h.create_section life new ?_ (by simp [hc]) ?_ ?_
          · rintro f kind' - hfits
            rw [hc] at hfits
            simp only [Pc.Fits, Next.Fits, hpt, hnext, List.mem_singleton] at hfits ⊢
            subst hfits
            refine ⟨hkind.imp And.left And.left, rfl, ?_⟩
            omega
          · rintro f ⟨⟩
            exact ⟨rfl, fun ht => (offline ht).2⟩
          · rintro c next ⟨⟩
            exact ⟨f, rfl, rfl, fun ht => (offline ht).1⟩
      | addChildrenTask =>
          exact h.move_section (Shared.sameHeads_addChildrenTask _ _)
            (fun id hid => keeps hid (by simp) (fun _ hk => hk)) (by simp) (by simp)
      | @addTask _ id next =>
          exact h.move_section (Shared.sameHeads_addTask _ _)
            (fun id hid => keeps hid (by simp) (fun _ hk => hk)) (by simp) (by simp)
      | @pushTask _ id next =>
          refine h.move_section (Shared.sameBoard_pushTask _ _).toSameHeads
            (fun id hid => keeps hid (by simp) (fun _ hk => hk.2.pc)) ?_ ?_
          · cases next <;> simp [Next.pc]
          · cases next <;> simp [Next.pc]
      | body same hkinds =>
          exact h.move_section same.toSameHeads
            (fun id hid => keeps hid (by simp) (fun kind hk => hkinds kind hk)) (by simp) (by simp)
      | passWait =>
          exact h.move_section (Shared.SameTasks.refl _).toSameHeads
            (fun id hid => keeps hid (by simp) (fun _ hk => hk)) (by simp) (by simp)
      | finish same hkinds =>
          refine h.move_section same.toSameHeads
            (fun id hid => keeps hid (by simp) (fun kind hk => ?_)) (by simp) (by simp)
          have := hkinds kind hk
          simp only [Pc.Fits, TaskPoint.kinds, List.mem_cons, List.not_mem_nil, or_false] at this ⊢
          tauto
      | notifyFather =>
          refine h.move_section (Shared.sameHeads_notifyFatherFinish _ _)
            (fun id hid => keeps hid (by simp) (fun kind hk => ?_)) (by simp) (by simp)
          simp only [Pc.Fits, TaskPoint.kinds, List.mem_cons, List.not_mem_nil, or_false] at hk ⊢
          tauto
      | leaveBoard same _ hstage hnone hfits =>
          refine h.move_section ?_ (fun id hid => keeps hid (by simp) hfits) ?_ ?_
          · exact ⟨same.allocated, same.typeOf, same.paramOf, same.fatherOf⟩
          · rintro id - rfl
            cases hstage
          · rintro c next rfl
            cases hnone
      | bodyReturn same =>
          exact h.move_section same.toSameHeads
            (fun id hid => keeps hid (by simp) (fun _ _ => trivial)) (by simp) (by simp)
  | @call n c idle =>
      refine h.move_section (Shared.SameTasks.refl _).toSameHeads (by simp) (by simp) ?_
      intro id next heq
      have := creating_entryOfCall c
      rw [heq] at this
      cases this
  | start hk same perm =>
      refine h.move_section same.toSameHeads ?_ (by simp) (by simp)
      rintro _ ⟨⟩
      exact ⟨_, hk, fits_entryOf _⟩
  | move same perm =>
      exact h.frame same.toSameHeads
  | reject same perm =>
      exact h.frame same.toSameHeads

theorem family_init : Family {} := by
  constructor
  case fits => exact fun id hne => absurd rfl hne
  case father => exact fun c f hf => nomatch hf
  case registering => nofun

theorem family {s : Sys} (h : (taskSystem sha256).Reachable s) : Family s :=
  h.invariant_of (fun _ hi => hi ▸ family_init) (fun _ _ _ hr hi hs => hi.step (lifecycle hr) hs)

/-- What the waiting set of an `OffLineTask` holds. Stage 2 of a child is past its
`NotifyFatherFinish`, stage 1 of the father is past its wait. -/
structure Barrier (s : Sys) : Prop where
  registered : ∀ c f, s.sh.fatherOf c = some f → s.sh.typeOf f = some .offLine →
    (∃ next, s.pc (.task f) = .addChildrenTask c next) ∨ c ∈ s.sh.unFinishChildren f ∨
      2 ≤ (s.pc (.task c)).stage
  unFinish : ∀ f c, c ∈ s.sh.unFinishChildren f → s.sh.fatherOf c = some f ∧
    s.sh.typeOf f = some .offLine ∧ (s.pc (.task c)).stage < 2
  waited : ∀ f, s.sh.typeOf f = some .offLine → 1 ≤ (s.pc (.task f)).stage →
    s.sh.unFinishChildren f = ∅

/-- A thread that moves on leaves the registrations that were made. -/
private theorem Barrier.registered_setPc {s : Sys} (h : Barrier s) {p : ProcId} {sh' : Shared}
    {c' : Pc} (before : ∀ c next, s.pc p ≠ .addChildrenTask c next)
    (grows : ∀ id, p = .task id → (s.pc p).stage ≤ c'.stage) {c f : TaskId}
    (hf : s.sh.fatherOf c = some f) (hk : s.sh.typeOf f = some .offLine) :
    (∃ next, (({ s with sh := sh' } : Sys).setPc p c').pc (.task f) = .addChildrenTask c next) ∨
      c ∈ s.sh.unFinishChildren f ∨
      2 ≤ ((({ s with sh := sh' } : Sys).setPc p c').pc (.task c)).stage := by
  obtain ⟨next, hnext⟩ | hmem | hstage := h.registered c f hf hk
  · refine .inl ⟨next, ?_⟩
    rw [Sys.pc_setPc, if_neg (fun heq : ProcId.task f = p => before c next (heq ▸ hnext))]
    exact hnext
  · exact .inr (.inl hmem)
  · refine .inr (.inr ?_)
    rw [Sys.pc_setPc]
    split
    case isTrue heq =>
      rw [heq] at hstage
      exact hstage.trans (grows c heq.symm)
    case isFalse => exact hstage

/-- A thread moves on without creating, registering or reporting a child. -/
private theorem Barrier.advance_section {s : Sys} (h : Barrier s) (fam : Family s) {p : ProcId}
    {sh' : Shared} {c' : Pc} (heads : Shared.SameHeads s.sh sh')
    (unFinish : ∀ id, sh'.unFinishChildren id = s.sh.unFinishChildren id)
    (before : ∀ c next, s.pc p ≠ .addChildrenTask c next)
    (grows : ∀ id, p = .task id → (s.pc p).stage ≤ c'.stage)
    (waited : ∀ id, p = .task id → s.sh.typeOf id = some .offLine → 1 ≤ c'.stage →
      1 ≤ (s.pc p).stage ∨ s.sh.unFinishChildren id = ∅)
    (reported : ∀ id, p = .task id →
      s.sh.typeOf id = some .disable ∨ s.sh.typeOf id = some .metaDisable →
      2 ≤ c'.stage → 2 ≤ (s.pc p).stage) :
    Barrier ({ s with sh := sh' }.setPc p c') := by
  constructor
  case registered =>
    intro c f hf hk
    simp only [Sys.sh_setPc, heads.fatherOf, heads.typeOf, unFinish] at hf hk ⊢
    exact h.registered_setPc before grows hf hk
  case unFinish =>
    intro f c hmem
    simp only [Sys.sh_setPc, heads.fatherOf, heads.typeOf, unFinish] at hmem ⊢
    obtain ⟨hf, hk, hstage⟩ := h.unFinish f c hmem
    refine ⟨hf, hk, ?_⟩
    rw [Sys.pc_setPc]
    split
    case isTrue heq =>
      by_contra hge
      rw [heq] at hstage
      exact hge (absurd hstage
        (Nat.not_lt.mpr (reported c heq.symm ((fam.father c f hf).2 hk) (Nat.not_lt.mp hge))))
    case isFalse => exact hstage
  case waited =>
    intro f hk hstage
    simp only [Sys.sh_setPc, heads.typeOf, unFinish] at hk ⊢
    rw [Sys.pc_setPc] at hstage
    split at hstage
    case isTrue heq =>
      obtain hge | hempty := waited f heq.symm hk hstage
      · exact h.waited f hk (heq ▸ hge)
      · exact hempty
    case isFalse => exact h.waited f hk hstage

private theorem Barrier.frame {s : Sys} (h : Barrier s) {sh' : Shared}
    (same : Shared.SameBoard s.sh sh') : Barrier { s with sh := sh' } := by
  constructor
  case registered =>
    simpa only [Sys.pc_with_sh, same.fatherOf, same.typeOf, same.unFinish] using h.registered
  case unFinish =>
    simpa only [Sys.pc_with_sh, same.fatherOf, same.typeOf, same.unFinish] using h.unFinish
  case waited => simpa only [Sys.pc_with_sh, same.typeOf, same.unFinish] using h.waited

/-- A child that is being created is not registered yet. -/
private theorem Barrier.create_section {s : Sys} (h : Barrier s) (fam : Family s)
    (life : Lifecycle s) {p : ProcId} {sh' : Shared} {c' : Pc} {id : TaskId}
    {taskType : TaskType} {param : TaskParam} {father : Option TaskId}
    (new : s.sh.newTask id taskType param father = some sh')
    (before : ∀ c next, s.pc p ≠ .addChildrenTask c next)
    (started : ∀ f, p = .task f → s.pc p ≠ .idle)
    (grows : ∀ f, p = .task f → (s.pc p).stage ≤ c'.stage)
    (waited : ∀ f, p = .task f → s.sh.typeOf f = some .offLine → c'.stage = 0)
    (reported : ∀ f, p = .task f →
      s.sh.typeOf f = some .disable ∨ s.sh.typeOf f = some .metaDisable → False)
    (registering : ∀ f, father = some f → p = .task f ∧ ∃ next, c' = .addChildrenTask id next) :
    Barrier ({ s with sh := sh' }.setPc p c') := by
  have fresh := (Shared.newTask_eq_some new).1
  have old : ∀ f, s.pc (.task f) ≠ .idle → f ≠ id :=
    fun f hne heq => fresh (heq ▸ life.started f hne)
  have old_father : ∀ c f, s.sh.fatherOf c = some f → c ≠ id := by
    rintro c f hf rfl
    have : s.sh.objects.get c = none := by simpa [Shared.allocated] using fresh
    simp [Shared.fatherOf, this] at hf
  constructor
  case registered =>
    intro c f hf hk
    simp only [Sys.sh_setPc, Shared.fatherOf_newTask new, Shared.typeOf_newTask new,
      Shared.unFinish_newTask new] at hf hk ⊢
    split at hf
    case isTrue heq =>
      obtain ⟨rfl, next, rfl⟩ := registering f hf
      exact .inl ⟨next, by simp [heq]⟩
    case isFalse heq =>
      rw [if_neg (old f (fam.father c f hf).1)] at hk
      exact h.registered_setPc before grows hf hk
  case unFinish =>
    intro f c hmem
    simp only [Sys.sh_setPc, Shared.fatherOf_newTask new, Shared.typeOf_newTask new,
      Shared.unFinish_newTask new] at hmem ⊢
    obtain ⟨hf, hk, hstage⟩ := h.unFinish f c hmem
    rw [if_neg (old_father c f hf), if_neg (old f (fam.father c f hf).1)]
    refine ⟨hf, hk, ?_⟩
    rw [Sys.pc_setPc]
    split
    case isTrue heq => exact (reported c heq.symm ((fam.father c f hf).2 hk)).elim
    case isFalse => exact hstage
  case waited =>
    intro f hk hstage
    simp only [Sys.sh_setPc, Shared.typeOf_newTask new, Shared.unFinish_newTask new] at hk ⊢
    rw [Sys.pc_setPc] at hstage
    split at hstage
    case isTrue heq =>
      have hne := started f heq.symm
      rw [← heq] at hne
      rw [if_neg (old f hne)] at hk
      exact absurd (waited f heq.symm hk) (by omega)
    case isFalse =>
      have hne : s.pc (.task f) ≠ .idle := by
        intro hidle
        simp [hidle] at hstage
      rw [if_neg (old f hne)] at hk
      exact h.waited f hk hstage

/-- A child is registered before anyone can run it. -/
private theorem Barrier.register {s : Sys} (h : Barrier s) (fam : Family s) (life : Lifecycle s)
    {p : ProcId} {id : TaskId} {next : Next} (hp : s.pc p = .addChildrenTask id next) :
    Barrier ({ s with sh := s.sh.addChildrenTask id }.setPc p (.addTask id next)) := by
  have heads := Shared.sameHeads_addChildrenTask s.sh id
  obtain ⟨f, rfl, hf, hzero⟩ := fam.registering p id next hp
  have hidle : s.pc (.task id) = .idle := (life.creating _ id (by rw [hp]; rfl)).2.2
  have stage : ∀ id', ((({ s with sh := s.sh.addChildrenTask id } : Sys).setPc (.task f)
      (.addTask id next)).pc (.task id')).stage = (s.pc (.task id')).stage := by
    intro id'
    rw [Sys.pc_setPc]
    split
    case isTrue heq => rw [heq, hp]; rfl
    case isFalse => rfl
  constructor
  case registered =>
    intro c f' hf' hk
    rw [stage]
    simp only [Sys.sh_setPc, heads.fatherOf, heads.typeOf, Shared.unFinish_addChildrenTask]
      at hf' hk ⊢
    obtain ⟨next', hnext⟩ | hmem | hstage := h.registered c f' hf' hk
    · by_cases heq : f' = f
      · subst heq
        obtain ⟨rfl, rfl⟩ := Pc.addChildrenTask.inj (hp.symm.trans hnext)
        exact .inr (.inl (by simp [hf, hk]))
      · exact .inl ⟨next', by rw [Sys.pc_setPc, if_neg (by simpa using heq)]; exact hnext⟩
    · refine .inr (.inl ?_)
      split
      · exact Finset.mem_insert_of_mem hmem
      · exact hmem
    · exact .inr (.inr hstage)
  case unFinish =>
    intro f' c hmem
    rw [stage]
    simp only [Sys.sh_setPc, heads.fatherOf, heads.typeOf, Shared.unFinish_addChildrenTask]
      at hmem ⊢
    split at hmem
    case isTrue child =>
      obtain rfl | hmem := Finset.mem_insert.mp hmem
      · exact ⟨child.1, child.2, by rw [hidle]; decide⟩
      · exact h.unFinish f' c hmem
    case isFalse => exact h.unFinish f' c hmem
  case waited =>
    intro f' hk hstage
    rw [stage] at hstage
    simp only [Sys.sh_setPc, heads.typeOf, Shared.unFinish_addChildrenTask] at hk ⊢
    split
    case isTrue child =>
      obtain rfl : f = f' := by simpa [hf] using child.1
      rw [hp, Pc.stage_addChildrenTask, hzero hk] at hstage
      omega
    case isFalse => exact h.waited f' hk hstage

/-- A father with unreported children is on the board, so their weak pointers to it
lock. -/
theorem Barrier.father_mem_tasks {s : Sys} (h : Barrier s) (fam : Family s) (life : Lifecycle s)
    (board : OnBoard s) {f c : TaskId} (hmem : c ∈ s.sh.unFinishChildren f) : f ∈ s.sh.tasks := by
  obtain ⟨hf, hk, -⟩ := h.unFinish f c hmem
  have hstarted := (fam.father c f hf).1
  obtain ⟨p, hadd⟩ | hboard | hstage := board.added f (life.started f hstarted)
  · exact absurd (life.creating p f (Pc.creating_of_adding hadd)).2.2 hstarted
  · exact hboard
  · have := h.waited f hk (by omega)
    simp [this] at hmem

/-- A report empties its place in the waiting set. -/
private theorem Barrier.report {s : Sys} (h : Barrier s) (fam : Family s) (life : Lifecycle s)
    (board : OnBoard s) {id : TaskId} (hp : s.pc (.task id) = .body .notifyFather) :
    Barrier ({ s with sh := s.sh.notifyFatherFinish id }.setPc (.task id) (.body .removeTask)) := by
  have heads := Shared.sameHeads_notifyFatherFinish s.sh id
  constructor
  case registered =>
    intro c f hf hk
    simp only [Sys.sh_setPc, heads.fatherOf, heads.typeOf, Shared.unFinish_notifyFatherFinish]
      at hf hk ⊢
    by_cases heq : c = id
    · exact .inr (.inr (by simp [heq, TaskPoint.stage]))
    · obtain ⟨next, hnext⟩ | hmem | hstage := h.registered c f hf hk
      · refine .inl ⟨next, ?_⟩
        rw [Sys.pc_setPc, if_neg]
        · exact hnext
        · rintro ⟨⟩
          rw [hp] at hnext
          cases hnext
      · refine .inr (.inl ?_)
        split
        · exact Finset.mem_erase.mpr ⟨heq, hmem⟩
        · exact hmem
      · exact .inr (.inr (by rw [Sys.pc_setPc, if_neg (by simpa using heq)]; exact hstage))
  case unFinish =>
    intro f c hmem
    simp only [Sys.sh_setPc, heads.fatherOf, heads.typeOf, Shared.unFinish_notifyFatherFinish]
      at hmem ⊢
    have hmem' : c ∈ s.sh.unFinishChildren f := by
      split at hmem
      · exact Finset.mem_of_mem_erase hmem
      · exact hmem
    obtain ⟨hf, hk, hstage⟩ := h.unFinish f c hmem'
    have hne : c ≠ id := by
      rintro rfl
      rw [if_pos ⟨hf, h.father_mem_tasks fam life board hmem'⟩] at hmem
      exact (Finset.mem_erase.mp hmem).1 rfl
    refine ⟨hf, hk, ?_⟩
    rw [Sys.pc_setPc, if_neg (by simpa using hne)]
    exact hstage
  case waited =>
    intro f hk hstage
    simp only [Sys.sh_setPc, heads.typeOf, Shared.unFinish_notifyFatherFinish] at hk ⊢
    have hempty : s.sh.unFinishChildren f = ∅ := by
      rw [Sys.pc_setPc] at hstage
      split at hstage
      case isTrue heq =>
        cases heq
        exact absurd (fam.kind_mem hp hk) (by decide)
      case isFalse => exact h.waited f hk hstage
    split
    · rw [hempty, Finset.erase_empty]
    · exact hempty

theorem Barrier.step {s t : Sys} {a : Act} (h : Barrier s) (fam : Family s) (life : Lifecycle s)
    (board : OnBoard s) (hs : step sha256 s a = some t) : Barrier t := by
  have effect := step_effect hs
  cases effect with
  | @run p ch sh' c' effect =>
      generalize hc : s.pc p = c at effect
      cases effect with
      | call same hnone =>
          refine h.advance_section fam same.toSameHeads same.unFinish ?_ (by simp) (by simp)
            (by simp)
          intro c next heq
          rw [← hc, heq] at hnone
          cases hnone
      | callCreate new hnone =>
          refine h.create_section fam life new ?_ (by simp) (by simp) (by simp) (by simp) (by simp)
          intro c next heq
          rw [← hc, heq] at hnone
          cases hnone
      | @bodyCreate f id pt next taskType param sh' new child =>
          obtain ⟨hstage, -, kind, hpt, hnext, hkind⟩ := child.spec
          have hfits : ∀ k, s.sh.typeOf f = some k → k = kind := by
            intro k hk
            simpa [hpt] using fam.kind_mem hc hk
          refine h.create_section fam life new (by simp [hc]) (by simp [hc]) ?_ ?_ ?_ ?_
          · simp [hc, hstage]
          · rintro _ ⟨⟩ hk
            obtain rfl := hfits _ hk
            obtain ⟨⟨⟩, -⟩ | ⟨-, hzero, -⟩ := hkind
            exact hzero
          · rintro _ ⟨⟩ (hk | hk) <;> obtain rfl := hfits _ hk <;> simp at hkind
          · rintro _ ⟨⟩
            exact ⟨rfl, _, rfl⟩
      | addChildrenTask => exact h.register fam life hc
      | addTask =>
          exact h.advance_section fam (Shared.sameHeads_addTask _ _)
            (Shared.unFinish_addTask _ _) (by simp [hc]) (by simp [hc])
            (fun _ _ _ hle => .inl (by simpa [hc] using hle)) (by simp [hc])
      | pushTask =>
          exact h.advance_section fam (Shared.sameBoard_pushTask _ _).toSameHeads
            (Shared.sameBoard_pushTask _ _).unFinish (by simp [hc]) (by simp [hc])
            (fun _ _ _ hle => .inl (by simpa [hc] using hle)) (by simp [hc])
      | body same _ hstage =>
          exact h.advance_section fam same.toSameHeads same.unFinish (by simp [hc])
            (by simp [hc, hstage]) (fun _ _ _ hle => .inl (by simpa [hc, hstage] using hle))
            (by simp [hc, hstage])
      | passWait hempty =>
          refine h.advance_section fam (Shared.SameTasks.refl _).toSameHeads (fun _ => rfl)
            (by simp [hc]) (by simp [hc, TaskPoint.stage]) ?_ (by simp [TaskPoint.stage])
          rintro _ ⟨⟩ - -
          exact .inr hempty
      | @finish id pt sh' same hkinds hstage =>
          have hkind : ∀ k, s.sh.typeOf id = some k → k = .enable ∨ k = .metaEnable := by
            intro k hk
            simpa using hkinds k (fam.kind_mem hc hk)
          refine h.advance_section fam same.toSameHeads same.unFinish (by simp [hc])
            (by simp [hc, hstage]) ?_ ?_
          · rintro _ ⟨⟩ hk -
            exact absurd (hkind _ hk) (by decide)
          · rintro _ ⟨⟩ (hk | hk) - <;> exact absurd (hkind _ hk) (by decide)
      | notifyFather => exact h.report fam life board hc
      | @leaveBoard id pt sh' c' same hpt hstage' =>
          have hstage : 1 ≤ pt.stage := by
            obtain ⟨rfl, -⟩ | ⟨htwo, -⟩ := hpt
            · decide
            · omega
          refine h.advance_section fam ⟨same.allocated, same.typeOf, same.paramOf, same.fatherOf⟩
            same.unFinish (by simp [hc]) ?_ (fun _ _ _ _ => .inl (by simpa [hc] using hstage)) ?_
          · rintro _ ⟨⟩
            obtain ⟨rfl, -⟩ | ⟨htwo, -⟩ := hpt
            · simp [hc, hstage', TaskPoint.stage]
            · simp [hc, hstage', htwo]
          · rintro _ ⟨⟩ hk -
            obtain ⟨rfl, -⟩ | ⟨htwo, -⟩ := hpt
            · obtain hk | hk := hk <;> exact absurd (fam.kind_mem hc hk) (by decide)
            · simp [hc, htwo]
      | bodyReturn same hstage =>
          exact h.advance_section fam same.toSameHeads same.unFinish (by simp [hc])
            (by simp [hc, hstage]) (fun _ _ _ _ => .inl (by simp [hc, hstage]))
            (by simp [hc, hstage])
  | @call n c idle =>
      exact h.advance_section fam (Shared.SameTasks.refl _).toSameHeads (fun _ => rfl)
        (by simp [idle]) (by simp) (by simp) (by simp)
  | @start a id taskType sh' hk same perm =>
      have hidle := (life.waiting id (perm.mem_iff.mpr List.mem_cons_self)).2
      exact h.advance_section fam same.toSameHeads same.unFinish (by simp [hidle]) (by simp [hidle])
        (by simp) (by simp)
  | move same perm => exact h.frame same
  | reject same perm => exact h.frame same

theorem barrier_init : Barrier {} := by
  constructor
  case registered => exact fun c f hf => nomatch hf
  case unFinish => exact fun f c hmem => nomatch hmem
  case waited => exact fun f hk => nomatch hk

theorem barrier {s : Sys} (h : (taskSystem sha256).Reachable s) : Barrier s :=
  h.invariant_of (fun _ hi => hi ▸ barrier_init)
    (fun _ _ _ hr hi hs => hi.step (family hr) (lifecycle hr) (onBoard hr) hs)

/-- A child has got past its `NotifyFatherFinish`. -/
def Reported (s : Sys) (c : TaskId) : Prop :=
  s.pc (.task c) = .body .removeTask ∨ ∃ ret, s.pc (.task c) = .returned ret

theorem Family.reported_of_stage {s : Sys} (fam : Family s) {c f : TaskId}
    (hf : s.sh.fatherOf c = some f) (hk : s.sh.typeOf f = some .offLine)
    (hstage : 2 ≤ (s.pc (.task c)).stage) : Reported s c := by
  have hkind := (fam.father c f hf).2 hk
  obtain ⟨kind, hc, hfits⟩ := fam.fits c (fun hidle => by simp [hidle] at hstage)
  have hkind : kind = .disable ∨ kind = .metaDisable := by simpa [hc] using hkind
  cases hpc : s.pc (.task c) with
  | idle => simp [hpc] at hstage
  | returned ret => exact .inr ⟨ret, hpc⟩
  | sendOnLine _ _ | sendOffLine _ _ | createTask _ _ => simp [hpc, Pc.Fits] at hfits
  | body pt =>
      rw [hpc] at hstage hfits
      obtain rfl : pt = .removeTask := TaskPoint.eq_removeTask hkind hfits hstage
      exact .inl hpc
  | addChildrenTask _ next | addTask _ next | pushTask _ next =>
      rw [hpc] at hfits
      obtain rfl | rfl := hkind <;> simp [Pc.Fits] at hfits

/-- Past its wait an `OffLineTask` has no unreported child. -/
theorem Barrier.reported {s : Sys} (bar : Barrier s) (fam : Family s) {f c : TaskId}
    (hk : s.sh.typeOf f = some .offLine) (past : 1 ≤ (s.pc (.task f)).stage)
    (hf : s.sh.fatherOf c = some f) : Reported s c := by
  obtain ⟨next, hnext⟩ | hmem | hstage := bar.registered c f hf hk
  · obtain ⟨f', ⟨⟩, -, hzero⟩ := fam.registering _ c next hnext
    rw [hnext, Pc.stage_addChildrenTask, hzero hk] at past
    omega
  · rw [bar.waited f hk past] at hmem
    exact absurd hmem (Finset.notMem_empty c)
  · exact fam.reported_of_stage hf hk hstage

theorem offLineTask_waits_for_children {s : Sys} (h : (taskSystem sha256).Reachable s)
    {f : TaskId} (hk : s.sh.typeOf f = some .offLine) :
    (1 ≤ (s.pc (.task f)).stage → ∀ c, s.sh.fatherOf c = some f → Reported s c) ∧
    ∀ c, s.sh.fatherOf c = some f → s.pc (.task c) = .body .notifyFather →
      c ∈ s.sh.unFinishChildren f ∧
      ∀ ch t, step sha256 s (.run (.task c) ch) = some t →
        Reported t c ∧ c ∉ t.sh.unFinishChildren f := by
  have fam := family h
  have bar := barrier h
  refine ⟨fun past c hf => bar.reported fam hk past hf, fun c hf hc => ?_⟩
  have hmem : c ∈ s.sh.unFinishChildren f := by
    obtain ⟨next, hnext⟩ | hmem | hstage := bar.registered c f hf hk
    · have := (lifecycle h).creating _ c (by rw [hnext]; rfl)
      rw [hc] at this
      cases this.2.2
    · exact hmem
    · rw [hc] at hstage
      exact absurd hstage (by decide)
  refine ⟨hmem, fun ch t ht => ?_⟩
  obtain ⟨sh', c', he, rfl⟩ := step_run ht
  simp only [hc, exec, taskBody, Option.bind_eq_some_iff, Option.some.injEq, Prod.mk.injEq] at he
  obtain ⟨o, -, rfl, rfl⟩ := he
  refine ⟨.inl (by simp), ?_⟩
  rw [Sys.sh_setPc, Shared.unFinish_notifyFatherFinish,
    if_pos ⟨hf, bar.father_mem_tasks fam (lifecycle h) (onBoard h) hmem⟩]
  exact Finset.notMem_erase c _

/-- Device A has come online and gone offline; task 2 is its `OffLineTask`. -/
private def offLineSchedule : List Act :=
  .call 0 (.sendOnLineEvent deviceA) :: runs (.call 0) 10 { newId := 1 } ++
  .call 1 (.sendOffLineEvent deviceA) :: runs (.call 1) 9 { newId := 2 } ++
  dispatch ++ runs (.task 1) 11 { newId := 3 } ++
  dispatch ++ .startSubmitted 2 :: runs (.task 2) 8 { newId := 4 } ++
  dispatch ++ dispatch ++ .startSubmitted 4 :: runs (.task 4) 2 {} ++ runs (.task 2) 1 {}

theorem offLineTask_waits_for_children_deviceA :
    ∃ s ∈ (taskSystem sampleSha256).replay (fun _ _ => True) {} offLineSchedule,
      s.sh.fatherOf 4 = some 2 ∧ s.pc (.task 2) = .body .removeOnlineEntry ∧ Reported s 4 := by
  have run : ∃ s ∈ (taskSystem sampleSha256).replay (fun _ _ => True) {} offLineSchedule,
      s.sh.typeOf 2 = some .offLine ∧ s.sh.fatherOf 4 = some 2 ∧
      s.pc (.task 2) = .body .removeOnlineEntry := by
    decide +kernel
  obtain ⟨s, hs, hk, hf, hpc⟩ := run
  have reach := (TransitionSystem.run_of_replay rfl hs).reachable
  exact ⟨s, hs, hf, hpc,
    (offLineTask_waits_for_children reach hk).1 (by rw [hpc]; decide) 4 hf⟩

end DistributedHardware
