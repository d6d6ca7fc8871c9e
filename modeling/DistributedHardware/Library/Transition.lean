import Mathlib.Data.List.Basic
import Mathlib.Tactic.Common

/-!
Guarded transition systems and their runs.

The step of a system is a partial function of the state and of an action that
carries every choice of the environment, so one definition serves both for
replaying a concrete schedule and for induction over all runs. Runs carry a
condition on each of their steps; the condition `fun _ _ => True` gives the
reachable states. Nothing here depends on what the states are.
-/

universe u v

/-- A system: its initial states and a step that is `none` where the action is
not enabled. -/
structure TransitionSystem (S : Type u) (A : Type v) where
  init : S → Prop
  step : S → A → Option S

namespace TransitionSystem
variable {S : Type u} {A : Type v} (sys : TransitionSystem S A)

/-- Runs whose steps all meet `ok`, with their actions in the order taken, the
latest first. -/
inductive Run (ok : S → A → Prop) : List A → S → Prop
  | init {s : S} : sys.init s → Run ok [] s
  | step {acts : List A} {s t : S} {a : A} :
      Run ok acts s → ok s a → sys.step s a = some t → Run ok (a :: acts) t

/-- Steps from one state to another, the earliest action first. -/
inductive Path (ok : S → A → Prop) : S → List A → S → Prop
  | nil (s : S) : Path ok s [] s
  | cons {s t r : S} {a : A} {acts : List A} :
      ok s a → sys.step s a = some t → Path ok t acts r → Path ok s (a :: acts) r

def Reachable (s : S) : Prop := ∃ acts, Run sys (fun _ _ => True) acts s

/-- Replays a schedule, checking a decidable condition before each step. -/
def replay (ok : S → A → Prop) [∀ s a, Decidable (ok s a)] : S → List A → Option S
  | s, [] => some s
  | s, a :: acts =>
      if ok s a then (sys.step s a).bind (fun t => replay ok t acts) else none

variable {sys}

/-- A run under one condition is a run under another that each of its steps meets. -/
theorem Run.imp {ok ok' : S → A → Prop}
    (h : ∀ acts s a t, sys.Run ok acts s → sys.Run ok' acts s → ok s a →
      sys.step s a = some t → ok' s a)
    {acts : List A} {s : S} (run : sys.Run ok acts s) : sys.Run ok' acts s := by
  induction run with
  | init hi => exact .init hi
  | step run hok hs ih => exact .step ih (h _ _ _ _ run ih hok hs) hs

theorem Run.mono {ok ok' : S → A → Prop} (h : ∀ s a, ok s a → ok' s a)
    {acts : List A} {s : S} (run : sys.Run ok acts s) : sys.Run ok' acts s :=
  run.imp (fun _ _ _ _ _ _ hok _ => h _ _ hok)

theorem Run.reachable {ok : S → A → Prop} {acts : List A} {s : S}
    (run : sys.Run ok acts s) : sys.Reachable s :=
  ⟨acts, run.mono (fun _ _ _ => trivial)⟩

theorem Reachable.init {s : S} (h : sys.init s) : sys.Reachable s := ⟨[], .init h⟩

theorem Reachable.step {s t : S} {a : A} (h : sys.Reachable s)
    (hs : sys.step s a = some t) : sys.Reachable t := by
  obtain ⟨acts, run⟩ := h
  exact ⟨a :: acts, .step run trivial hs⟩

/-- What holds initially and survives every step of a run holds at its end. The
step may use that its state is reachable. -/
theorem Run.invariant {ok : S → A → Prop} {I : List A → S → Prop}
    (initial : ∀ s, sys.init s → I [] s)
    (preserved : ∀ acts s a t, sys.Reachable s → I acts s → ok s a →
      sys.step s a = some t → I (a :: acts) t)
    {acts : List A} {s : S} (run : sys.Run ok acts s) : I acts s := by
  induction run with
  | init hi => exact initial _ hi
  | step run hok hs ih => exact preserved _ _ _ _ run.reachable ih hok hs

/-- The runs all of whose states satisfy `Good`. -/
abbrev RunIn (sys : TransitionSystem S A) (Good : S → Prop) : List A → S → Prop :=
  sys.Run (fun s a => ∀ t, sys.step s a = some t → Good t)

theorem RunIn.good {Good : S → Prop} (initial : ∀ s, sys.init s → Good s) {acts : List A} {s : S}
    (run : sys.RunIn Good acts s) : Good s := by
  cases run with
  | init hi => exact initial _ hi
  | step _ hok hs => exact hok _ hs

/-- Where, from good states, a step leads to a good state exactly if it meets `ok`, the
runs through good states are those whose steps meet `ok`. -/
theorem runIn_iff_run {Good : S → Prop} {ok : S → A → Prop}
    (initial : ∀ s, sys.init s → Good s)
    (step_iff : ∀ s a t, sys.Reachable s → Good s → sys.step s a = some t → (Good t ↔ ok s a))
    {acts : List A} {s : S} : sys.RunIn Good acts s ↔ sys.Run ok acts s := by
  constructor
  · intro run
    exact run.imp (fun _ _ _ t before _ good hs =>
      (step_iff _ _ _ before.reachable (RunIn.good initial before) hs).mp (good t hs))
  · intro run
    have holds {acts : List A} {s : S} (run : sys.Run ok acts s) : Good s :=
      run.invariant (I := fun _ => Good) initial
        (fun _ _ _ _ reach good hok hs => (step_iff _ _ _ reach good hs).mpr hok)
    exact run.imp (fun _ _ _ _ before _ hok _ _ ht => holds (before.step hok ht))

theorem Reachable.invariant {I : S → Prop} (initial : ∀ s, sys.init s → I s)
    (preserved : ∀ s a t, I s → sys.step s a = some t → I t)
    {s : S} (h : sys.Reachable s) : I s := by
  obtain ⟨acts, run⟩ := h
  exact run.invariant (I := fun _ => I) initial
    (fun _ _ _ _ _ hi _ hs => preserved _ _ _ hi hs)

/-- The same with an invariant already known of the reachable states. -/
theorem Reachable.invariant_of {I : S → Prop} (initial : ∀ s, sys.init s → I s)
    (preserved : ∀ s a t, sys.Reachable s → I s → sys.step s a = some t → I t)
    {s : S} (h : sys.Reachable s) : I s := by
  obtain ⟨acts, run⟩ := h
  exact run.invariant (I := fun _ => I) initial
    (fun _ _ _ _ hr hi _ hs => preserved _ _ _ hr hi hs)

theorem Path.reachable {ok : S → A → Prop} {s t : S} {acts : List A}
    (path : sys.Path ok s acts t) (h : sys.Reachable s) : sys.Reachable t := by
  induction path with
  | nil => exact h
  | cons _ hs _ ih => exact ih (h.step hs)

theorem Path.mono {ok ok' : S → A → Prop} (h : ∀ s a, ok s a → ok' s a) {s t : S}
    {acts : List A} (path : sys.Path ok s acts t) : sys.Path ok' s acts t := by
  induction path with
  | nil => exact .nil _
  | cons hok hs _ ih => exact .cons (h _ _ hok) hs ih

/-- An invariant along a path, from its first state on. -/
theorem Path.invariant {ok : S → A → Prop} {I : S → Prop}
    (preserved : ∀ s a t, sys.Reachable s → I s → ok s a → sys.step s a = some t → I t)
    {s t : S} {acts : List A} (path : sys.Path ok s acts t)
    (reachable : sys.Reachable s) (h : I s) : I t := by
  induction path with
  | nil => exact h
  | cons hok hs _ ih => exact ih (reachable.step hs) (preserved _ _ _ reachable h hok hs)

/-- Where a property is gained along a path, one of its steps gains it. -/
theorem Path.gained {ok : S → A → Prop} {P : S → Prop} {s t : S} {acts : List A}
    (path : sys.Path ok s acts t) (before : ¬ P s) (after : P t) :
    ∃ pre a post r r', acts = pre ++ a :: post ∧ sys.Path ok s pre r ∧ ok r a ∧
      sys.step r a = some r' ∧ sys.Path ok r' post t ∧ ¬ P r ∧ P r' := by
  induction path with
  | nil => exact absurd after before
  | @cons s m t a acts hok hs rest ih =>
      by_cases hm : P m
      · exact ⟨[], a, acts, s, m, rfl, .nil s, hok, hs, rest, before, hm⟩
      · obtain ⟨pre, b, post, r, r', rfl, hpre, hb, hstep, hpost, h, h'⟩ := ih hm after
        exact ⟨a :: pre, b, post, r, r', rfl, .cons hok hs hpre, hb, hstep, hpost, h, h'⟩

section Replay
variable {ok : S → A → Prop} [∀ s a, Decidable (ok s a)]

theorem path_of_replay {s t : S} {acts : List A}
    (h : sys.replay ok s acts = some t) : sys.Path ok s acts t := by
  induction acts generalizing s with
  | nil =>
      cases h
      exact .nil _
  | cons a acts ih =>
      simp only [replay] at h
      split at h
      case isTrue hok =>
        obtain ⟨m, hs, h⟩ := Option.bind_eq_some_iff.mp h
        exact .cons hok hs (ih h)
      case isFalse => cases h

omit [∀ s a, Decidable (ok s a)] in
theorem Run.append_path {acts acts' : List A} {s t : S}
    (run : sys.Run ok acts s) (path : sys.Path ok s acts' t) :
    sys.Run ok (acts'.reverse ++ acts) t := by
  induction path generalizing acts with
  | nil => exact run
  | cons hok hs _ ih =>
      simpa only [List.reverse_cons, List.append_assoc, List.singleton_append] using
        ih (.step run hok hs)

theorem run_of_replay {s t : S} {acts : List A} (hi : sys.init s)
    (h : sys.replay ok s acts = some t) : sys.Run ok acts.reverse t := by
  simpa only [List.append_nil] using (Run.init hi).append_path (path_of_replay h)

end Replay
end TransitionSystem
