import DistributedHardware.AvTransport.TransPlugins
import DistributedHardware.Library.Transition

/-!
The states of an `AVInputFilter` and of the `DsoftbusInputPlugin` it drives.

The filter has its own state and looks at the plugin's results only. `Resume` looks at
neither state, and the plugin's `Pause` and `Resume` do nothing and succeed.
-/

namespace DistributedHardware

namespace DsoftbusInputPlugin

def start (p : DsoftbusPlugin) : Status × DsoftbusPlugin :=
  if p.state ≠ .prepared then (.errorWrongState, p)
  else (.ok, { p with isrunning := true, state := .running })

def pause (_ : DsoftbusPlugin) : Status := .ok

def resume (_ : DsoftbusPlugin) : Status := .ok

end DsoftbusInputPlugin

theorem DsoftbusInputPlugin.start_of_prepared {p : DsoftbusPlugin} (h : p.state = .prepared) :
    start p = (.ok, { p with isrunning := true, state := .running }) :=
  if_neg (not_not.mpr h)

/-- An `AVInputFilter` that drives a `DsoftbusInputPlugin`. -/
abbrev DsoftbusInputFilter := TransFilter DsoftbusPlugin

namespace AVInputFilter

def start : FilterStep DsoftbusPlugin := fun f =>
  if f.state ≠ .ready ∧ f.state ≠ .paused then (.errorInvalidState, f)
  else
    match f.plugin with
    | none => (.errorNullPointer, f)
    | some p =>
        let (status, p) := DsoftbusInputPlugin.start p
        if status ≠ .ok then (.errorInvalidOperation, { f with plugin := some p })
        else (.success, { f with plugin := some p, state := .running })

/-- The plugin is stopped and deinitialized, and let go whatever its `Stop` says; before it
runs it is only deinitialized. -/
def stop : FilterStep DsoftbusPlugin := fun f =>
  match f.plugin with
  | none => (.errorNullPointer, f)
  | some p =>
      if f.state ≠ .running ∧ f.state ≠ .paused then
        (.success, { f with plugin := some (p.reset .input).2 })
      else (.success, { f with plugin := none, state := .ready })

def pause : FilterStep DsoftbusPlugin := fun f =>
  if f.state = .paused then (.success, f)
  else if f.state ≠ .ready ∧ f.state ≠ .running then (.errorInvalidState, f)
  else
    match f.plugin with
    | none => (.errorNullPointer, f)
    | some p =>
        match DsoftbusInputPlugin.pause p with
        | .ok => (.success, { f with state := .paused })
        | status => (.translated status, f)

def resume : FilterStep DsoftbusPlugin := fun f =>
  match f.plugin with
  | none => (.errorNullPointer, f)
  | some p =>
      match DsoftbusInputPlugin.resume p with
      | .ok => (.success, { f with state := .running })
      | status => (.translated status, f)

end AVInputFilter

inductive FilterCall
  | prepare (answers : PrepareAnswers)
  | start | stop | pause | resume

section States
variable (parse : String → Option CJson)

def FilterCall.run : FilterCall → FilterStep DsoftbusPlugin
  | .prepare answers => AVInputFilter.prepare (DsoftbusPlugin.ofKind parse .input) answers
  | .start => AVInputFilter.start
  | .stop => AVInputFilter.stop
  | .pause => AVInputFilter.pause
  | .resume => AVInputFilter.resume

/-- A filter is made, initialized, and given its parameters. -/
def inputFilterSystem : TransitionSystem DsoftbusInputFilter FilterCall where
  init := fun f => f.state = .initialized ∧ f.plugin = none ∧ f.pluginInfo = none
  step := fun f call => some (call.run parse f).2

end States

namespace TransFilter

/-- The plugin exists, has been started and has not been stopped since. -/
def Started (f : DsoftbusInputFilter) : Prop := ∃ p ∈ f.plugin, p.isrunning = true

/-- A running filter has a started plugin, and calls bring a paused filter to run with one. -/
structure InStep (parse : String → Option CJson) (f : DsoftbusInputFilter) : Prop where
  running : f.state = .running → f.Started
  paused : f.state = .paused → ∃ calls g,
    (inputFilterSystem parse).Path (fun _ _ => True) f calls g ∧ g.state = .running ∧ g.Started

/-- A filter is resumed with a started plugin, and paused before it runs with a prepared
one, where it has a plugin at all. -/
def KeepsInStep (f : DsoftbusInputFilter) : FilterCall → Prop
  | .resume => ∀ p ∈ f.plugin, p.state = .running
  | .pause => f.state = .ready → ∀ p ∈ f.plugin, p.state = .prepared
  | _ => True

end TransFilter

namespace DsoftbusPlugin

/-- Its thread runs while it is running, and is there from when it is prepared. -/
structure WellKept (p : DsoftbusPlugin) : Prop where
  isrunning : p.isrunning = true ↔ p.state = .running
  task : p.state = .prepared ∨ p.state = .running → p.bufferPopTask = true

/-- It is not running. -/
structure Idle (p : DsoftbusPlugin) : Prop extends WellKept p where
  idle : p.state ≠ .running

variable {parse : String → Option CJson} {p : DsoftbusPlugin}

theorem WellKept.reset (h : p.WellKept) : (p.reset .input).2.Idle := by
  have still : (p.reset .input).2.isrunning = false := by
    simp only [DsoftbusPlugin.reset, DsoftbusKind.serves, Bool.true_and]
    split
    · rfl
    · rename_i notask
      by_contra running
      exact notask (h.task (.inr (h.isrunning.mp (by simpa using running))))
  refine ⟨⟨?_, ?_⟩, ?_⟩
  · exact ⟨fun running => absurd (still.symm.trans running) Bool.false_ne_true,
      fun running => by cases running⟩
  · intro h
    cases h with
    | inl h => cases h
    | inr h => cases h
  · intro running
    cases running

variable (parse) in
theorem preserves_idle : (ofKind parse .input).Preserves Idle where
  create := fun _ => ⟨⟨by simp [ofKind], by simp [ofKind]⟩, by simp [ofKind]⟩
  init := by
    intro p h
    have still : p.isrunning ≠ true := fun running => h.idle (h.isrunning.mp running)
    exact ⟨⟨by simpa [ofKind, DsoftbusPlugin.init] using still,
      by simp [ofKind, DsoftbusPlugin.init]⟩, by simp [ofKind, DsoftbusPlugin.init]⟩
  prepare := by
    intro adapter p h
    have still : p.isrunning ≠ true := fun running => h.idle (h.isrunning.mp running)
    simp only [ofKind, DsoftbusPlugin.prepare]
    split
    · exact h
    · rename_i initialized
      have initialized := not_not.mp initialized
      split
      · exact ⟨⟨by simpa [initialized] using still, by simp [initialized]⟩, by simp [initialized]⟩
      · exact ⟨⟨by simpa [DsoftbusKind.asksAudio] using still, by simp [DsoftbusKind.asksAudio]⟩,
          by simp [DsoftbusKind.asksAudio]⟩
  reset := fun p h => h.toWellKept.reset
  setParameter := by
    intro tag value p h
    simp only [ofKind, DsoftbusPlugin.setParameter]
    split
    · exact ⟨⟨h.isrunning, h.task⟩, h.idle⟩
    · split <;> exact ⟨⟨h.isrunning, h.task⟩, h.idle⟩
    · split <;> exact ⟨⟨h.isrunning, h.task⟩, h.idle⟩
    · exact ⟨⟨h.isrunning, h.task⟩, h.idle⟩

end DsoftbusPlugin

open DsoftbusPlugin in
/-- What a call does to the filter. -/
inductive FilterMove (f : DsoftbusInputFilter) : FilterCall → DsoftbusInputFilter → Prop
  | without {call : FilterCall} : f.plugin = none → FilterMove f call f
  | refused {call : FilterCall} : call ≠ .resume → (call = .pause → f.state ≠ .ready) →
      FilterMove f call f
  | prepared {answers : PrepareAnswers} {g : DsoftbusInputFilter} : f.state = .initialized →
      g.state = .ready ∨ g.state = .initialized →
      ((∀ p ∈ f.plugin, p.Idle) → ∀ p ∈ g.plugin, p.Idle) → FilterMove f (.prepare answers) g
  | started {p : DsoftbusPlugin} : f.plugin = some p → p.state = .prepared →
      f.state = .ready ∨ f.state = .paused →
      FilterMove f .start
        { f with plugin := some { p with isrunning := true, state := .running }, state := .running }
  | deinitialized {p : DsoftbusPlugin} : f.plugin = some p →
      f.state ≠ .running ∧ f.state ≠ .paused →
      FilterMove f .stop { f with plugin := some (p.reset .input).2 }
  | stopped : f.state = .running ∨ f.state = .paused →
      FilterMove f .stop { f with plugin := none, state := .ready }
  | paused {p : DsoftbusPlugin} : f.plugin = some p → f.state = .ready ∨ f.state = .running →
      FilterMove f .pause { f with state := .paused }
  | resumed {p : DsoftbusPlugin} : f.plugin = some p →
      FilterMove f .resume { f with state := .running }

section Moves
variable (parse : String → Option CJson) (f : DsoftbusInputFilter)

theorem AVInputFilter.prepare_move (answers : PrepareAnswers) :
    FilterMove f (.prepare answers)
      (AVInputFilter.prepare (DsoftbusPlugin.ofKind parse .input) answers f).2 := by
  cases AVInputFilter.prepare_state (DsoftbusPlugin.ofKind parse .input) answers f with
  | inl refused =>
      rw [refused]
      exact .refused (by simp) (by simp)
  | inr done =>
      refine .prepared done.1 ?_ ?_
      · rw [done.2]
        split
        · exact .inl rfl
        · exact .inr rfl
      · intro idle
        have keeps := AVInputFilter.keeps_prepare (DsoftbusPlugin.preserves_idle parse)
          answers f ⟨rfl, idle⟩
        exact keeps.plugin

theorem AVInputFilter.start_move : FilterMove f .start (AVInputFilter.start f).2 := by
  unfold AVInputFilter.start
  split
  · exact .refused (by simp) (by simp)
  · rename_i allowed
    split
    · exact .refused (by simp) (by simp)
    · rename_i p hp
      by_cases prepared : p.state = .prepared
      · rw [DsoftbusInputPlugin.start_of_prepared prepared]
        exact .started hp prepared (by tauto)
      · have start : DsoftbusInputPlugin.start p = (.errorWrongState, p) := if_pos prepared
        have same : { f with plugin := some p } = f := by rw [← hp]
        rw [start]
        exact same.symm ▸ .refused (by simp) (by simp)

theorem AVInputFilter.stop_move : FilterMove f .stop (AVInputFilter.stop f).2 := by
  unfold AVInputFilter.stop
  split
  · rename_i hp
    exact .without hp
  · rename_i p hp
    split
    · rename_i early
      exact .deinitialized hp early
    · exact .stopped (by tauto)

theorem AVInputFilter.pause_move : FilterMove f .pause (AVInputFilter.pause f).2 := by
  unfold AVInputFilter.pause
  split
  · rename_i paused
    exact .refused (by simp) (by simp [paused])
  · split
    · rename_i refused
      exact .refused (by simp) (fun _ => refused.1)
    · split
      · rename_i hp
        exact .without hp
      · rename_i p hp
        exact .paused hp (by tauto)

theorem AVInputFilter.resume_move : FilterMove f .resume (AVInputFilter.resume f).2 := by
  unfold AVInputFilter.resume
  split
  · rename_i hp
    exact .without hp
  · rename_i p hp
    exact .resumed hp

theorem FilterCall.run_move (call : FilterCall) : FilterMove f call (call.run parse f).2 := by
  cases call with
  | prepare answers => exact AVInputFilter.prepare_move parse f answers
  | start => exact AVInputFilter.start_move f
  | stop => exact AVInputFilter.stop_move f
  | pause => exact AVInputFilter.pause_move f
  | resume => exact AVInputFilter.resume_move f

end Moves

/-- The plugin is well kept, and idle unless the filter runs or is paused. -/
structure FilterKept (f : DsoftbusInputFilter) : Prop where
  wellKept : ∀ p ∈ f.plugin, p.WellKept
  idle : f.state ≠ .running ∧ f.state ≠ .paused → ∀ p ∈ f.plugin, p.Idle

/-- The filter has lost its plugin, or a plugin that can still be started. -/
def FilterStuck (f : DsoftbusInputFilter) : Prop :=
  f.state = .ready ∧ f.plugin = none ∨
    (f.state = .running ∨ f.state = .paused) ∧
      ∃ p ∈ f.plugin, p.isrunning ≠ true ∧ p.state ≠ .prepared

section
variable {parse : String → Option CJson} {f g : DsoftbusInputFilter} {call : FilterCall}

theorem FilterKept.move (h : FilterKept f) (move : FilterMove f call g) : FilterKept g := by
  cases move with
  | without | refused => exact h
  | prepared initialized _ idle =>
      have idle := idle (h.idle (by simp [initialized]))
      exact ⟨fun p hp => (idle p hp).toWellKept, fun _ => idle⟩
  | started hp prepared _ =>
      have task := (h.wellKept _ hp).task (.inl prepared)
      refine ⟨?_, fun states => absurd rfl states.1⟩
      intro p hp
      cases hp
      exact ⟨by simp, fun _ => task⟩
  | deinitialized hp early =>
      have idle := (h.wellKept _ hp).reset
      refine ⟨?_, fun _ => ?_⟩
      · intro p hp
        cases hp
        exact idle.toWellKept
      · intro p hp
        cases hp
        exact idle
  | stopped => exact ⟨by simp, by simp⟩
  | paused hp _ => exact ⟨h.wellKept, fun states => absurd rfl states.2⟩
  | resumed hp => exact ⟨h.wellKept, fun states => absurd rfl states.1⟩

theorem FilterStuck.move (h : FilterStuck f) (move : FilterMove f call g) : FilterStuck g := by
  cases h with
  | inl gone =>
      cases move with
      | without | refused => exact .inl gone
      | prepared initialized => simp [gone.1] at initialized
      | started hp | deinitialized hp | paused hp | resumed hp => simp [gone.2] at hp
      | stopped states => simp [gone.1] at states
  | inr broken =>
      obtain ⟨states, p, hp, still, unprepared⟩ := broken
      cases move with
      | without | refused => exact .inr ⟨states, p, hp, still, unprepared⟩
      | prepared initialized => simp [initialized] at states
      | started hp' prepared =>
          cases hp.symm.trans hp'
          exact absurd prepared unprepared
      | deinitialized _ early => exact absurd states (by tauto)
      | stopped => exact .inl ⟨rfl, rfl⟩
      | paused => exact .inr ⟨.inr rfl, p, hp, still, unprepared⟩
      | resumed => exact .inr ⟨.inl rfl, p, hp, still, unprepared⟩

/-- A stuck filter does not run with a started plugin, whatever is called. -/
theorem FilterStuck.not_started (stuck : FilterStuck f) : ¬ (f.state = .running ∧ f.Started) := by
  rintro ⟨running, p, hp, started⟩
  cases stuck with
  | inl gone => simp [gone.2] at hp
  | inr broken =>
      obtain ⟨_, q, hq, still, _⟩ := broken
      cases hq.symm.trans hp
      exact still started

theorem FilterStuck.of_path {calls : List FilterCall} (stuck : FilterStuck f)
    (path : (inputFilterSystem parse).Path (fun _ _ => True) f calls g) : FilterStuck g := by
  induction path with
  | nil => exact stuck
  | @cons f g _ call _ _ hs _ ih =>
      cases hs
      exact ih (stuck.move (call.run_move parse f))

namespace TransFilter

theorem inStep_of_state (early : f.state ≠ .running ∧ f.state ≠ .paused) : f.InStep parse :=
  ⟨fun running => absurd running early.1, fun paused => absurd paused early.2⟩

theorem inStep_of_started (running : f.state = .running) (started : f.Started) :
    f.InStep parse :=
  ⟨fun _ => started, fun paused => by simp [running] at paused⟩

/-- A paused filter is started again by `Start` where its plugin is prepared, by `Resume`
where it runs. -/
theorem inStep_of_paused {p : DsoftbusPlugin} (paused : f.state = .paused) (hp : f.plugin = some p)
    (startable : p.state = .prepared ∨ p.isrunning = true) : f.InStep parse := by
  refine ⟨fun running => by simp [paused] at running, fun _ => ?_⟩
  cases startable with
  | inl prepared =>
      refine ⟨[.start], (FilterCall.start.run parse f).2, .cons trivial rfl (.nil _), ?_⟩
      have start := DsoftbusInputPlugin.start_of_prepared prepared
      simp [FilterCall.run, AVInputFilter.start, paused, hp, start, Started]
  | inr started =>
      refine ⟨[.resume], (FilterCall.resume.run parse f).2, .cons trivial rfl (.nil _), ?_⟩
      simp [FilterCall.run, AVInputFilter.resume, DsoftbusInputPlugin.resume, hp, Started, started]

theorem inStep_move_iff (kept : FilterKept f) (good : f.InStep parse)
    (move : FilterMove f call g) : g.InStep parse ↔ f.KeepsInStep call := by
  cases move with
  | without hp =>
      refine iff_of_true good ?_
      cases call with
      | prepare | start | stop => trivial
      | pause => exact fun _ p hp' => by simp [hp] at hp'
      | resume => exact fun p hp' => by simp [hp] at hp'
  | refused unresumed unready =>
      refine iff_of_true good ?_
      cases call with
      | prepare | start | stop => trivial
      | pause => exact fun ready => absurd ready (unready rfl)
      | resume => exact absurd rfl unresumed
  | prepared _ states _ =>
      apply iff_of_true (inStep_of_state _) trivial
      cases states with
      | inl ready => simp [ready]
      | inr initialized => simp [initialized]
  | started => exact iff_of_true (inStep_of_started rfl ⟨_, rfl, rfl⟩) trivial
  | deinitialized _ early => exact iff_of_true (inStep_of_state early) trivial
  | stopped => exact iff_of_true (inStep_of_state ⟨by simp, by simp⟩) trivial
  | @paused p hp states =>
      cases states with
      | inl ready =>
          have idle := kept.idle (by simp [ready]) p hp
          have still : p.isrunning ≠ true := fun started => idle.idle (idle.isrunning.mp started)
          constructor
          · intro after _ q hq
            cases hp.symm.trans hq
            by_contra unprepared
            have stuck : FilterStuck { f with state := .paused } :=
              .inr ⟨.inr rfl, p, hp, still, unprepared⟩
            obtain ⟨calls, g, path, running⟩ := after.paused rfl
            exact (stuck.of_path path).not_started running
          · intro prepared
            exact inStep_of_paused rfl hp (.inl (prepared ready p hp))
      | inr running =>
          obtain ⟨q, hq, started⟩ := good.running running
          exact iff_of_true (inStep_of_paused rfl hq (.inr started))
            (fun ready => by simp [running] at ready)
  | @resumed p hp =>
      have isrunning := (kept.wellKept p hp).isrunning
      constructor
      · intro after q hq
        cases hp.symm.trans hq
        obtain ⟨r, hr, started⟩ := after.running rfl
        cases hp.symm.trans hr
        exact isrunning.mp started
      · intro running
        exact inStep_of_started rfl ⟨p, hp, isrunning.mpr (running p hp)⟩

end TransFilter

theorem FilterKept.of_reachable (reachable : (inputFilterSystem parse).Reachable f) :
    FilterKept f := by
  apply reachable.invariant (I := FilterKept)
  · rintro f ⟨_, noPlugin, _⟩
    exact ⟨by simp [noPlugin], by simp [noPlugin]⟩
  · intro f call g kept hs
    cases hs
    exact kept.move (call.run_move parse f)

/-- The states of filter and plugin agree along a run exactly where each call of it leaves
them in step. -/
theorem filter_runsIn_iff_keepsInStep {calls : List FilterCall} :
    (inputFilterSystem parse).RunIn (TransFilter.InStep parse) calls f ↔
      (inputFilterSystem parse).Run TransFilter.KeepsInStep calls f := by
  apply TransitionSystem.runIn_iff_run
  · rintro f ⟨initialized, _⟩
    exact TransFilter.inStep_of_state (by simp [initialized])
  · intro f call g reachable good hs
    cases hs
    exact TransFilter.inStep_move_iff (.of_reachable reachable) good (call.run_move parse f)

end

/-- A filter that can be prepared. -/
def newVideoInput : DsoftbusInputFilter where
  paramsMap
    | .mime => some (.string "video/avc")
    | .mediaType => some (.mediaType .video)
    | _ => none

def prepareVideo : FilterCall :=
  .prepare { candidates := [{ name := "AVTransDsoftbusInputPlugin_H264" }] }

/-- A filter that has been prepared can be resumed, and runs with a plugin that has not been
started; and it can be stopped and then paused, and is not brought back to run. -/
theorem exists_filter_out_of_step :
    (∃ f, (inputFilterSystem (fun _ => none)).Run (fun _ _ => True) [.resume, prepareVideo] f ∧
      f.state = .running ∧ ¬ f.Started) ∧
    ∃ f, (inputFilterSystem (fun _ => none)).Run (fun _ _ => True)
        [.pause, .stop, prepareVideo] f ∧
      f.state = .paused ∧ ¬ f.InStep (fun _ => none) := by
  have initial : (inputFilterSystem (fun _ => none)).init newVideoInput := ⟨rfl, rfl, rfl⟩
  constructor
  · refine ⟨_, .step (.step (.init initial) trivial rfl) trivial rfl, rfl, ?_⟩
    rintro ⟨p, hp, started⟩
    cases hp
    cases started
  · refine ⟨_, .step (.step (.step (.init initial) trivial rfl) trivial rfl) trivial rfl, rfl, ?_⟩
    intro inStep
    obtain ⟨calls, g, path, running⟩ := inStep.paused rfl
    apply (FilterStuck.of_path _ path).not_started running
    refine .inr ⟨.inr rfl, _, rfl, ?_, ?_⟩
    · intro started
      cases started
    · intro prepared
      cases prepared

end DistributedHardware
