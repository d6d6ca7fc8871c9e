import Mathlib.Data.Finset.Sort
import DistributedHardware.InnerKits.SaManager

/-!
The result of `RestoreListener`.

Both loops register what is cached, the publisher listeners topic by topic and then the
callbacks. Each remote call has an outcome of its own; where the proxy is gone by then, the
call goes through a null pointer.
-/

namespace DistributedHardware

/-- What is registered again: a listener under its topic, or a callback under its engine. -/
inductive RestoreEntry
  | listener (topic : DHTopic) (listener : Nat)
  | callback (engineId : Int) (callback : Option Nat)
  deriving DecidableEq

/-- Whether a proxy is there at the start, and what each remote call returns, where one is still
there. -/
structure RestoreAnswers where
  proxy : Bool
  outcome : RestoreEntry → Option Int

structure RestoreRun where
  ret : Int := dhFwkSuccess
  attempted : List RestoreEntry := []
  crashed : Bool := false

namespace DHFWKSAManager
variable (m : DHFWKSAManager) (answers : RestoreAnswers)

/-- `GetDHFWKProxy()->Register...`, and what the loop does with its result. -/
def attempt (update : Int → Int → Int) (run : RestoreRun) (entry : RestoreEntry) : RestoreRun :=
  if run.crashed then run
  else
    match answers.outcome entry with
    | none => { run with crashed := true }
    | some innerRet =>
        { run with ret := update run.ret innerRet, attempted := run.attempted ++ [entry] }

/-- The first loop asks whether the result so far is an error, not whether the call failed. -/
def listenerResult (ret innerRet : Int) : Int := if ret ≠ dhFwkSuccess then innerRet else ret

def callbackResult (ret innerRet : Int) : Int := if innerRet ≠ dhFwkSuccess then innerRet else ret

def restoreListener : RestoreRun :=
  if !answers.proxy then { ret := errDhFwkPointerIsNull }
  else
    let run := m.publisherListenersCache.entries.foldl (fun run entry =>
      (entry.2.sort (· ≤ ·)).foldl (fun run listener =>
        attempt answers listenerResult run (.listener entry.1 listener)) run) {}
    m.avTransControlCenterCbCache.entries.foldl (fun run entry =>
      attempt answers callbackResult run (.callback entry.1 entry.2)) run

def listenerEntries : List RestoreEntry :=
  m.publisherListenersCache.entries.flatMap (fun entry =>
    (entry.2.sort (· ≤ ·)).map (RestoreEntry.listener entry.1))

def callbackEntries : List RestoreEntry :=
  m.avTransControlCenterCbCache.entries.map (fun entry => .callback entry.1 entry.2)

/-- All that is cached. -/
def restoreEntries : List RestoreEntry := m.listenerEntries ++ m.callbackEntries

/-- The restore tries every entry, and returns success exactly if each was registered. -/
structure ReportsFailures : Prop where
  survives : (m.restoreListener answers).crashed = false
  attempted : (m.restoreListener answers).attempted = m.restoreEntries
  ret : (m.restoreListener answers).ret = dhFwkSuccess ↔
    ∀ entry ∈ m.restoreEntries, answers.outcome entry = some dhFwkSuccess

section Loop
variable {answers : RestoreAnswers} {update : Int → Int → Int} {run : RestoreRun}
variable {entries : List RestoreEntry}

theorem foldl_attempt_crashed :
    (entries.foldl (attempt answers update) run).crashed = false ↔
      run.crashed = false ∧ ∀ entry ∈ entries, (answers.outcome entry).isSome = true := by
  induction entries generalizing run with
  | nil => simp
  | cons entry entries ih =>
      rw [List.foldl_cons, ih, List.forall_mem_cons, ← and_assoc]
      refine and_congr_left' ?_
      unfold attempt
      cases crashed : run.crashed with
      | true => simp [crashed]
      | false =>
          cases outcome : answers.outcome entry with
          | none => simp
          | some innerRet => simp

/-- A step of a loop that goes on. -/
theorem attempt_of_some {entry : RestoreEntry} {innerRet : Int} (runs : run.crashed = false)
    (outcome : answers.outcome entry = some innerRet) :
    attempt answers update run entry =
      { run with ret := update run.ret innerRet, attempted := run.attempted ++ [entry] } := by
  unfold attempt
  rw [if_neg (by rw [runs]; exact Bool.false_ne_true), outcome]

theorem foldl_attempt_attempted (runs : run.crashed = false)
    (answered : ∀ entry ∈ entries, (answers.outcome entry).isSome = true) :
    (entries.foldl (attempt answers update) run).attempted = run.attempted ++ entries := by
  induction entries generalizing run with
  | nil => exact (List.append_nil _).symm
  | cons entry entries ih =>
      obtain ⟨here, later⟩ := List.forall_mem_cons.mp answered
      obtain ⟨innerRet, outcome⟩ := Option.isSome_iff_exists.mp here
      rw [List.foldl_cons, attempt_of_some runs outcome, ih (by exact runs) later,
        List.append_assoc, List.singleton_append]

/-- The first loop never gets an error, whatever the calls return. -/
theorem foldl_listenerResult (success : run.ret = dhFwkSuccess) :
    (entries.foldl (attempt answers listenerResult) run).ret = dhFwkSuccess := by
  induction entries generalizing run with
  | nil => exact success
  | cons entry entries ih =>
      rw [List.foldl_cons]
      apply ih
      unfold attempt
      split
      · exact success
      · split
        · exact success
        · exact (if_neg (fun error => error success)).trans success

/-- The second loop gets an error from each call that fails. -/
theorem foldl_callbackResult (runs : run.crashed = false)
    (answered : ∀ entry ∈ entries, (answers.outcome entry).isSome = true) :
    (entries.foldl (attempt answers callbackResult) run).ret = dhFwkSuccess ↔
      run.ret = dhFwkSuccess ∧ ∀ entry ∈ entries, answers.outcome entry = some dhFwkSuccess := by
  induction entries generalizing run with
  | nil => simp
  | cons entry entries ih =>
      obtain ⟨here, later⟩ := List.forall_mem_cons.mp answered
      obtain ⟨innerRet, outcome⟩ := Option.isSome_iff_exists.mp here
      have kept : callbackResult run.ret innerRet = dhFwkSuccess ↔
          run.ret = dhFwkSuccess ∧ innerRet = dhFwkSuccess := by
        unfold callbackResult
        by_cases success : innerRet = dhFwkSuccess
        · rw [if_neg (not_not_intro success), and_iff_left success]
        · rw [if_pos success]
          exact iff_of_false success (fun both => success both.2)
      rw [List.foldl_cons, attempt_of_some runs outcome, ih (by exact runs) later,
        List.forall_mem_cons, outcome, Option.some_inj, ← and_assoc]
      exact and_congr_left' kept

end Loop

section Restore
variable {m : DHFWKSAManager} {answers : RestoreAnswers}

theorem restoreListener_eq (proxy : answers.proxy = true) :
    m.restoreListener answers = m.callbackEntries.foldl (attempt answers callbackResult)
      (m.listenerEntries.foldl (attempt answers listenerResult) {}) := by
  unfold restoreListener callbackEntries listenerEntries
  rw [proxy, Bool.not_true, if_neg Bool.false_ne_true, List.foldl_map, List.foldl_flatMap]
  simp only [List.foldl_map]

theorem survives_iff (proxy : answers.proxy = true) :
    (m.restoreListener answers).crashed = false ↔
      ∀ entry ∈ m.restoreEntries, (answers.outcome entry).isSome = true := by
  rw [restoreListener_eq proxy, foldl_attempt_crashed, foldl_attempt_crashed, restoreEntries,
    List.forall_mem_append, and_iff_right rfl]

section Answered
variable (proxy : answers.proxy = true)
variable (answered : ∀ entry ∈ m.restoreEntries, (answers.outcome entry).isSome = true)
include proxy answered

theorem attempted_eq : (m.restoreListener answers).attempted = m.restoreEntries := by
  obtain ⟨listeners, callbacks⟩ := List.forall_mem_append.mp answered
  rw [restoreListener_eq proxy,
    foldl_attempt_attempted (foldl_attempt_crashed.mpr ⟨rfl, listeners⟩) callbacks,
    foldl_attempt_attempted rfl listeners, List.nil_append, restoreEntries]

/-- Only the callbacks count. -/
theorem ret_iff : (m.restoreListener answers).ret = dhFwkSuccess ↔
    ∀ entry ∈ m.callbackEntries, answers.outcome entry = some dhFwkSuccess := by
  obtain ⟨listeners, callbacks⟩ := List.forall_mem_append.mp answered
  rw [restoreListener_eq proxy,
    foldl_callbackResult (foldl_attempt_crashed.mpr ⟨rfl, listeners⟩) callbacks]
  exact and_iff_right (foldl_listenerResult rfl)

end Answered

theorem restoreListener_of_noProxy (noProxy : answers.proxy = false) :
    m.restoreListener answers = { ret := errDhFwkPointerIsNull } := by
  unfold restoreListener
  rw [noProxy, Bool.not_false, if_pos rfl]

/-- Without a proxy nothing is attempted and an error is returned, which an empty cache does not
allow either. -/
theorem proxy_of_reportsFailures (reports : m.ReportsFailures answers) :
    answers.proxy = true := by
  by_contra noProxy
  have early : m.restoreListener answers = _ :=
    restoreListener_of_noProxy (Bool.eq_false_of_not_eq_true noProxy)
  have attempted := reports.attempted
  have ret := reports.ret
  rw [early] at attempted ret
  rw [← attempted] at ret
  exact absurd (ret.mpr (fun _ mem => absurd mem List.not_mem_nil)) (by decide)

/-- Failures are reported where the proxy stays and where no listener's registration fails, or
else a callback's does, which stands in for it. -/
theorem reportsFailures_iff : m.ReportsFailures answers ↔
    answers.proxy = true ∧
    (∀ entry ∈ m.restoreEntries, (answers.outcome entry).isSome = true) ∧
    ((∀ entry ∈ m.listenerEntries, answers.outcome entry = some dhFwkSuccess) ∨
      ∃ entry ∈ m.callbackEntries, answers.outcome entry ≠ some dhFwkSuccess) := by
  constructor
  · intro reports
    have proxy := proxy_of_reportsFailures reports
    have answered := (survives_iff proxy).mp reports.survives
    refine ⟨proxy, answered, ?_⟩
    by_contra neither
    rw [not_or, not_exists] at neither
    have callbacks : ∀ entry ∈ m.callbackEntries, answers.outcome entry = some dhFwkSuccess :=
      fun entry mem => by_contra (fun failed => neither.2 entry ⟨mem, failed⟩)
    have all := reports.ret.mp ((ret_iff proxy answered).mpr callbacks)
    exact neither.1 (fun entry mem => all entry (List.mem_append_left _ mem))
  · intro ⟨proxy, answered, sound⟩
    refine ⟨(survives_iff proxy).mpr answered, attempted_eq proxy answered, ?_⟩
    rw [ret_iff proxy answered]
    unfold restoreEntries
    constructor
    · intro callbacks entry mem
      cases List.mem_append.mp mem with
      | inr mem => exact callbacks entry mem
      | inl mem =>
          cases sound with
          | inl listeners => exact listeners entry mem
          | inr failed =>
              obtain ⟨other, mem, failed⟩ := failed
              exact absurd (callbacks other mem) failed
    · intro all entry mem
      exact all entry (List.mem_append_right _ mem)

/-- A topic with one listener. -/
private def oneListener : DHFWKSAManager where
  publisherListenersCache := (∅ : Store DHTopic (Finset Nat)).set .devOffline {1}

/-- The service is there, and refuses. -/
private def refusing : RestoreAnswers where
  proxy := true
  outcome := fun _ => some errDhFwkServiceIpcSendRequestFail

/-- The only listener is not registered again, and success is returned. -/
theorem exists_failure_not_reported :
    (oneListener.restoreListener refusing).attempted = [.listener .devOffline 1] ∧
      (oneListener.restoreListener refusing).ret = dhFwkSuccess ∧
      ¬ oneListener.ReportsFailures refusing := by
  have cached : oneListener.restoreEntries = [.listener .devOffline 1] := by
    change (((({1} : Finset Nat).sort (· ≤ ·)).map (RestoreEntry.listener .devOffline)) ++ []) ++
      [] = _
    rw [Finset.sort_singleton]
    rfl
  have answered : ∀ entry ∈ oneListener.restoreEntries,
      (refusing.outcome entry).isSome = true := fun _ _ => rfl
  have ret : (oneListener.restoreListener refusing).ret = dhFwkSuccess :=
    (ret_iff rfl answered).mpr (fun _ mem => absurd mem List.not_mem_nil)
  refine ⟨(attempted_eq rfl answered).trans cached, ret, fun reports => ?_⟩
  have all := reports.ret.mp ret
  rw [cached] at all
  exact absurd (all _ (List.mem_singleton_self _)) (by decide)

end Restore
end DHFWKSAManager
end DistributedHardware
