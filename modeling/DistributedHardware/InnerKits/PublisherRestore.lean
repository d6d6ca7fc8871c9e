import DistributedHardware.Library.Transition
import DistributedHardware.InnerKits.SaManager

/-!
`RegisterPublisherListener` and `UnregisterPublisherListener` of `DistributedHardwareFwkKit`
while the service stops and starts.

Any number of threads run one call each. A locked section and a remote call are one step,
and a remote call succeeds while the service is up. The notices about the service arrive
in their order on a thread of their own, which runs `RestoreListener`; a service that
starts holds no listeners.
-/

namespace DistributedHardware

inductive ListenerOp
  | register | unregister
  deriving DecidableEq

structure ListenerCall where
  op : ListenerOp
  topic : DHTopic
  listener : Nat
  deriving DecidableEq

def ListenerCall.key (call : ListenerCall) : DHTopic × Nat := (call.topic, call.listener)

/-- What is left of a call; `ret` is the result of its remote call. -/
inductive KitPc
  | checkProxy
  | remote
  | updateCache (ret : Int)
  deriving DecidableEq

structure PublisherState where
  /-- The listeners that the service holds, while it is up. -/
  service : Option PublisherItems := none
  saManager : DHFWKSAManager := {}
  /-- The starts and stops that the client is yet to be told of. -/
  notices : List Bool := []
  /-- `RestoreListener` has found a proxy. -/
  restoring : Bool := false
  calls : Store Nat (ListenerCall × KitPc) := ∅
  /-- The listeners whose registration returned success, less those whose
  unregistration has since. -/
  registered : PublisherItems := ∅

inductive PublisherAct
  | call (thread : Nat) (call : ListenerCall)
  | next (thread : Nat)
  | serviceStart
  | serviceStop
  | notify
  | restoreListener

namespace PublisherState
variable (s : PublisherState)

/-- The call goes on at `pc`. -/
def goto (thread : Nat) (call : ListenerCall) (pc : KitPc) : PublisherState :=
  { s with calls := s.calls.set thread (call, pc) }

def getDHFWKProxy : Bool × PublisherState :=
  let got := s.saManager.getDHFWKProxy s.service.isSome
  (got.1, { s with saManager := got.2 })

/-- An invalid topic is refused at once. -/
def begin (thread : Nat) (call : ListenerCall) : PublisherState :=
  if isDHTopicValid call.topic then s.goto thread call .checkProxy else s

/-- Without a proxy only the cache is changed. -/
def checkProxy (thread : Nat) (call : ListenerCall) : PublisherState :=
  let (found, s) := s.getDHFWKProxy
  s.goto thread call (if found then .remote else .updateCache dhFwkSuccess)

/-- The remote call. A registration that fails returns. A proxy that is gone since it was
checked is a null pointer. -/
def remote (thread : Nat) (call : ListenerCall) : Option PublisherState :=
  let (found, s) := s.getDHFWKProxy
  if !found then none
  else
    match s.service, call.op with
    | some items, .register =>
        some ({ s with service := some (insert call.key items) }.goto thread call
          (.updateCache dhFwkSuccess))
    | some items, .unregister =>
        some ({ s with service := some (items.erase call.key) }.goto thread call
          (.updateCache dhFwkSuccess))
    | none, .register => some { s with calls := s.calls.erase thread }
    | none, .unregister =>
        some (s.goto thread call (.updateCache errDhFwkServiceIpcSendRequestFail))

/-- The update of the cache, with which the call returns. -/
def updateCache (thread : Nat) (call : ListenerCall) (ret : Int) : PublisherState :=
  match call.op with
  | .register =>
      let (ret, saManager) := s.saManager.addPublisherListenerToCache call.topic call.listener
      { s with
        saManager
        calls := s.calls.erase thread
        registered := if ret = dhFwkSuccess then insert call.key s.registered else s.registered }
  | .unregister =>
      { s with
        saManager := s.saManager.removePublisherListenerFromCache call.topic call.listener
        calls := s.calls.erase thread
        registered := if ret = dhFwkSuccess then s.registered.erase call.key else s.registered }

def next (thread : Nat) : Option PublisherState :=
  match s.calls.get thread with
  | none => none
  | some (call, .checkProxy) => some (s.checkProxy thread call)
  | some (call, .remote) => s.remote thread call
  | some (call, .updateCache ret) => some (s.updateCache thread call ret)

/-- `OnRemoveSystemAbility`, and `OnAddSystemAbility` up to the locked section of
`RestoreListener`. -/
def notify : Option PublisherState :=
  match s.notices with
  | [] => none
  | false :: notices =>
      some { s with notices, saManager := { s.saManager with dhfwkProxy := false } }
  | true :: notices =>
      let (found, s) := { s with notices }.getDHFWKProxy
      some { s with restoring := found }

/-- The remote calls of the restore fail when the service has stopped again. -/
def restoreListener : PublisherState :=
  { s with
    service := s.service.map s.saManager.restorePublisherListeners
    restoring := false }

/-- The thread of the notices handles one after the other. -/
def step : PublisherAct → Option PublisherState
  | .call thread call => if (s.calls.get thread).isSome then none else some (s.begin thread call)
  | .next thread => s.next thread
  | .serviceStart =>
      if s.service.isSome then none
      else some { s with service := some ∅, notices := s.notices ++ [true] }
  | .serviceStop =>
      if s.service.isSome then some { s with service := none, notices := s.notices ++ [false] }
      else none
  | .notify => if s.restoring then none else s.notify
  | .restoreListener => if s.restoring then some s.restoreListener else none

end PublisherState

def publisherSystem : TransitionSystem PublisherState PublisherAct where
  init := fun s => s = {}
  step := PublisherState.step

namespace PublisherState

/-- The service is up and its restore is behind it. -/
def restored (s : PublisherState) : Bool :=
  s.service.isSome && true ∉ s.notices && !s.restoring

theorem restored_iff {s : PublisherState} :
    s.restored ↔ s.service.isSome ∧ true ∉ s.notices ∧ s.restoring = false := by
  simp only [restored, Bool.and_eq_true, decide_eq_true_eq, Bool.not_eq_true', and_assoc]

def holds (s : PublisherState) (key : DHTopic × Nat) : Prop := key ∈ s.service.getD ∅

instance (s : PublisherState) (key : DHTopic × Nat) : Decidable (s.holds key) :=
  inferInstanceAs (Decidable (key ∈ s.service.getD ∅))

/-- With no call in progress and the service up, it holds what is registered, and so does
the cache. -/
def ListenersSurvive (s : PublisherState) : Prop :=
  (∀ thread, s.calls.get thread = none) → s.restored →
    ∀ key, (s.holds key ↔ key ∈ s.registered) ∧ (s.saManager.Caches key ↔ key ∈ s.registered)

/-- The cache takes no more listeners for the topic. -/
def full (s : PublisherState) (topic : DHTopic) : Bool :=
  maxListenerSize ≤ (s.saManager.cachedListeners topic).card

/-- What an update of the cache must find: a restored service holds the listener that is
added, and no service the one that is removed or refused. -/
def agreesWith (s : PublisherState) (call : ListenerCall) (ret : Int) : Bool :=
  match call.op with
  | .register =>
      if s.full call.topic then s.holds call.key → s.saManager.Caches call.key
      else s.restored → s.holds call.key
  | .unregister =>
      ¬ s.holds call.key ∧ (ret = dhFwkSuccess ∨ ¬ s.saManager.Caches call.key)

section Agrees
variable {s : PublisherState} {call : ListenerCall} {ret : Int}

theorem agreesWith_full (hop : call.op = .register) (hfull : s.full call.topic = true) :
    s.agreesWith call ret ↔ (s.holds call.key → s.saManager.Caches call.key) := by
  simp only [agreesWith, hop, hfull, if_true, decide_eq_true_eq]

theorem agreesWith_register (hop : call.op = .register) (room : s.full call.topic = false) :
    s.agreesWith call ret ↔ (s.restored → s.holds call.key) := by
  simp only [agreesWith, hop, room, Bool.false_eq_true, if_false, decide_eq_true_eq]

theorem agreesWith_unregister (hop : call.op = .unregister) :
    s.agreesWith call ret ↔
      ¬ s.holds call.key ∧ (ret = dhFwkSuccess ∨ ¬ s.saManager.Caches call.key) := by
  simp only [agreesWith, hop, decide_eq_true_eq]

end Agrees

/-- The update of the cache that a step makes. -/
def updateOf (s : PublisherState) : PublisherAct → Option (ListenerCall × Int)
  | .next thread =>
      match s.calls.get thread with
      | some (call, .updateCache ret) => some (call, ret)
      | _ => none
  | _ => none

/-- Each update of the cache agrees with the service. -/
def cacheAgrees (s : PublisherState) (a : PublisherAct) : Prop :=
  ∀ update ∈ s.updateOf a, s.agreesWith update.1 update.2

instance (s : PublisherState) (a : PublisherAct) : Decidable (s.cacheAgrees a) :=
  inferInstanceAs (Decidable (∀ update ∈ s.updateOf a, s.agreesWith update.1 update.2))

theorem cacheAgrees_update {s : PublisherState} {thread : Nat} {call : ListenerCall} {ret : Int}
    (hpc : s.calls.get thread = some (call, .updateCache ret)) :
    s.cacheAgrees (.next thread) ↔ s.agreesWith call ret := by
  simp [cacheAgrees, updateOf, hpc]

section UpdateCache
variable (s : PublisherState) (thread : Nat) (call : ListenerCall) (ret : Int)

@[simp] theorem updateCache_service : (s.updateCache thread call ret).service = s.service := by
  unfold updateCache
  split <;> rfl

@[simp] theorem updateCache_notices : (s.updateCache thread call ret).notices = s.notices := by
  unfold updateCache
  split <;> rfl

@[simp] theorem updateCache_restoring :
    (s.updateCache thread call ret).restoring = s.restoring := by
  unfold updateCache
  split <;> rfl

@[simp] theorem updateCache_calls :
    (s.updateCache thread call ret).calls = s.calls.erase thread := by
  unfold updateCache
  split <;> rfl

theorem updateCache_restored : (s.updateCache thread call ret).restored = s.restored := by
  simp [restored]

theorem updateCache_holds (key : DHTopic × Nat) :
    (s.updateCache thread call ret).holds key ↔ s.holds key := by
  simp [holds]

variable {s} {thread} {call} {ret} {key : DHTopic × Nat}

theorem full_eq_false {topic : DHTopic} :
    s.full topic = false ↔ (s.saManager.cachedListeners topic).card < maxListenerSize := by
  unfold full
  rw [decide_eq_false_iff_not, Nat.not_le]

theorem caches_of_register (hop : call.op = .register) :
    (s.updateCache thread call ret).saManager.Caches key ↔
      s.saManager.Caches key ∨ s.full call.topic = false ∧ key = call.key := by
  unfold updateCache
  rw [hop, full_eq_false]
  exact DHFWKSAManager.caches_add

theorem registered_of_register (hop : call.op = .register) :
    key ∈ (s.updateCache thread call ret).registered ↔
      key ∈ s.registered ∨ s.full call.topic = false ∧ key = call.key := by
  unfold updateCache
  rw [hop, full_eq_false]
  dsimp only
  split
  case isTrue added =>
    rw [Finset.mem_insert, or_comm]
    exact or_congr_right (and_iff_right (DHFWKSAManager.add_fst.mp added)).symm
  case isFalse refused =>
    refine (or_iff_left ?_).symm
    exact fun h => refused (DHFWKSAManager.add_fst.mpr h.1)

theorem caches_of_unregister (hop : call.op = .unregister) :
    (s.updateCache thread call ret).saManager.Caches key ↔
      s.saManager.Caches key ∧ key ≠ call.key := by
  unfold updateCache
  rw [hop]
  exact DHFWKSAManager.caches_remove

theorem registered_of_unregister (hop : call.op = .unregister) :
    key ∈ (s.updateCache thread call ret).registered ↔
      key ∈ s.registered ∧ (ret = dhFwkSuccess → key ≠ call.key) := by
  unfold updateCache
  rw [hop]
  dsimp only
  split
  case isTrue done =>
    rw [Finset.mem_erase, and_comm]
    exact and_congr_right' ⟨fun h _ => h, fun h => h done⟩
  case isFalse failed => exact (and_iff_left (fun done => absurd done failed)).symm

end UpdateCache

/-- A call has come to the update of the cache. -/
def updating (s : PublisherState) (op : ListenerOp) (key : DHTopic × Nat) : Prop :=
  ∃ thread call ret, s.calls.get thread = some (call, .updateCache ret) ∧ call.op = op ∧
    call.key = key

/-- The service and the cache differ by the calls that are about to update the cache. -/
structure CacheFollowsService (s : PublisherState) : Prop where
  missing : ∀ key, s.restored → s.saManager.Caches key → ¬ s.holds key →
    s.updating .unregister key
  extra : ∀ key, s.holds key → ¬ s.saManager.Caches key → s.updating .register key
  same : ∀ key, s.saManager.Caches key ↔ key ∈ s.registered

section Updating
variable {s t : PublisherState} {thread : Nat} {op : ListenerOp} {key : DHTopic × Nat}

/-- A step of a call that is not there yet leaves the calls at the update. -/
theorem updating_of_calls (before : ∀ call ret, s.calls.get thread ≠ some (call, .updateCache ret))
    (others : ∀ other, other ≠ thread → t.calls.get other = s.calls.get other)
    (h : s.updating op key) : t.updating op key := by
  obtain ⟨other, call, ret, hcall, hop, hkey⟩ := h
  have apart : other ≠ thread := by
    rintro rfl
    exact before call ret hcall
  exact ⟨other, call, ret, by rw [others other apart, hcall], hop, hkey⟩

/-- The end of a call leaves the others. -/
theorem updating_of_updateCache {call : ListenerCall} {ret : Int}
    (hpc : s.calls.get thread = some (call, .updateCache ret))
    (apart : ¬ (call.op = op ∧ call.key = key)) (h : s.updating op key) :
    (s.updateCache thread call ret).updating op key := by
  obtain ⟨other, call', ret', hcall, hop, hkey⟩ := h
  refine ⟨other, call', ret', ?_, hop, hkey⟩
  rw [updateCache_calls, Store.get_erase, if_neg, hcall]
  rintro rfl
  rw [hpc] at hcall
  cases hcall
  exact apart ⟨hop, hkey⟩

end Updating

namespace CacheFollowsService
variable {s t : PublisherState}

/-- A step that changes no more than who is at work, and the notices. -/
theorem of_same (h : s.CacheFollowsService)
    (cache : t.saManager.publisherListenersCache = s.saManager.publisherListenersCache)
    (registered : t.registered = s.registered) (holds : ∀ key, t.holds key → s.holds key)
    (restored : t.restored → s.restored ∧ ∀ key, s.holds key → t.holds key)
    (updating : ∀ op key, s.updating op key → t.updating op key) : t.CacheFollowsService := by
  have caches (key : DHTopic × Nat) : t.saManager.Caches key ↔ s.saManager.Caches key := by
    simp only [DHFWKSAManager.Caches, DHFWKSAManager.cachedListeners, cache]
  constructor
  case missing =>
    intro key hrestored hcaches hnot
    obtain ⟨before, kept⟩ := restored hrestored
    apply updating
    exact h.missing key before ((caches key).mp hcaches) (fun held => hnot (kept key held))
  case extra =>
    intro key held hnot
    apply updating
    exact h.extra key (holds key held) (fun hcaches => hnot ((caches key).mpr hcaches))
  case same =>
    intro key
    rw [caches, registered]
    exact h.same key

theorem register (h : s.CacheFollowsService) {thread : Nat} {call : ListenerCall} {ret : Int}
    (hpc : s.calls.get thread = some (call, .updateCache ret)) (hop : call.op = .register)
    (agrees : s.agreesWith call ret) : (s.updateCache thread call ret).CacheFollowsService := by
  constructor
  case missing =>
    intro key hrestored hcaches hnot
    rw [updateCache_restored] at hrestored
    rw [updateCache_holds] at hnot
    obtain cached | ⟨room, rfl⟩ := (caches_of_register hop).mp hcaches
    · apply updating_of_updateCache hpc
      · exact fun same => by cases hop.symm.trans same.1
      · exact h.missing key hrestored cached hnot
    · exact absurd ((agreesWith_register hop room).mp agrees hrestored) hnot
  case extra =>
    intro key held hnot
    rw [updateCache_holds] at held
    rw [caches_of_register hop, not_or, not_and] at hnot
    apply updating_of_updateCache hpc
    · rintro ⟨-, rfl⟩
      have full : s.full call.topic = true := by
        rw [← Bool.not_eq_false]
        exact fun room => hnot.2 room rfl
      exact hnot.1 ((agreesWith_full hop full).mp agrees held)
    · exact h.extra key held hnot.1
  case same =>
    intro key
    rw [caches_of_register hop, registered_of_register hop, h.same]

theorem unregister (h : s.CacheFollowsService) {thread : Nat} {call : ListenerCall} {ret : Int}
    (hpc : s.calls.get thread = some (call, .updateCache ret)) (hop : call.op = .unregister)
    (agrees : s.agreesWith call ret) : (s.updateCache thread call ret).CacheFollowsService := by
  obtain ⟨gone, done⟩ := (agreesWith_unregister hop).mp agrees
  constructor
  case missing =>
    intro key hrestored hcaches hnot
    rw [updateCache_restored] at hrestored
    rw [updateCache_holds] at hnot
    obtain ⟨cached, apart⟩ := (caches_of_unregister hop).mp hcaches
    apply updating_of_updateCache hpc
    · exact fun same => apart same.2.symm
    · exact h.missing key hrestored cached hnot
  case extra =>
    intro key held hnot
    rw [updateCache_holds] at held
    rw [caches_of_unregister hop, not_and, not_not] at hnot
    apply updating_of_updateCache hpc
    · exact fun same => by cases hop.symm.trans same.1
    · refine h.extra key held (fun cached => gone ?_)
      rwa [← hnot cached]
  case same =>
    intro key
    rw [caches_of_unregister hop, registered_of_unregister hop, h.same]
    apply and_congr_right
    intro mem
    obtain succeeded | absent := done
    · exact ⟨fun apart _ => apart, fun apart => apart succeeded⟩
    · have apart : key ≠ call.key := by
        rintro rfl
        exact absent ((h.same _).mpr mem)
      exact iff_of_true apart (fun _ => apart)

/-- No call of the thread is at the update of the cache. -/
def BeforeUpdate (s : PublisherState) (thread : Nat) : Prop :=
  ∀ call ret, s.calls.get thread ≠ some (call, .updateCache ret)

theorem goto (h : s.CacheFollowsService) {thread : Nat} (before : BeforeUpdate s thread)
    (call : ListenerCall) (pc : KitPc) : (s.goto thread call pc).CacheFollowsService := by
  apply h.of_same
  · rfl
  · rfl
  · exact fun _ held => held
  · exact fun restored => ⟨restored, fun _ held => held⟩
  · intro op key
    apply updating_of_calls before
    intro other apart
    simp [PublisherState.goto, apart]

theorem getDHFWKProxy (h : s.CacheFollowsService) :
    s.getDHFWKProxy.2.CacheFollowsService := by
  obtain ⟨proxy, heq⟩ := s.saManager.getDHFWKProxy_eq s.service.isSome
  simp only [PublisherState.getDHFWKProxy, heq]
  apply h.of_same
  · rfl
  · rfl
  · exact fun _ held => held
  · exact fun restored => ⟨restored, fun _ held => held⟩
  · exact fun _ _ updating => updating

section Remote
variable {thread : Nat} {call : ListenerCall} {items items' : PublisherItems} {ret : Int}

theorem holds_iff_of_up (up : s.service = some items) (key : DHTopic × Nat) :
    s.holds key ↔ key ∈ items := by
  unfold PublisherState.holds
  rw [up]
  rfl

/-- The remote call leaves the calls of other threads. -/
theorem updating_remote (before : BeforeUpdate s thread) {op : ListenerOp}
    {key : DHTopic × Nat} (h : s.updating op key) :
    ({ s with service := some items' }.goto thread call (.updateCache ret)).updating op key := by
  refine updating_of_calls before ?_ h
  intro other apart
  simp [PublisherState.goto, apart]

theorem restored_of_remote (up : s.service = some items)
    (h : ({ s with service := some items' }.goto thread call (.updateCache ret)).restored) :
    s.restored := by
  rw [restored_iff] at h ⊢
  exact ⟨by rw [up]; rfl, h.2⟩

/-- The remote call of a registration. -/
theorem remoteRegister (h : s.CacheFollowsService) (before : BeforeUpdate s thread)
    (up : s.service = some items) (hop : call.op = .register) (ret : Int) :
    ({ s with service := some (insert call.key items) }.goto thread call
      (.updateCache ret)).CacheFollowsService := by
  have holds := holds_iff_of_up up
  constructor
  case missing =>
    intro key hrestored hcaches hnot
    apply updating_remote before
    refine h.missing key (restored_of_remote up hrestored) hcaches (fun held => hnot ?_)
    exact Finset.mem_insert_of_mem ((holds key).mp held)
  case extra =>
    intro key held hnot
    obtain rfl | held := Finset.mem_insert.mp held
    · exact ⟨thread, call, ret, by simp [PublisherState.goto], hop, rfl⟩
    · exact updating_remote before (h.extra key ((holds key).mpr held) hnot)
  case same => exact h.same

/-- The remote call of an unregistration. -/
theorem remoteUnregister (h : s.CacheFollowsService) (before : BeforeUpdate s thread)
    (up : s.service = some items) (hop : call.op = .unregister) (ret : Int) :
    ({ s with service := some (items.erase call.key) }.goto thread call
      (.updateCache ret)).CacheFollowsService := by
  have holds := holds_iff_of_up up
  constructor
  case missing =>
    intro key hrestored hcaches hnot
    by_cases own : key = call.key
    · exact ⟨thread, call, ret, by simp [PublisherState.goto], hop, own.symm⟩
    · apply updating_remote before
      refine h.missing key (restored_of_remote up hrestored) hcaches (fun held => hnot ?_)
      exact Finset.mem_erase_of_ne_of_mem own ((holds key).mp held)
  case extra =>
    intro key held hnot
    have held := (holds key).mpr (Finset.mem_of_mem_erase held)
    exact updating_remote before (h.extra key held hnot)
  case same => exact h.same

end Remote

theorem remote (h : s.CacheFollowsService) {thread : Nat} {call : ListenerCall}
    (before : BeforeUpdate s thread) (hs : s.remote thread call = some t) :
    t.CacheFollowsService := by
  have follows := h.getDHFWKProxy
  have before : BeforeUpdate s.getDHFWKProxy.2 thread := before
  unfold PublisherState.remote at hs
  generalize s.getDHFWKProxy = got at hs follows before
  obtain ⟨found, s'⟩ := got
  dsimp only at hs follows before
  split at hs
  · cases hs
  · split at hs
    case h_1 up hop =>
      obtain rfl := Option.some.inj hs
      exact follows.remoteRegister before up hop dhFwkSuccess
    case h_2 up hop =>
      obtain rfl := Option.some.inj hs
      exact follows.remoteUnregister before up hop dhFwkSuccess
    case h_3 down hop =>
      obtain rfl := Option.some.inj hs
      apply follows.of_same
      · rfl
      · rfl
      · exact fun _ held => held
      · exact fun restored => ⟨restored, fun _ held => held⟩
      · intro op key
        apply updating_of_calls before
        intro other apart
        simp [apart]
    case h_4 down hop =>
      obtain rfl := Option.some.inj hs
      exact follows.goto before call _

/-- The restore adds the cached listeners to those of the service. -/
theorem restoreListener (h : s.CacheFollowsService) : s.restoreListener.CacheFollowsService := by
  constructor
  case missing =>
    intro key hrestored hcaches hnot
    cases hup : s.service with
    | none => simp [restored, PublisherState.restoreListener, hup] at hrestored
    | some items =>
        refine absurd ?_ hnot
        simp only [holds, PublisherState.restoreListener, hup, Option.map_some,
          Option.getD_some, DHFWKSAManager.mem_restore]
        exact .inr hcaches
  case extra =>
    intro key held hnot
    have before : s.holds key := by
      cases hup : s.service with
      | none => simp [holds, PublisherState.restoreListener, hup] at held
      | some items =>
          simp only [holds, PublisherState.restoreListener, hup, Option.map_some,
            Option.getD_some, DHFWKSAManager.mem_restore] at held
          obtain held | cached := held
          · simpa [holds, hup] using held
          · exact absurd cached hnot
    exact h.extra key before hnot
  case same => exact h.same

theorem notify (h : s.CacheFollowsService) (hs : s.notify = some t) : t.CacheFollowsService := by
  unfold PublisherState.notify at hs
  split at hs
  case h_1 => cases hs
  case h_2 notices hnotices =>
    obtain rfl := Option.some.inj hs
    apply h.of_same
    · rfl
    · rfl
    · exact fun _ held => held
    · intro hrestored
      refine ⟨?_, fun _ held => held⟩
      simpa [restored, hnotices] using hrestored
    · exact fun _ _ updating => updating
  case h_3 notices hnotices =>
    obtain ⟨proxy, heq⟩ := s.saManager.getDHFWKProxy_eq s.service.isSome
    obtain rfl := Option.some.inj hs
    simp only [heq]
    apply h.of_same
    · rfl
    · rfl
    · exact fun _ held => held
    · intro hrestored
      exfalso
      simp only [restored, Bool.and_eq_true] at hrestored
      rw [hrestored.1.1, DHFWKSAManager.getDHFWKProxy_online] at hrestored
      simp at hrestored
    · exact fun _ _ updating => updating

/-- A step whose update of the cache, if it is one, agrees with the service. -/
theorem step {a : PublisherAct} (h : s.CacheFollowsService) (agrees : s.cacheAgrees a)
    (hs : s.step a = some t) : t.CacheFollowsService := by
  cases a with
  | call thread call =>
      simp only [PublisherState.step] at hs
      split at hs
      case isTrue => cases hs
      case isFalse free =>
        have before : BeforeUpdate s thread := by
          intro call ret hcall
          rw [hcall] at free
          exact free rfl
        obtain rfl := Option.some.inj hs
        unfold PublisherState.begin
        split
        · exact h.goto before call .checkProxy
        · exact h
  | next thread =>
      simp only [PublisherState.step, PublisherState.next] at hs
      split at hs
      case h_1 => cases hs
      case h_2 call hpc =>
        have before : BeforeUpdate s thread := by simp [BeforeUpdate, hpc]
        obtain rfl := Option.some.inj hs
        exact h.getDHFWKProxy.goto before call _
      case h_3 call hpc =>
        have before : BeforeUpdate s thread := by simp [BeforeUpdate, hpc]
        exact h.remote before hs
      case h_4 call ret hpc =>
        have agrees := (cacheAgrees_update hpc).mp agrees
        obtain rfl := Option.some.inj hs
        cases hop : call.op with
        | register => exact h.register hpc hop agrees
        | unregister => exact h.unregister hpc hop agrees
  | serviceStart =>
      simp only [PublisherState.step] at hs
      split at hs
      · cases hs
      · obtain rfl := Option.some.inj hs
        apply h.of_same
        · rfl
        · rfl
        · intro key held
          simp [holds] at held
        · intro hrestored
          simp [restored] at hrestored
        · exact fun _ _ updating => updating
  | serviceStop =>
      simp only [PublisherState.step] at hs
      split at hs
      case isFalse => cases hs
      case isTrue =>
        obtain rfl := Option.some.inj hs
        apply h.of_same
        · rfl
        · rfl
        · intro key held
          simp [holds] at held
        · intro hrestored
          simp [restored] at hrestored
        · exact fun _ _ updating => updating
  | notify =>
      simp only [PublisherState.step] at hs
      split at hs
      · cases hs
      · exact h.notify hs
  | restoreListener =>
      simp only [PublisherState.step] at hs
      split at hs
      case isTrue =>
        obtain rfl := Option.some.inj hs
        exact h.restoreListener
      case isFalse => cases hs

theorem of_run {acts : List PublisherAct} (run : publisherSystem.Run cacheAgrees acts s) :
    s.CacheFollowsService := by
  apply run.invariant (I := fun _ => CacheFollowsService)
  · rintro _ rfl
    constructor
    case missing =>
      intro key hrestored
      simp [restored] at hrestored
    case extra =>
      intro key held
      simp [holds] at held
    case same =>
      intro key
      simp [DHFWKSAManager.Caches, DHFWKSAManager.cachedListeners]
  · exact fun _ _ _ _ _ h agrees hs => h.step agrees hs

theorem survive (h : s.CacheFollowsService) : s.ListenersSurvive := by
  intro idle hrestored key
  have none_updating (op : ListenerOp) : ¬ s.updating op key := by
    rintro ⟨thread, call, ret, hcall, -, -⟩
    rw [idle] at hcall
    cases hcall
  refine ⟨?_, h.same key⟩
  rw [← h.same]
  constructor
  · intro held
    by_contra hnot
    exact none_updating .register (h.extra key held hnot)
  · intro cached
    by_contra hnot
    exact none_updating .unregister (h.missing key hrestored cached hnot)

end CacheFollowsService

def Idle (s : PublisherState) : Prop := ∀ thread, s.calls.get thread = none

/-- What is left when the client has been told of all that happened to the service. -/
structure Settles (s t : PublisherState) : Prop where
  idle : t.Idle
  restored : t.restored
  caches : ∀ key, t.saManager.Caches key ↔ s.saManager.Caches key
  registered : t.registered = s.registered
  holds : ∀ key, s.holds key → t.holds key

section Settles
variable {s : PublisherState}

/-- A step that is not one of a call. -/
theorem path_cons {t r : PublisherState} {a : PublisherAct} {acts : List PublisherAct}
    (h : ∀ thread, a ≠ .next thread) (hs : s.step a = some t)
    (path : publisherSystem.Path cacheAgrees t acts r) :
    publisherSystem.Path cacheAgrees s (a :: acts) r :=
  have quiet : s.updateOf a = none := by
    cases a with
    | next thread => exact absurd rfl (h thread)
    | _ => rfl
  .cons (fun update hupdate => by simp [quiet] at hupdate) hs path

theorem holds_restoreListener {key : DHTopic × Nat} (held : s.holds key) :
    s.restoreListener.holds key := by
  unfold holds at held ⊢
  cases hup : s.service with
  | none => simp [hup] at held
  | some items =>
      rw [hup] at held
      simp only [restoreListener, hup, Option.map_some, Option.getD_some,
        DHFWKSAManager.mem_restore]
      exact .inl held

/-- The notices are handled one after the other, each start with its restore. -/
theorem exists_settles_of_notices (notices : List Bool) (hnotices : s.notices = notices)
    (idle : s.Idle) (up : s.service.isSome) (free : s.restoring = false) :
    ∃ acts t, publisherSystem.Path cacheAgrees s acts t ∧ s.Settles t := by
  induction notices generalizing s with
  | nil =>
      refine ⟨[], s, .nil s, idle, ?_, fun _ => Iff.rfl, rfl, fun _ held => held⟩
      rw [restored_iff, hnotices]
      exact ⟨up, List.not_mem_nil, free⟩
  | cons started notices ih =>
      cases started with
      | false =>
          let s₁ : PublisherState :=
            { s with notices, saManager := { s.saManager with dhfwkProxy := false } }
          have told : s.step .notify = some s₁ := by
            simp [PublisherState.step, free, PublisherState.notify, hnotices, s₁]
          obtain ⟨acts, t, path, settles⟩ := ih (s := s₁) rfl idle up free
          refine ⟨_, t, path_cons (by simp) told path, ?_⟩
          exact ⟨settles.idle, settles.restored, settles.caches, settles.registered,
            settles.holds⟩
      | true =>
          obtain ⟨proxy, heq⟩ := s.saManager.getDHFWKProxy_eq s.service.isSome
          let s₁ : PublisherState :=
            { s with
              notices, restoring := true
              saManager := { s.saManager with dhfwkProxy := proxy } }
          have told : s.step .notify = some s₁ := by
            have found : (s.saManager.getDHFWKProxy s.service.isSome).1 = true := by
              rw [up]
              exact DHFWKSAManager.getDHFWKProxy_online _
            simp [PublisherState.step, free, PublisherState.notify, hnotices,
              PublisherState.getDHFWKProxy, heq, found, s₁]
          have restore : s₁.step .restoreListener = some s₁.restoreListener := rfl
          have up₁ : s₁.restoreListener.service.isSome := by
            simpa [PublisherState.restoreListener, s₁] using up
          obtain ⟨acts, t, path, settles⟩ := ih (s := s₁.restoreListener) rfl idle up₁ rfl
          refine ⟨_, t, path_cons (by simp) told (path_cons (by simp) restore path), ?_⟩
          exact ⟨settles.idle, settles.restored, settles.caches, settles.registered,
            fun key held => settles.holds key (holds_restoreListener (s := s₁) held)⟩

theorem exists_settles (idle : s.Idle) (up : s.service.isSome) :
    ∃ acts t, publisherSystem.Path cacheAgrees s acts t ∧ s.Settles t := by
  cases hrestoring : s.restoring with
  | false => exact exists_settles_of_notices s.notices rfl idle up hrestoring
  | true =>
      have restore : s.step .restoreListener = some s.restoreListener := by
        simp [PublisherState.step, hrestoring]
      have up₁ : s.restoreListener.service.isSome := by
        simpa [PublisherState.restoreListener] using up
      obtain ⟨acts, t, path, settles⟩ :=
        exists_settles_of_notices (s := s.restoreListener) s.notices rfl idle up₁ rfl
      refine ⟨_, t, path_cons (by simp) restore path, ?_⟩
      exact ⟨settles.idle, settles.restored, settles.caches, settles.registered,
        fun key held => settles.holds key (holds_restoreListener held)⟩

/-- A listener that the service holds and the cache lost stays lost. -/
theorem not_survive_of_held {key : DHTopic × Nat} (idle : s.Idle) (held : s.holds key)
    (lost : ¬ s.saManager.Caches key) :
    ∃ acts t, publisherSystem.Path cacheAgrees s acts t ∧ ¬ t.ListenersSurvive := by
  have up : s.service.isSome := by
    cases hup : s.service with
    | none => simp [holds, hup] at held
    | some items => rfl
  obtain ⟨acts, t, path, settles⟩ := exists_settles idle up
  refine ⟨acts, t, path, fun survive => lost ?_⟩
  obtain ⟨service, cache⟩ := survive settles.idle settles.restored key
  rw [← settles.caches, cache, ← service]
  exact settles.holds key held

/-- So does a registered listener that the cache lost. -/
theorem not_survive_of_registered {key : DHTopic × Nat} (idle : s.Idle)
    (registered : key ∈ s.registered) (lost : ¬ s.saManager.Caches key) :
    ∃ acts t, publisherSystem.Path cacheAgrees s acts t ∧ ¬ t.ListenersSurvive := by
  have not_survive {r t : PublisherState} (settles : r.Settles t)
      (caches : ∀ key, r.saManager.Caches key ↔ s.saManager.Caches key)
      (same : r.registered = s.registered) : ¬ t.ListenersSurvive := by
    intro survive
    apply lost
    rw [← caches, ← settles.caches, (survive settles.idle settles.restored key).2,
      settles.registered, same]
    exact registered
  cases hup : s.service with
  | some items =>
      obtain ⟨acts, t, path, settles⟩ := exists_settles idle (by rw [hup]; rfl)
      exact ⟨acts, t, path, not_survive settles (fun _ => Iff.rfl) rfl⟩
  | none =>
      let s₁ : PublisherState := { s with service := some ∅, notices := s.notices ++ [true] }
      have start : s.step .serviceStart = some s₁ := by
        simp [PublisherState.step, hup, s₁]
      obtain ⟨acts, t, path, settles⟩ := exists_settles (s := s₁) idle rfl
      exact ⟨_, t, path_cons (by simp) start path,
        not_survive settles (fun _ => Iff.rfl) rfl⟩

/-- An update that does not agree with the service, with no other call in progress. -/
theorem not_survive_of_differs (h : s.CacheFollowsService) {thread : Nat} {call : ListenerCall}
    {ret : Int} (idle : (s.updateCache thread call ret).Idle) (differs : ¬ s.agreesWith call ret) :
    ∃ acts t, publisherSystem.Path cacheAgrees (s.updateCache thread call ret) acts t ∧
      ¬ t.ListenersSurvive := by
  cases hop : call.op with
  | register =>
      cases hfull : s.full call.topic with
      | true =>
          rw [agreesWith_full hop hfull, Classical.not_imp] at differs
          obtain ⟨held, absent⟩ := differs
          apply not_survive_of_held idle ((updateCache_holds s thread call ret _).mpr held)
          rw [caches_of_register hop, hfull]
          simpa using absent
      | false =>
          rw [agreesWith_register hop hfull, Classical.not_imp] at differs
          obtain ⟨hrestored, absent⟩ := differs
          refine ⟨[], _, .nil _, fun survive => absent ?_⟩
          have survive := survive idle ((updateCache_restored s thread call ret).trans hrestored)
            call.key
          rw [← updateCache_holds s thread call ret, survive.1, registered_of_register hop]
          exact .inr ⟨hfull, rfl⟩
  | unregister =>
      rw [agreesWith_unregister hop] at differs
      have lost : ¬ (s.updateCache thread call ret).saManager.Caches call.key := by
        rw [caches_of_unregister hop]
        simp
      by_cases held : s.holds call.key
      · exact not_survive_of_held idle ((updateCache_holds s thread call ret _).mpr held) lost
      · obtain ⟨failed, cached⟩ := not_or.mp (fun done => differs ⟨held, done⟩)
        refine not_survive_of_registered idle ?_ lost
        rw [registered_of_unregister hop]
        exact ⟨(h.same _).mp (not_not.mp cached), fun done => absurd done failed⟩

end Settles

end PublisherState
end DistributedHardware
