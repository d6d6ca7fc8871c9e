import Mathlib.Tactic.Common
import DistributedHardware.Common.Ids
import DistributedHardware.Library.Transition

/-!
The life of a `DBAdapter`: how it opens its store, follows changes of it, and recovers
after the death of the KV service.

The answers of the KV service are chosen outside. A store that could not be opened may
still have left a handle.
-/

namespace DistributedHardware

def errDhFwkResourceKvStoragePointerNull : Int := -10401
def errDhFwkResourceRegisterDbFailed : Int := -10408
def errDhFwkResourceUnregisterDbFailed : Int := -10409

def maxInitRetryTimes : Nat := 20
def diedCheckMaxTimes : Nat := 300
def databaseDir : String := "/data/service/el1/public/database/"

def globalCapabilityId : String := "global_capability_info"
def globalVersionId : String := "global_version_info"
def globalMetaInfo : String := "global_meta_info"

inductive KvStatus
  | success | ipcError | storeMetaChanged | error
  deriving DecidableEq

inductive DataType
  | statics | dynamical
  deriving DecidableEq

structure CloudConfig where
  enableCloud : Bool
  autoSync : Bool
  deriving DecidableEq

/-- The options a store is opened with; `none` is the library's own default. The security
level, the area and the type of the store are the same for all. -/
structure KvOptions where
  createIfMissing : Bool
  encrypt : Bool
  autoSync : Bool
  isPublic : Option Bool
  baseDir : String
  dataType : Option DataType
  cloudConfig : Option CloudConfig
  deriving DecidableEq

/-- What `GetSingleKvStore` answers, and whether there is a handle afterwards. -/
structure OpenOutcome where
  status : KvStatus
  handle : Bool
  deriving DecidableEq

def OpenOutcome.Succeeds (o : OpenOutcome) : Prop := o.status = .success ∧ o.handle = true

instance (o : OpenOutcome) : Decidable o.Succeeds := inferInstanceAs (Decidable (_ ∧ _))

/-- The status of a call, and whether it took effect at the service. -/
structure CallOutcome where
  status : KvStatus
  done : Bool
  deriving DecidableEq

/-- The calls that subscribe, or end the subscription, to remote and to cloud changes. -/
structure ListenerCalls where
  remote : CallOutcome
  cloud : CallOutcome
  deriving DecidableEq

/-- The changes that the service reports to `dataChangeListener_`. -/
structure Subscriptions where
  remote : Bool := false
  cloud : Bool := false
  deriving DecidableEq

inductive DbRecoverEvent
  | capabilityInfo | versionInfo | metaInfo
  deriving DecidableEq

/-- A handle is the options that its store was opened with. -/
structure DBAdapter where
  appId : String
  storeId : String
  isAutoSync : Bool := false
  dataType : DataType := .dynamical
  kvStoragePtr : Option KvOptions := none
  deriving DecidableEq

/-- The adapter, and what the KV service and the event handlers hold for it. -/
structure DbState where
  adapter : DBAdapter
  subscriptions : Subscriptions := {}
  deathRecipient : Bool := false
  /-- The calls of `DeleteKvStore` on a store whose metadata changed. -/
  rebuilt : Nat := 0
  /-- The calls of `SyncDBForRecover`. -/
  synced : Nat := 0
  events : List DbRecoverEvent := []
  deriving DecidableEq

namespace DBAdapter

def sharedOptions (appId : String) (isAutoSync : Bool) (dataType : DataType) : KvOptions where
  createIfMissing := true
  encrypt := false
  autoSync := isAutoSync
  isPublic := some true
  baseDir := databaseDir ++ appId
  dataType := some dataType
  cloudConfig :=
    match dataType with
    | .dynamical => some ⟨false, false⟩
    | .statics => some ⟨true, true⟩

def localOptions (appId : String) : KvOptions where
  createIfMissing := true
  encrypt := false
  autoSync := false
  isPublic := none
  baseDir := databaseDir ++ appId
  dataType := none
  cloudConfig := none

end DBAdapter

namespace DbState

def setPtr (s : DbState) (ptr : Option KvOptions) : DbState :=
  { s with adapter := { s.adapter with kvStoragePtr := ptr } }

def getSingleKvStore (options : KvOptions) (o : OpenOutcome) (s : DbState) : KvStatus × DbState :=
  (o.status, s.setPtr (if o.handle then some options else none))

def getKvStorePtr (isAutoSync : Bool) (dataType : DataType) (o : OpenOutcome) (s : DbState) :
    KvStatus × DbState :=
  s.getSingleKvStore (DBAdapter.sharedOptions s.adapter.appId isAutoSync dataType) o

def getLocalKvStorePtr (o : OpenOutcome) (s : DbState) : KvStatus × DbState :=
  s.getSingleKvStore (DBAdapter.localOptions s.adapter.appId) o

/-- Only `IPC_ERROR` keeps the second call from being made. -/
def registerChangeListener (calls : ListenerCalls) (s : DbState) : Int × DbState :=
  if s.adapter.kvStoragePtr = none then (errDhFwkResourceKvStoragePointerNull, s)
  else
    let s := { s with subscriptions :=
      { s.subscriptions with remote := s.subscriptions.remote || calls.remote.done } }
    if calls.remote.status = .ipcError then (errDhFwkResourceRegisterDbFailed, s)
    else
      let s := { s with subscriptions :=
        { s.subscriptions with cloud := s.subscriptions.cloud || calls.cloud.done } }
      if calls.cloud.status = .ipcError then (errDhFwkResourceRegisterDbFailed, s)
      else (dhFwkSuccess, s)

def unRegisterChangeListener (calls : ListenerCalls) (s : DbState) : Int × DbState :=
  if s.adapter.kvStoragePtr = none then (errDhFwkResourceKvStoragePointerNull, s)
  else
    let s := { s with subscriptions :=
      { s.subscriptions with remote := s.subscriptions.remote && !calls.remote.done } }
    if calls.remote.status = .ipcError then (errDhFwkResourceUnregisterDbFailed, s)
    else
      let s := { s with subscriptions :=
        { s.subscriptions with cloud := s.subscriptions.cloud && !calls.cloud.done } }
      if calls.cloud.status = .ipcError then (errDhFwkResourceUnregisterDbFailed, s)
      else (dhFwkSuccess, s)

def registerKvStoreDeathListener (s : DbState) : DbState := { s with deathRecipient := true }

def unRegisterKvStoreDeathListener (s : DbState) : DbState := { s with deathRecipient := false }

/-- The tries of `Init`; `tryTimes` of them are left. -/
def initTries (attempts : Nat → OpenOutcome) (calls : ListenerCalls) :
    Nat → DbState → Int × DbState
  | 0, s =>
      if s.adapter.kvStoragePtr = none then (errDhFwkResourceKvStoragePointerNull, s)
      else (dhFwkSuccess, s)
  | tryTimes + 1, s =>
      let (status, s) := s.getKvStorePtr s.adapter.isAutoSync s.adapter.dataType
        (attempts (maxInitRetryTimes - (tryTimes + 1)))
      if status = .success ∧ s.adapter.kvStoragePtr ≠ none then
        (dhFwkSuccess, (s.registerChangeListener calls).2.registerKvStoreDeathListener)
      else
        let s := if status = .storeMetaChanged then { s with rebuilt := s.rebuilt + 1 } else s
        initTries attempts calls tryTimes s

def init (isAutoSync : Bool) (dataType : DataType) (attempts : Nat → OpenOutcome)
    (calls : ListenerCalls) (s : DbState) : Int × DbState :=
  initTries attempts calls maxInitRetryTimes
    { s with adapter := { s.adapter with isAutoSync := isAutoSync, dataType := dataType } }

/-- The tries of `InitLocal`. -/
def initLocalTries (attempts : Nat → OpenOutcome) : Nat → DbState → Int × DbState
  | 0, s =>
      if s.adapter.kvStoragePtr = none then (errDhFwkResourceKvStoragePointerNull, s)
      else (dhFwkSuccess, s)
  | tryTimes + 1, s =>
      let (status, s) := s.getLocalKvStorePtr (attempts (maxInitRetryTimes - (tryTimes + 1)))
      if status = .success ∧ s.adapter.kvStoragePtr ≠ none then
        (dhFwkSuccess, s.registerKvStoreDeathListener)
      else initLocalTries attempts tryTimes s

def initLocal (attempts : Nat → OpenOutcome) (s : DbState) : Int × DbState :=
  initLocalTries attempts maxInitRetryTimes
    { s with adapter := { s.adapter with isAutoSync := false, dataType := .statics } }

def unInit (calls : ListenerCalls) (s : DbState) : DbState :=
  if s.adapter.kvStoragePtr = none then s
  else
    let s := s.unRegisterKvStoreDeathListener
    let s := if s.adapter.isAutoSync then (s.unRegisterChangeListener calls).2 else s
    s.setPtr none

/-- The old handle goes before the new one is asked for. -/
def reInit (isAutoSync : Bool) (o : OpenOutcome) (s : DbState) : Int × DbState :=
  if s.adapter.kvStoragePtr = none then (errDhFwkResourceKvStoragePointerNull, s)
  else
    let s := s.setPtr none
    let (status, s) :=
      if s.adapter.isAutoSync then s.getKvStorePtr isAutoSync s.adapter.dataType o
      else s.getLocalKvStorePtr o
    if status ≠ .success ∨ s.adapter.kvStoragePtr = none then
      (errDhFwkResourceKvStorageOperationFail, s)
    else (dhFwkSuccess, s.registerKvStoreDeathListener)

def recoverEvents (storeId : String) : List DbRecoverEvent :=
  (if storeId = globalCapabilityId then [.capabilityInfo] else []) ++
    (if storeId = globalVersionId then [.versionInfo] else []) ++
    (if storeId = globalMetaInfo then [.metaInfo] else [])

def syncDBForRecover (s : DbState) : DbState :=
  { s with synced := s.synced + 1, events := s.events ++ recoverEvents s.adapter.storeId }

def dbDiedOpt (o : OpenOutcome) (calls : ListenerCalls) (times : Nat) (s : DbState) :
    Bool × Nat × DbState :=
  let (ret, s) := s.reInit s.adapter.isAutoSync o
  if ret = dhFwkSuccess then
    let s := if s.adapter.isAutoSync then (s.registerChangeListener calls).2 else s
    (true, times, s.syncDBForRecover)
  else (false, times + 1, s)

/-- The passes of the loop in `reInitTask`, of which at most `left` are to come. -/
def reInitPasses (attempts : Nat → OpenOutcome) (calls : ListenerCalls) :
    Nat → Nat → DbState → DbState
  | 0, _, s => s
  | left + 1, times, s =>
      match s.dbDiedOpt (attempts times) calls times with
      | (true, _, s) => s
      | (false, times, s) => reInitPasses attempts calls left times s

/-- The task that `OnRemoteDied` posts. The answer to the open of a pass is that of
`attempts` at the number of the failed passes before it. -/
def reInitTask (attempts : Nat → OpenOutcome) (calls : ListenerCalls) (s : DbState) : DbState :=
  reInitPasses attempts calls diedCheckMaxTimes 0 s

@[simp]
theorem setPtr_kvStoragePtr (s : DbState) (p : Option KvOptions) :
    (s.setPtr p).adapter.kvStoragePtr = p := rfl

@[simp]
theorem setPtr_self (s : DbState) : s.setPtr s.adapter.kvStoragePtr = s := rfl

/-- The options that `ReInit` opens the store with. -/
def reopenOptions (adapter : DBAdapter) : KvOptions :=
  if adapter.isAutoSync then
    DBAdapter.sharedOptions adapter.appId adapter.isAutoSync adapter.dataType
  else DBAdapter.localOptions adapter.appId

/-- The subscriptions that `RegisterChangeListener` adds on a store that is open. -/
def granted (calls : ListenerCalls) (old : Subscriptions) : Subscriptions where
  remote := old.remote || calls.remote.done
  cloud := old.cloud || (decide (calls.remote.status ≠ .ipcError) && calls.cloud.done)

/-- The subscriptions that `UnRegisterChangeListener` leaves. -/
def remaining (calls : ListenerCalls) (old : Subscriptions) : Subscriptions where
  remote := old.remote && !calls.remote.done
  cloud := old.cloud && !(decide (calls.remote.status ≠ .ipcError) && calls.cloud.done)

theorem registerChangeListener_open {s : DbState} (calls : ListenerCalls)
    (isOpen : s.adapter.kvStoragePtr ≠ none) :
    (s.registerChangeListener calls).2 =
      { s with subscriptions := granted calls s.subscriptions } := by
  simp only [registerChangeListener, if_neg isOpen]
  by_cases hremote : calls.remote.status = .ipcError
  · simp [hremote, granted]
  · rw [if_neg hremote]
    split <;> simp [hremote, granted]

theorem unRegisterChangeListener_open {s : DbState} (calls : ListenerCalls)
    (isOpen : s.adapter.kvStoragePtr ≠ none) :
    (s.unRegisterChangeListener calls).2 =
      { s with subscriptions := remaining calls s.subscriptions } := by
  simp only [unRegisterChangeListener, if_neg isOpen]
  by_cases hremote : calls.remote.status = .ipcError
  · simp [hremote, remaining]
  · rw [if_neg hremote]
    split <;> simp [hremote, remaining]

/-- What a pass that succeeds makes of a state. -/
def recovered (calls : ListenerCalls) (s : DbState) : DbState :=
  { s with
    adapter := { s.adapter with kvStoragePtr := some (reopenOptions s.adapter) }
    deathRecipient := true
    subscriptions :=
      if s.adapter.isAutoSync then granted calls s.subscriptions else s.subscriptions
    synced := s.synced + 1
    events := s.events ++ recoverEvents s.adapter.storeId }

theorem recovered_setPtr (calls : ListenerCalls) (s : DbState) (p : Option KvOptions) :
    (s.setPtr p).recovered calls = s.recovered calls := rfl

/-- The handle after an attempt of `ReInit` whose answer is `o`. -/
def reopened (o : OpenOutcome) (adapter : DBAdapter) : Option KvOptions :=
  if adapter.kvStoragePtr = none then none
  else if o.handle then some (reopenOptions adapter) else none

theorem reInit_succeeds {s : DbState} {o : OpenOutcome} (isOpen : s.adapter.kvStoragePtr ≠ none)
    (ho : o.Succeeds) :
    s.reInit s.adapter.isAutoSync o =
      (dhFwkSuccess,
        (s.setPtr (some (reopenOptions s.adapter))).registerKvStoreDeathListener) := by
  have hauto (p : Option KvOptions) : (s.setPtr p).adapter.isAutoSync = s.adapter.isAutoSync := rfl
  simp only [reInit, if_neg isOpen, hauto]
  cases hb : s.adapter.isAutoSync <;>
    simp [getKvStorePtr, getLocalKvStorePtr, getSingleKvStore, ho.1, ho.2, reopenOptions, hb] <;>
    rfl

theorem reInit_fails {s : DbState} {o : OpenOutcome}
    (failed : s.adapter.kvStoragePtr ≠ none → ¬ o.Succeeds) :
    (s.reInit s.adapter.isAutoSync o).1 ≠ dhFwkSuccess ∧
      (s.reInit s.adapter.isAutoSync o).2 = s.setPtr (reopened o s.adapter) := by
  by_cases isOpen : s.adapter.kvStoragePtr = none
  · simp only [reInit, if_pos isOpen, reopened]
    refine ⟨by decide, ?_⟩
    rw [← isOpen, setPtr_self]
  · have ho : ¬ (o.status = .success ∧ o.handle = true) := failed isOpen
    have hauto (p : Option KvOptions) :
        (s.setPtr p).adapter.isAutoSync = s.adapter.isAutoSync := rfl
    have value : s.reInit s.adapter.isAutoSync o =
        (errDhFwkResourceKvStorageOperationFail, s.setPtr (reopened o s.adapter)) := by
      simp only [reInit, if_neg isOpen, hauto, reopened]
      cases hh : o.handle <;> cases hb : s.adapter.isAutoSync <;>
        simp_all [getKvStorePtr, getLocalKvStorePtr, getSingleKvStore, reopenOptions] <;>
        rfl
    have differs : errDhFwkResourceKvStorageOperationFail ≠ dhFwkSuccess := by decide
    rw [value]
    exact ⟨differs, rfl⟩

theorem dbDiedOpt_succeeds {s : DbState} {o : OpenOutcome} (calls : ListenerCalls) (times : Nat)
    (isOpen : s.adapter.kvStoragePtr ≠ none) (ho : o.Succeeds) :
    s.dbDiedOpt o calls times = (true, times, s.recovered calls) := by
  have still (p : Option KvOptions) :
      (s.setPtr p).registerKvStoreDeathListener.adapter.isAutoSync = s.adapter.isAutoSync := rfl
  simp only [dbDiedOpt, reInit_succeeds isOpen ho, if_true, still]
  cases hb : s.adapter.isAutoSync with
  | false => simp [recovered, hb, syncDBForRecover, registerKvStoreDeathListener, setPtr]
  | true =>
      rw [if_pos rfl, registerChangeListener_open calls (by simp [registerKvStoreDeathListener])]
      simp [recovered, hb, syncDBForRecover, registerKvStoreDeathListener, setPtr]

theorem dbDiedOpt_fails {s : DbState} {o : OpenOutcome} (calls : ListenerCalls) (times : Nat)
    (failed : s.adapter.kvStoragePtr ≠ none → ¬ o.Succeeds) :
    s.dbDiedOpt o calls times = (false, times + 1, s.setPtr (reopened o s.adapter)) := by
  simp only [dbDiedOpt, if_neg (reInit_fails failed).1, (reInit_fails failed).2]

/-- Some pass from `times` on is answered by a success, and every one before it leaves the
handle that the next one needs. -/
def PassSucceeds (attempts : Nat → OpenOutcome) (left times : Nat) (ptr : Option KvOptions) :
    Prop :=
  ptr ≠ none ∧ ∃ k, times ≤ k ∧ k < times + left ∧ (attempts k).Succeeds ∧
    ∀ j, times ≤ j → j < k → (attempts j).handle = true

theorem passSucceeds_of_succeeds {attempts : Nat → OpenOutcome} {left times : Nat}
    {ptr : Option KvOptions} (isOpen : ptr ≠ none) (h : (attempts times).Succeeds) :
    PassSucceeds attempts (left + 1) times ptr :=
  ⟨isOpen, times, Nat.le_refl _, by omega, h, fun j hj hlt => by omega⟩

theorem passSucceeds_succ {attempts : Nat → OpenOutcome} {left times : Nat} {adapter : DBAdapter}
    (h : adapter.kvStoragePtr ≠ none → ¬ (attempts times).Succeeds) :
    PassSucceeds attempts (left + 1) times adapter.kvStoragePtr ↔
      PassSucceeds attempts left (times + 1) (reopened (attempts times) adapter) := by
  constructor
  · rintro ⟨isOpen, k, hk, hlt, hs, before⟩
    have hne : k ≠ times := by
      intro he
      exact h isOpen (he ▸ hs)
    have kept := before times (Nat.le_refl _) (by omega)
    refine ⟨by simp [reopened, isOpen, kept], k, by omega, by omega, hs, ?_⟩
    intro j hj
    exact before j (by omega)
  · rintro ⟨isOpen, k, hk, hlt, hs, before⟩
    have kept : adapter.kvStoragePtr ≠ none ∧ (attempts times).handle = true := by
      by_cases hp : adapter.kvStoragePtr = none
      · simp [reopened, hp] at isOpen
      · by_cases hh : (attempts times).handle = true
        · exact ⟨hp, hh⟩
        · simp [reopened, hh] at isOpen
    refine ⟨kept.1, k, by omega, by omega, hs, ?_⟩
    intro j hj hjk
    by_cases he : j = times
    · exact he ▸ kept.2
    · exact before j (by omega) hjk

/-- The loop either recovers the adapter, or has changed nothing but the handle. -/
theorem reInitPasses_cases (attempts : Nat → OpenOutcome) (calls : ListenerCalls)
    (left times : Nat) (s : DbState) :
    (PassSucceeds attempts left times s.adapter.kvStoragePtr ∧
      reInitPasses attempts calls left times s = s.recovered calls) ∨
    (¬ PassSucceeds attempts left times s.adapter.kvStoragePtr ∧
      ∃ p, reInitPasses attempts calls left times s = s.setPtr p) := by
  induction left generalizing times s with
  | zero =>
      refine .inr ⟨?_, s.adapter.kvStoragePtr, rfl⟩
      rintro ⟨-, k, hk, hlt, -⟩
      omega
  | succ left ih =>
      by_cases hs : s.adapter.kvStoragePtr ≠ none ∧ (attempts times).Succeeds
      · refine .inl ⟨passSucceeds_of_succeeds hs.1 hs.2, ?_⟩
        rw [reInitPasses, dbDiedOpt_succeeds calls times hs.1 hs.2]
      · have failed := not_and.mp hs
        rw [reInitPasses, dbDiedOpt_fails calls times failed, passSucceeds_succ failed]
        apply (ih (times + 1) (s.setPtr (reopened (attempts times) s.adapter))).imp
        · intro ⟨hp, he⟩
          exact ⟨hp, he.trans (recovered_setPtr ..)⟩
        · intro ⟨hp, p, he⟩
          exact ⟨hp, p, he⟩

/-- A recovery that ended with a handle and one `SyncDBForRecover`. -/
def Recovered (s t : DbState) : Prop :=
  t.adapter.kvStoragePtr ≠ none ∧ t.synced = s.synced + 1

instance (s t : DbState) : Decidable (Recovered s t) := inferInstanceAs (Decidable (_ ∧ _))

theorem reInitTask_recovered_iff (attempts : Nat → OpenOutcome) (calls : ListenerCalls)
    (s : DbState) :
    Recovered s (s.reInitTask attempts calls) ↔
      PassSucceeds attempts diedCheckMaxTimes 0 s.adapter.kvStoragePtr := by
  obtain ⟨hp, he⟩ | ⟨hp, p, he⟩ := reInitPasses_cases attempts calls diedCheckMaxTimes 0 s
  · rw [reInitTask, he]
    exact iff_of_true ⟨by simp [recovered], rfl⟩ hp
  · rw [reInitTask, he]
    refine iff_of_false ?_ hp
    intro h
    have synced : s.synced = s.synced + 1 := h.2
    omega

/-- The recovery task tells whether an attempt succeeds exactly where none does, or the task
starts with a handle and none of the failures before a success loses it. -/
theorem reInitTask_retries_iff (attempts : Nat → OpenOutcome) (calls : ListenerCalls)
    (s : DbState) :
    (Recovered s (s.reInitTask attempts calls) ↔
        ∃ k < diedCheckMaxTimes, (attempts k).Succeeds) ↔
      (∀ k < diedCheckMaxTimes, ¬ (attempts k).Succeeds) ∨
        (s.adapter.kvStoragePtr ≠ none ∧ ∃ k < diedCheckMaxTimes, (attempts k).Succeeds ∧
          ∀ j < k, (attempts j).handle = true) := by
  have pass : PassSucceeds attempts diedCheckMaxTimes 0 s.adapter.kvStoragePtr ↔
      s.adapter.kvStoragePtr ≠ none ∧ ∃ k < diedCheckMaxTimes, (attempts k).Succeeds ∧
        ∀ j < k, (attempts j).handle = true := by
    simp [PassSucceeds]
  rw [reInitTask_recovered_iff, pass]
  constructor
  · intro h
    by_cases hs : ∃ k < diedCheckMaxTimes, (attempts k).Succeeds
    · exact .inr (h.mpr hs)
    · exact .inl (fun k hk hsucc => hs ⟨k, hk, hsucc⟩)
  · rintro (never | here)
    · refine iff_of_false ?_ ?_
      · rintro ⟨-, k, hk, hs, -⟩
        exact never k hk hs
      · rintro ⟨k, hk, hs⟩
        exact never k hk hs
    · refine iff_of_true here ?_
      obtain ⟨-, k, hk, hs, -⟩ := here
      exact ⟨k, hk, hs⟩

/-- An adapter of `CapabilityInfoManager` whose store is open. -/
def capabilityStore : DbState :=
  (DbState.init false .dynamical (fun _ => ⟨.success, true⟩)
    ⟨⟨.success, true⟩, ⟨.success, true⟩⟩
    { adapter := { appId := "dh", storeId := globalCapabilityId } }).2

/-- The service is not back at the first attempt: the second one is never made. -/
theorem reInitTask_second_attempt :
    ¬ (Recovered capabilityStore (capabilityStore.reInitTask
          (fun k => if k = 0 then ⟨.error, false⟩ else ⟨.success, true⟩)
          ⟨⟨.success, true⟩, ⟨.success, true⟩⟩) ↔
        ∃ k < diedCheckMaxTimes,
          ((fun k => if k = 0 then ⟨.error, false⟩ else ⟨.success, true⟩ :
            Nat → OpenOutcome) k).Succeeds) := by
  rw [reInitTask_recovered_iff]
  intro h
  obtain ⟨-, k, -, -, hs, before⟩ := h.mpr ⟨1, by decide, by decide⟩
  cases k with
  | zero => exact absurd hs (by decide)
  | succ k => exact absurd (before 0 (Nat.zero_le _) (Nat.succ_pos _)) (by decide)

end DbState

/-- How an adapter was initialised. -/
inductive DbMode
  | init (isAutoSync : Bool) (dataType : DataType)
  | initLocal
  deriving DecidableEq

namespace DbMode

def isAutoSync : DbMode → Bool
  | .init isAutoSync _ => isAutoSync
  | .initLocal => false

def dataType : DbMode → DataType
  | .init _ dataType => dataType
  | .initLocal => .statics

/-- The options of the store that an adapter so initialised works on. -/
def options (appId : String) : DbMode → KvOptions
  | .init isAutoSync dataType => DBAdapter.sharedOptions appId isAutoSync dataType
  | .initLocal => DBAdapter.localOptions appId

/-- The call that initialises. -/
def run (attempts : Nat → OpenOutcome) (calls : ListenerCalls) (s : DbState) :
    DbMode → Int × DbState
  | .init isAutoSync dataType => s.init isAutoSync dataType attempts calls
  | .initLocal => s.initLocal attempts

end DbMode

/-- What the last call on an adapter ended in. -/
inductive DbMoment
  | other | recovered | uninitialised
  deriving DecidableEq

/-- An adapter along its life; `mode` and `initial` say how it was initialised, and which
subscriptions it had then. -/
structure DbLife where
  state : DbState
  mode : Option DbMode := none
  initial : Subscriptions := {}
  /-- The recovery tasks that were posted and have not run. -/
  pending : Nat := 0
  moment : DbMoment := .other
  deriving DecidableEq

inductive DbAct
  | init (mode : DbMode) (attempts : Nat → OpenOutcome) (calls : ListenerCalls)
  /-- The KV service dies, and with it the subscriptions it kept. -/
  | died
  | recover (attempts : Nat → OpenOutcome) (calls : ListenerCalls)
  | unInit (calls : ListenerCalls)

namespace DbLife
open DbState

/-- An adapter is initialised once; its managers make a new one for the next time. -/
def step (s : DbLife) : DbAct → Option DbLife
  | .init mode attempts calls =>
      if s.mode ≠ none then none
      else
        let (ret, state) := mode.run attempts calls s.state
        if ret = dhFwkSuccess then
          some { s with
            state := state, mode := some mode, initial := state.subscriptions, moment := .other }
        else some { s with state := state, moment := .other }
  | .died =>
      some { s with
        state := { s.state with subscriptions := {} }
        pending := if s.state.deathRecipient then s.pending + 1 else s.pending
        moment := .other }
  | .recover attempts calls =>
      if s.pending = 0 then none
      else
        let state := s.state.reInitTask attempts calls
        some { s with
          state := state
          pending := s.pending - 1
          moment := if Recovered s.state state then .recovered else .other }
  | .unInit calls =>
      some { s with state := s.state.unInit calls, moment := .uninitialised }

/-- An adapter that was just constructed. -/
def Fresh (s : DbLife) : Prop :=
  ∃ appId storeId, s = { state := { adapter := { appId := appId, storeId := storeId } } }

def system : TransitionSystem DbLife DbAct where
  init := Fresh
  step := step

/-- A recovered adapter has the store and the subscriptions it had after its
initialisation, and one that `UnInit` has left has no subscription. -/
def Kept (s : DbLife) : Prop :=
  (s.moment = .recovered → ∀ mode ∈ s.mode,
    s.state.adapter.kvStoragePtr = some (mode.options s.state.adapter.appId) ∧
      s.state.subscriptions = s.initial) ∧
  (s.moment = .uninitialised → s.state.subscriptions = {})

/-- When a call keeps what the initialisation set up: a recovery that reopens a store
finds `isAutoSync` set, or the store initialised as a local one, and its subscriptions are
answered as the first were; `UnInit` has nothing to end, or works on a handle with
`isAutoSync` set and the service ends what is left. -/
def KeepsWhen (s : DbLife) : DbAct → Prop
  | .init .. => True
  | .died => True
  | .recover attempts calls =>
      PassSucceeds attempts diedCheckMaxTimes 0 s.state.adapter.kvStoragePtr →
        match s.mode with
        | none => True
        | some .initLocal => True
        | some (.init isAutoSync _) =>
            isAutoSync = true ∧ granted calls s.state.subscriptions = s.initial
  | .unInit calls =>
      s.state.subscriptions = {} ∨
        (s.state.adapter.kvStoragePtr ≠ none ∧ s.state.adapter.isAutoSync = true ∧
          remaining calls s.state.subscriptions = {})

/-- The same flag, type of data and application. -/
def SameAdapter (s t : DbState) : Prop :=
  t.adapter.appId = s.adapter.appId ∧ t.adapter.isAutoSync = s.adapter.isAutoSync ∧
    t.adapter.dataType = s.adapter.dataType

theorem sameAdapter_initTries (attempts : Nat → OpenOutcome) (calls : ListenerCalls)
    (tryTimes : Nat) (s : DbState) :
    SameAdapter s (initTries attempts calls tryTimes s).2 ∧
      ((initTries attempts calls tryTimes s).1 ≠ dhFwkSuccess →
        (initTries attempts calls tryTimes s).2.subscriptions = s.subscriptions ∧
          (initTries attempts calls tryTimes s).2.deathRecipient = s.deathRecipient) := by
  induction tryTimes generalizing s with
  | zero =>
      rw [initTries]
      split <;> exact ⟨⟨rfl, rfl, rfl⟩, fun _ => ⟨rfl, rfl⟩⟩
  | succ tryTimes ih =>
      simp only [initTries]
      split
      case isTrue opened =>
        rw [registerChangeListener_open calls opened.2]
        exact ⟨⟨rfl, rfl, rfl⟩, fun failed => absurd rfl failed⟩
      case isFalse => split <;> exact ih _

theorem sameAdapter_initLocalTries (attempts : Nat → OpenOutcome) (tryTimes : Nat)
    (s : DbState) :
    SameAdapter s (initLocalTries attempts tryTimes s).2 ∧
      (initLocalTries attempts tryTimes s).2.subscriptions = s.subscriptions ∧
      ((initLocalTries attempts tryTimes s).1 ≠ dhFwkSuccess →
        (initLocalTries attempts tryTimes s).2.deathRecipient = s.deathRecipient) := by
  induction tryTimes generalizing s with
  | zero =>
      rw [initLocalTries]
      split <;> exact ⟨⟨rfl, rfl, rfl⟩, rfl, fun _ => rfl⟩
  | succ tryTimes ih =>
      simp only [initLocalTries]
      split
      · exact ⟨⟨rfl, rfl, rfl⟩, rfl, fun failed => absurd rfl failed⟩
      · exact ih _

/-- An initialisation sets the flag and the type of data. One that fails subscribes to
nothing, and one of a local store never does. -/
theorem run_spec (mode : DbMode) (attempts : Nat → OpenOutcome) (calls : ListenerCalls)
    (s : DbState) :
    (mode.run attempts calls s).2.adapter.isAutoSync = mode.isAutoSync ∧
      (mode.run attempts calls s).2.adapter.dataType = mode.dataType ∧
      (mode = .initLocal → (mode.run attempts calls s).2.subscriptions = s.subscriptions) ∧
      ((mode.run attempts calls s).1 ≠ dhFwkSuccess →
        (mode.run attempts calls s).2.subscriptions = s.subscriptions ∧
          (mode.run attempts calls s).2.deathRecipient = s.deathRecipient) := by
  cases mode with
  | init isAutoSync dataType =>
      have h := sameAdapter_initTries attempts calls maxInitRetryTimes
        { s with adapter := { s.adapter with isAutoSync := isAutoSync, dataType := dataType } }
      refine ⟨h.1.2.1, h.1.2.2, ?_, h.2⟩
      intro hmode
      cases hmode
  | initLocal =>
      have h := sameAdapter_initLocalTries attempts maxInitRetryTimes
        { s with adapter := { s.adapter with isAutoSync := false, dataType := .statics } }
      exact ⟨h.1.2.1, h.1.2.2, fun _ => h.2.1, fun failed => ⟨h.2.1, h.2.2 failed⟩⟩

theorem sameAdapter_reInitTask (attempts : Nat → OpenOutcome) (calls : ListenerCalls)
    (s : DbState) : SameAdapter s (s.reInitTask attempts calls) := by
  obtain ⟨-, he⟩ | ⟨-, p, he⟩ := reInitPasses_cases attempts calls diedCheckMaxTimes 0 s <;>
    rw [reInitTask, he] <;> exact ⟨rfl, rfl, rfl⟩

theorem unInit_spec (calls : ListenerCalls) (s : DbState) :
    SameAdapter s (s.unInit calls) ∧
      (s.unInit calls).subscriptions =
        (if s.adapter.kvStoragePtr ≠ none ∧ s.adapter.isAutoSync = true then
          remaining calls s.subscriptions else s.subscriptions) ∧
      (s.deathRecipient = false → (s.unInit calls).deathRecipient = false) := by
  by_cases isOpen : s.adapter.kvStoragePtr = none
  · simp [unInit, isOpen, SameAdapter]
  · have auto : s.unRegisterKvStoreDeathListener.adapter.isAutoSync = s.adapter.isAutoSync := rfl
    simp only [unInit, if_neg isOpen, auto]
    cases hb : s.adapter.isAutoSync with
    | false => exact ⟨⟨rfl, hb.symm ▸ rfl, rfl⟩, by simp; rfl, fun _ => rfl⟩
    | true =>
        rw [if_pos rfl,
          unRegisterChangeListener_open (s := s.unRegisterKvStoreDeathListener) calls isOpen]
        exact ⟨⟨rfl, hb.symm ▸ rfl, rfl⟩, by simp [isOpen]; rfl, fun _ => rfl⟩

/-- What is known of an adapter at every moment of its life. -/
structure Sound (s : DbLife) : Prop where
  flags : ∀ mode, s.mode = some mode →
    s.state.adapter.isAutoSync = mode.isAutoSync ∧ s.state.adapter.dataType = mode.dataType
  localStore : s.mode = some .initLocal → s.state.subscriptions = {} ∧ s.initial = {}
  new : s.mode = none →
    s.state.subscriptions = {} ∧ s.state.deathRecipient = false ∧ s.pending = 0

@[simp]
theorem remaining_none (calls : ListenerCalls) : remaining calls {} = {} := by
  simp [remaining]

theorem sound_init {s : DbLife} (h : Fresh s) : Sound s := by
  obtain ⟨appId, storeId, rfl⟩ := h
  exact ⟨fun mode hm => by simp at hm, fun hm => by simp at hm, fun _ => ⟨rfl, rfl, rfl⟩⟩

theorem Sound.init {s t : DbLife} {mode : DbMode} {attempts : Nat → OpenOutcome}
    {calls : ListenerCalls} (h : Sound s) (hs : s.step (.init mode attempts calls) = some t) :
    Sound t := by
  obtain ⟨flag, data, localSubs, failed⟩ := run_spec mode attempts calls s.state
  simp only [step] at hs
  split at hs
  case isTrue => cases hs
  case isFalse new =>
    have none := not_not.mp new
    split at hs <;> cases hs
    · refine ⟨?_, ?_, ?_⟩
      · intro m hm
        cases hm
        exact ⟨flag, data⟩
      · intro hm
        cases hm
        have subs := (localSubs rfl).trans (h.new none).1
        exact ⟨subs, subs⟩
      · intro hm
        cases hm
    case isFalse hret =>
      refine ⟨?_, ?_, ?_⟩
      · intro m hm
        simp [none] at hm
      · intro hm
        simp [none] at hm
      · intro _
        exact ⟨(failed hret).1.trans (h.new none).1, (failed hret).2.trans (h.new none).2.1,
          (h.new none).2.2⟩

theorem Sound.recover {s t : DbLife} {attempts : Nat → OpenOutcome} {calls : ListenerCalls}
    (h : Sound s) (hs : s.step (.recover attempts calls) = some t) : Sound t := by
  obtain ⟨-, flag, data⟩ := sameAdapter_reInitTask attempts calls s.state
  simp only [step] at hs
  split at hs
  case isTrue => cases hs
  case isFalse waiting =>
    cases hs
    refine ⟨?_, ?_, ?_⟩
    · intro m hm
      exact ⟨flag.trans (h.flags m hm).1, data.trans (h.flags m hm).2⟩
    · intro hm
      refine ⟨?_, (h.localStore hm).2⟩
      have auto : s.state.adapter.isAutoSync = false := (h.flags _ hm).1
      obtain ⟨-, he⟩ | ⟨-, p, he⟩ :=
        reInitPasses_cases attempts calls diedCheckMaxTimes 0 s.state <;>
        change (reInitTask attempts calls s.state).subscriptions = _ <;>
        rw [reInitTask, he]
      · simp [recovered, auto, (h.localStore hm).1]
      · exact (h.localStore hm).1
    · intro hm
      exact absurd (h.new hm).2.2 waiting

theorem Sound.unInit {s : DbLife} (h : Sound s) (calls : ListenerCalls) :
    Sound { s with state := s.state.unInit calls, moment := .uninitialised } := by
  obtain ⟨⟨-, flag, data⟩, subs, recipient⟩ := unInit_spec calls s.state
  have still (he : s.state.subscriptions = {}) : (s.state.unInit calls).subscriptions = {} := by
    rw [subs, he]
    simp
  refine ⟨?_, ?_, ?_⟩
  · intro m hm
    exact ⟨flag.trans (h.flags m hm).1, data.trans (h.flags m hm).2⟩
  · intro hm
    exact ⟨still (h.localStore hm).1, (h.localStore hm).2⟩
  · intro hm
    obtain ⟨none, dead, pending⟩ := h.new hm
    exact ⟨still none, recipient dead, pending⟩

theorem sound_step {s t : DbLife} {a : DbAct} (h : Sound s) (hs : s.step a = some t) :
    Sound t := by
  cases a with
  | init mode attempts calls => exact h.init hs
  | died =>
      cases hs
      refine ⟨h.flags, fun hm => ⟨rfl, (h.localStore hm).2⟩, ?_⟩
      intro hm
      obtain ⟨-, recipient, pending⟩ := h.new hm
      exact ⟨rfl, recipient, by simp [recipient, pending]⟩
  | recover attempts calls => exact h.recover hs
  | unInit calls =>
      cases hs
      exact h.unInit calls

theorem reachable_sound {s : DbLife} (h : system.Reachable s) : Sound s :=
  h.invariant (fun _ => sound_init) (fun _ _ _ => sound_step)

theorem kept_of_other {s : DbLife} (h : s.moment = .other) : Kept s := by
  constructor <;> intro hm <;> rw [h] at hm <;> cases hm

/-- A store is reopened as it was opened if `isAutoSync` is set or it is a local one. -/
theorem reopenOptions_eq_iff {adapter : DBAdapter} {mode : DbMode}
    (auto : adapter.isAutoSync = mode.isAutoSync) (data : adapter.dataType = mode.dataType) :
    reopenOptions adapter = mode.options adapter.appId ↔
      mode = .initLocal ∨ mode.isAutoSync = true := by
  cases mode with
  | initLocal =>
      have hauto : adapter.isAutoSync = false := auto
      exact iff_of_true (by simp [reopenOptions, hauto, DbMode.options]) (.inl rfl)
  | init isAutoSync dataType =>
      have hauto : adapter.isAutoSync = isAutoSync := auto
      have hdata : adapter.dataType = dataType := data
      cases isAutoSync with
      | true =>
          exact iff_of_true (by simp [reopenOptions, hauto, hdata, DbMode.options]) (.inr rfl)
      | false =>
          refine iff_of_false ?_ ?_
          · intro he
            have isPublic := congrArg KvOptions.isPublic he
            simp [reopenOptions, hauto, DbMode.options, DBAdapter.localOptions,
              DBAdapter.sharedOptions] at isPublic
          · rintro (hm | hm) <;> cases hm

theorem kept_recovered_iff {s : DbLife} (h : Sound s) (calls : ListenerCalls) (pending : Nat) :
    Kept { s with state := s.state.recovered calls, pending := pending, moment := .recovered } ↔
      match s.mode with
      | none => True
      | some .initLocal => True
      | some (.init isAutoSync _) =>
          isAutoSync = true ∧ granted calls s.state.subscriptions = s.initial := by
  have kept : Kept { s with
        state := s.state.recovered calls, pending := pending, moment := .recovered } ↔
      ∀ mode, s.mode = some mode →
        reopenOptions s.state.adapter = mode.options s.state.adapter.appId ∧
          (if s.state.adapter.isAutoSync then granted calls s.state.subscriptions
            else s.state.subscriptions) = s.initial := by
    simp [Kept, recovered]
  rw [kept]
  cases hm : s.mode with
  | none => simp
  | some mode =>
      obtain ⟨auto, data⟩ := h.flags mode hm
      simp only [Option.some.injEq, forall_eq', reopenOptions_eq_iff auto data, auto]
      cases mode with
      | initLocal =>
          obtain ⟨subs, initial⟩ := h.localStore hm
          exact iff_of_true ⟨.inl rfl, by simp [DbMode.isAutoSync, subs, initial]⟩ trivial
      | init isAutoSync dataType => cases isAutoSync <;> simp [DbMode.isAutoSync]

/-- A step keeps what was set up exactly if its call meets the condition. -/
theorem kept_step_iff {s t : DbLife} {a : DbAct} (h : Sound s) (hs : s.step a = some t) :
    Kept t ↔ s.KeepsWhen a := by
  cases a with
  | init mode attempts calls =>
      refine iff_of_true (kept_of_other ?_) trivial
      simp only [step] at hs
      split at hs
      · cases hs
      · split at hs <;> cases hs <;> rfl
  | died =>
      cases hs
      exact iff_of_true (kept_of_other rfl) trivial
  | recover attempts calls =>
      simp only [step] at hs
      split at hs
      · cases hs
      · cases hs
        obtain ⟨hp, he⟩ | ⟨hp, p, he⟩ :=
          reInitPasses_cases attempts calls diedCheckMaxTimes 0 s.state
        · rw [if_pos ((reInitTask_recovered_iff attempts calls s.state).mpr hp), reInitTask, he,
            kept_recovered_iff h]
          exact ⟨fun kept _ => kept, fun kept => kept hp⟩
        · rw [if_neg (mt (reInitTask_recovered_iff attempts calls s.state).mp hp)]
          exact iff_of_true (kept_of_other rfl) (fun passes => absurd passes hp)
  | unInit calls =>
      obtain ⟨⟨-, flag, data⟩, subs, recipient⟩ := unInit_spec calls s.state
      cases hs
      have kept : Kept { s with state := s.state.unInit calls, moment := .uninitialised } ↔
          (s.state.unInit calls).subscriptions = {} := by
        simp [Kept]
      rw [kept, subs]
      by_cases called : s.state.adapter.kvStoragePtr ≠ none ∧ s.state.adapter.isAutoSync = true
      · rw [if_pos called]
        constructor
        · intro he
          exact .inr ⟨called.1, called.2, he⟩
        · rintro (he | ⟨-, -, he⟩)
          · rw [he]
            exact remaining_none calls
          · exact he
      · rw [if_neg called]
        constructor
        · exact .inl
        · rintro (he | ⟨isOpen, auto, -⟩)
          · exact he
          · exact absurd ⟨isOpen, auto⟩ called

theorem kept_fresh {s : DbLife} (h : Fresh s) : Kept s := by
  obtain ⟨appId, storeId, rfl⟩ := h
  exact kept_of_other rfl

/-- The adapters whose recoveries and `UnInit` keep what was set up, in every state of a
run, are those whose calls meet `KeepsWhen`. -/
theorem kept_run_iff {acts : List DbAct} {s : DbLife} :
    system.RunIn Kept acts s ↔ system.Run KeepsWhen acts s :=
  TransitionSystem.runIn_iff_run (fun _ => kept_fresh)
    (fun _ _ _ reachable _ hs => kept_step_iff (reachable_sound reachable) hs)

instance (s : DbLife) : Decidable (Kept s) := inferInstanceAs (Decidable (_ ∧ _))

/-- The service answers every open with a handle. -/
def opens : Nat → OpenOutcome := fun _ => ⟨.success, true⟩

/-- The service does what every call on the listener asks. -/
def listens : ListenerCalls := ⟨⟨.success, true⟩, ⟨.success, true⟩⟩

def newCapabilityStore : DbLife :=
  { state := { adapter := { appId := "dh", storeId := globalCapabilityId } } }

/-- An adapter set up as `CapabilityInfoManager` does comes back with a local store that
nobody follows, and leaves its subscriptions behind when it is not interrupted. -/
theorem init_false_not_kept :
    (∃ s, system.Reachable s ∧ s.moment = .recovered ∧ ¬ Kept s) ∧
      ∃ s, system.Reachable s ∧ s.moment = .uninitialised ∧ ¬ Kept s := by
  have initial : system.init newCapabilityStore := ⟨_, _, rfl⟩
  have reopened : ∃ s ∈ system.replay (fun _ _ => True) newCapabilityStore
      [.init (.init false .dynamical) opens listens, .died, .recover opens listens],
      s.moment = .recovered ∧ ¬ Kept s := by
    decide +kernel
  have left : ∃ s ∈ system.replay (fun _ _ => True) newCapabilityStore
      [.init (.init false .dynamical) opens listens, .unInit listens],
      s.moment = .uninitialised ∧ ¬ Kept s := by
    decide +kernel
  obtain ⟨s, hs, recovered⟩ := reopened
  obtain ⟨t, ht, ended⟩ := left
  exact ⟨⟨s, (TransitionSystem.run_of_replay initial hs).reachable, recovered⟩,
    t, (TransitionSystem.run_of_replay initial ht).reachable, ended⟩

end DbLife

end DistributedHardware
