import Mathlib.Data.Fintype.Card
import DistributedHardware.AvTransport.ControlCenter

/-!
`DHFWKSAManager`, the client's side of the framework service.

The two caches keep what the client has registered, so that it can be registered again
with a service that was restarted. Pointers are addresses; that of a publisher listener
is not null.
-/

namespace DistributedHardware

def errDhFwkPointerIsNull : Int := -10005
def errDhFwkServiceIpcSendRequestFail : Int := -10801
def errDhFwkAvtransCallbackIsNull : Int := -10810
def errDhFwkPublishListenerOverSize : Int := -11101

def maxTopicSize : Nat := 128
def maxListenerSize : Nat := 256

inductive DHTopic
  | topicMin | startDscreen | sinkProjectWindowInfo | stopDscreen | devOffline | lowLatency
  | initDhmsReady | phyDevPlugin | isomerism | topicMax
  deriving DecidableEq

def DHTopic.toNat : DHTopic → Nat
  | topicMin => 0
  | startDscreen => 1
  | sinkProjectWindowInfo => 2
  | stopDscreen => 3
  | devOffline => 4
  | lowLatency => 5
  | initDhmsReady => 6
  | phyDevPlugin => 7
  | isomerism => 8
  | topicMax => 9

instance : Fintype DHTopic where
  elems :=
    { .topicMin, .startDscreen, .sinkProjectWindowInfo, .stopDscreen, .devOffline, .lowLatency,
      .initDhmsReady, .phyDevPlugin, .isomerism, .topicMax }
  complete topic := by cases topic <;> decide

def isDHTopicValid (topic : DHTopic) : Bool :=
  topic.toNat > DHTopic.topicMin.toNat && topic.toNat < DHTopic.topicMax.toNat

structure DHFWKSAManager where
  /-- `dhfwkProxy_` is not null. -/
  dhfwkProxy : Bool := false
  publisherListenersCache : Store DHTopic (Finset Nat) := ∅
  avTransControlCenterCbCache : Store Int (Option Nat) := ∅

/-- What `Publisher` holds: the listeners with their topics. -/
abbrev PublisherItems := Finset (DHTopic × Nat)

namespace DHFWKSAManager
variable (m : DHFWKSAManager)

/-- Without a proxy the service is looked up; `online` says whether it is there. -/
def getDHFWKProxy (online : Bool) : Bool × DHFWKSAManager :=
  if m.dhfwkProxy then (true, m)
  else if online then (true, { m with dhfwkProxy := true })
  else (false, m)

def cachedListeners (topic : DHTopic) : Finset Nat :=
  (m.publisherListenersCache.get topic).getD ∅

/-- `operator[]` leaves an entry for the topic behind. -/
def addPublisherListenerToCache (topic : DHTopic) (listener : Nat) : Int × DHFWKSAManager :=
  if maxTopicSize ≤ m.publisherListenersCache.keys.length then
    (errDhFwkPublishListenerOverSize, m)
  else
    let listeners := m.cachedListeners topic
    if maxListenerSize ≤ listeners.card then
      (errDhFwkPublishListenerOverSize,
        { m with publisherListenersCache := m.publisherListenersCache.set topic listeners })
    else
      (dhFwkSuccess,
        { m with
          publisherListenersCache :=
            m.publisherListenersCache.set topic (insert listener listeners) })

def removePublisherListenerFromCache (topic : DHTopic) (listener : Nat) : DHFWKSAManager :=
  { m with
    publisherListenersCache :=
      m.publisherListenersCache.set topic ((m.cachedListeners topic).erase listener) }

def addAVTransControlCenterCbToCache (engineId : Int) (callback : Option Nat) :
    DHFWKSAManager :=
  { m with avTransControlCenterCbCache := m.avTransControlCenterCbCache.set engineId callback }

def removeAVTransControlCenterCbFromCache (engineId : Int) : DHFWKSAManager :=
  { m with avTransControlCenterCbCache := m.avTransControlCenterCbCache.erase engineId }

/-- The section of `RestoreListener` about the publisher listeners. -/
def restorePublisherListeners (items : PublisherItems) : PublisherItems :=
  m.publisherListenersCache.keys.foldl
    (fun items topic => items ∪ (m.cachedListeners topic).image (fun l => (topic, l))) items

/-- `DistributedHardwareProxy::RegisterCtlCenterCallback` with the service behind it. -/
def remoteRegisterCtlCenterCallback (center : CenterState) (engineId : Int)
    (callback : Option Nat) : Int × CenterState :=
  if callback = none then (errDhFwkAvtransCallbackIsNull, center)
  else center.registerCtlCenterCallback engineId callback

/-- The section of `RestoreListener` about the callbacks, from the result so far on. -/
def restoreCtlCenterCallbacks (ret : Int) (center : CenterState) : Int × CenterState :=
  m.avTransControlCenterCbCache.entries.foldl
    (fun done entry =>
      let (innerRet, center) := remoteRegisterCtlCenterCallback done.2 entry.1 entry.2
      (if innerRet ≠ dhFwkSuccess then innerRet else done.1, center))
    (ret, center)

/-- The topic and the listener are in the cache. -/
def Caches (key : DHTopic × Nat) : Prop := key.2 ∈ m.cachedListeners key.1

instance (key : DHTopic × Nat) : Decidable (m.Caches key) :=
  inferInstanceAs (Decidable (key.2 ∈ m.cachedListeners key.1))

/-- What getting the proxy changes. -/
theorem getDHFWKProxy_eq (online : Bool) :
    ∃ proxy, (m.getDHFWKProxy online).2 = { m with dhfwkProxy := proxy } := by
  unfold getDHFWKProxy
  split
  · exact ⟨m.dhfwkProxy, rfl⟩
  · split
    · exact ⟨true, rfl⟩
    · exact ⟨m.dhfwkProxy, rfl⟩

theorem getDHFWKProxy_online : (m.getDHFWKProxy true).1 = true := by
  unfold getDHFWKProxy
  split <;> rfl

section Cache
variable {m : DHFWKSAManager} {key : DHTopic × Nat} {topic : DHTopic} {listener : Nat}

theorem caches_of_set {listeners : Finset Nat} :
    { m with publisherListenersCache := m.publisherListenersCache.set topic listeners }.Caches key ↔
      if key.1 = topic then key.2 ∈ listeners else m.Caches key := by
  unfold Caches cachedListeners
  rw [Store.get_set]
  split <;> rfl

theorem caches_remove : (m.removePublisherListenerFromCache topic listener).Caches key ↔
    m.Caches key ∧ key ≠ (topic, listener) := by
  obtain ⟨t, l⟩ := key
  unfold removePublisherListenerFromCache
  rw [caches_of_set]
  split
  case isTrue h =>
    obtain rfl : t = topic := h
    simp [Caches, and_comm]
  case isFalse h =>
    have apart : (t, l) ≠ (topic, listener) := fun e => h (congrArg Prod.fst e)
    simp [apart]

/-- There are fewer topics than the cache has room for. -/
theorem topics_lt : m.publisherListenersCache.keys.length < maxTopicSize := by
  have nodup : m.publisherListenersCache.keys.Nodup := AList.keys_nodup _
  have bound : m.publisherListenersCache.keys.length ≤ Fintype.card DHTopic :=
    nodup.length_le_card
  have card : Fintype.card DHTopic = 10 := rfl
  unfold maxTopicSize
  omega

theorem add_fst : (m.addPublisherListenerToCache topic listener).1 = dhFwkSuccess ↔
    (m.cachedListeners topic).card < maxListenerSize := by
  unfold addPublisherListenerToCache
  rw [if_neg (Nat.not_le.mpr topics_lt)]
  dsimp only
  split
  case isTrue full =>
    exact iff_of_false (by simp [errDhFwkPublishListenerOverSize, dhFwkSuccess])
      (Nat.not_lt.mpr full)
  case isFalse room =>
    exact iff_of_true rfl (Nat.not_le.mp room)

theorem caches_add : (m.addPublisherListenerToCache topic listener).2.Caches key ↔
    m.Caches key ∨ (m.cachedListeners topic).card < maxListenerSize ∧ key = (topic, listener) := by
  obtain ⟨t, l⟩ := key
  unfold addPublisherListenerToCache
  rw [if_neg (Nat.not_le.mpr topics_lt)]
  dsimp only
  split
  case isTrue full =>
    rw [caches_of_set]
    have full := Nat.not_lt.mpr full
    split
    case isTrue h =>
      obtain rfl : t = topic := h
      simp [Caches, full]
    case isFalse h => simp [full]
  case isFalse room =>
    rw [caches_of_set]
    have room := Nat.not_le.mp room
    split
    case isTrue h =>
      obtain rfl : t = topic := h
      simp [Caches, room, or_comm]
    case isFalse h =>
      have apart : (t, l) ≠ (topic, listener) := fun e => h (congrArg Prod.fst e)
      simp [apart]

/-- The restore adds what is cached. -/
theorem mem_restore {items : PublisherItems} :
    key ∈ m.restorePublisherListeners items ↔ key ∈ items ∨ m.Caches key := by
  have fold (topics : List DHTopic) (items : PublisherItems) :
      key ∈ topics.foldl
        (fun items topic => items ∪ (m.cachedListeners topic).image (fun l => (topic, l))) items ↔
      key ∈ items ∨ key.1 ∈ topics ∧ m.Caches key := by
    induction topics generalizing items with
    | nil => simp
    | cons topic topics ih =>
        rw [List.foldl_cons, ih, Finset.mem_union, List.mem_cons, or_assoc, or_and_right]
        have here : key ∈ (m.cachedListeners topic).image (fun l => (topic, l)) ↔
            key.1 = topic ∧ m.Caches key := by
          rw [Finset.mem_image]
          constructor
          · rintro ⟨l, hl, rfl⟩
            exact ⟨rfl, hl⟩
          · rintro ⟨rfl, h⟩
            exact ⟨key.2, h, rfl⟩
        rw [here]
  unfold restorePublisherListeners
  rw [fold]
  have known (h : m.Caches key) : key.1 ∈ m.publisherListenersCache.keys := by
    rw [Store.mem_keys_iff]
    cases hget : m.publisherListenersCache.get key.1 with
    | some listeners => exact ⟨listeners, rfl⟩
    | none =>
        unfold Caches cachedListeners at h
        rw [hget] at h
        cases h
  exact or_congr_right (and_iff_right_of_imp known)

end Cache

section Callbacks
variable (center : CenterState) (engineId : Int)

/-- The callback that a registration leaves under an id. -/
theorem get_remoteRegister (id : Int) (callback : Option Nat) :
    (remoteRegisterCtlCenterCallback center id callback).2.callbackMap.get engineId =
      (center.callbackMap.get engineId).or
        (if engineId = id ∧ !center.isInvalidEngineId id then callback else none) := by
  unfold remoteRegisterCtlCenterCallback CenterState.registerCtlCenterCallback
  cases callback with
  | none => simp
  | some callback =>
      cases hinvalid : center.isInvalidEngineId id with
      | true => simp
      | false =>
          cases hget : center.callbackMap.get id with
          | some before =>
              by_cases own : engineId = id
              · subst own
                simp [hget]
              · simp [own]
          | none =>
              by_cases own : engineId = id
              · subst own
                simp [hget]
              · simp [own]

theorem rootEngineId_remoteRegister (id : Int) (callback : Option Nat) :
    (remoteRegisterCtlCenterCallback center id callback).2.rootEngineId = center.rootEngineId := by
  unfold remoteRegisterCtlCenterCallback
  split
  · rfl
  · obtain ⟨callbacks, heq⟩ := center.registerCtlCenterCallback_eq id callback
    rw [heq]

/-- The restore adds the cached callbacks whose ids the center takes for its own. -/
theorem restoreCtlCenterCallbacks_spec (ret : Int) :
    (m.restoreCtlCenterCallbacks ret center).2.rootEngineId = center.rootEngineId ∧
      (m.restoreCtlCenterCallbacks ret center).2.callbackMap.get engineId =
        (center.callbackMap.get engineId).or
          (if center.isInvalidEngineId engineId then none
            else (m.avTransControlCenterCbCache.get engineId).join) := by
  have nodup := m.avTransControlCenterCbCache.nodupKeys
  have lookup : m.avTransControlCenterCbCache.get engineId =
      m.avTransControlCenterCbCache.entries.dlookup engineId := rfl
  unfold restoreCtlCenterCallbacks
  rw [lookup]
  clear lookup
  generalize m.avTransControlCenterCbCache.entries = entries at nodup ⊢
  induction entries generalizing ret center with
  | nil => simp
  | cons entry entries ih =>
      obtain ⟨id, callback⟩ := entry
      have root := rootEngineId_remoteRegister center id callback
      have map := get_remoteRegister center engineId id callback
      obtain ⟨fresh, nodup⟩ := List.nodupKeys_cons.mp nodup
      obtain ⟨ihroot, ihmap⟩ := ih (remoteRegisterCtlCenterCallback center id callback).2
        (if (remoteRegisterCtlCenterCallback center id callback).1 ≠ dhFwkSuccess then
          (remoteRegisterCtlCenterCallback center id callback).1 else ret) nodup
      have invalid : (remoteRegisterCtlCenterCallback center id callback).2.isInvalidEngineId
          engineId = center.isInvalidEngineId engineId := by
        unfold CenterState.isInvalidEngineId
        rw [root]
      rw [List.foldl_cons]
      refine ⟨ihroot.trans root, ihmap.trans ?_⟩
      rw [map, invalid, Option.or_assoc]
      congr 1
      by_cases own : engineId = id
      · subst own
        have absent : entries.dlookup engineId = none := List.dlookup_eq_none.mpr fresh
        rw [List.dlookup_cons_eq, absent]
        cases center.isInvalidEngineId engineId <;> simp
      · rw [List.dlookup_cons_ne _ _ own]
        simp [own]

end Callbacks
end DHFWKSAManager
end DistributedHardware
