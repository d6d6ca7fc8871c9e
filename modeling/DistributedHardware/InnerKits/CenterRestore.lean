import DistributedHardware.Library.Transition
import DistributedHardware.InnerKits.SaManager

/-!
The callbacks of the AV center while the service stops and starts, as one client process
sees it.

Other processes and the softbus change the center at any time. The calls of the process
and its `RestoreListener` are one step each; what they ask of the service fails while it
is down.
-/

namespace DistributedHardware

structure CenterClient where
  /-- The service's `AVTransControlCenter`, while it is up. -/
  center : Option CenterState := none
  saManager : DHFWKSAManager := {}
  /-- The starts and stops that the process is yet to be told of. -/
  notices : List Bool := []
  /-- The ids handed to the engines of the process that have not been released. -/
  engines : Finset Int := ∅
  /-- Those of them that are older than the service. -/
  survivors : Finset Int := ∅

inductive CenterClientAct
  | initializeAVCenter (transRole : TransRole) (ch : CenterChoice)
  | registerCtlCenterCallback (engineId : Int) (callback : Option Nat)
  | createControlChannel (engineId : Int) (peerDevId : String) (ch : CenterChoice)
  | releaseAVCenter (engineId : Int) (ch : CenterChoice)
  | other (call : CenterCall) (ch : CenterChoice)
  | serviceStart
  | serviceStop
  | notify

namespace CenterClient
variable (s : CenterClient)

def getDHFWKProxy : Bool × CenterClient :=
  let got := s.saManager.getDHFWKProxy s.center.isSome
  (got.1, { s with saManager := got.2 })

/-- A call of the kit returns at once without a proxy. -/
def withProxy (call : CenterClient → Int × CenterClient) : Int × CenterClient :=
  let (found, s) := s.getDHFWKProxy
  if !found then (errDhFwkPointerIsNull, s) else call s

/-- A remote call. -/
def callCenter (call : CenterState → Int × CenterState) : Int × CenterClient :=
  match s.center with
  | none => (errDhFwkServiceIpcSendRequestFail, s)
  | some center =>
      let (ret, center) := call center
      (ret, { s with center := some center })

def initializeAVCenter (ch : CenterChoice) (transRole : TransRole) : Int × Int × CenterClient :=
  let (found, s) := s.getDHFWKProxy
  if !found then (errDhFwkPointerIsNull, invalidEngineId, s)
  else
    match s.center with
    | none => (errDhFwkServiceIpcSendRequestFail, invalidEngineId, s)
    | some center =>
        let (ret, engineId, center) := center.initializeAVCenter ch transRole
        let engines := if ret = dhAvtSuccess then insert engineId s.engines else s.engines
        (ret, engineId, { s with center := some center, engines })

def registerCtlCenterCallback (engineId : Int) (callback : Option Nat) : Int × CenterClient :=
  s.withProxy (fun s =>
    { s with
      saManager := s.saManager.addAVTransControlCenterCbToCache engineId callback }.callCenter
      (fun center => DHFWKSAManager.remoteRegisterCtlCenterCallback center engineId callback))

def createControlChannel (ch : CenterChoice) (engineId : Int) (peerDevId : String) :
    Int × CenterClient :=
  s.withProxy (fun s =>
    s.callCenter (fun center => center.createControlChannel ch engineId peerDevId))

/-- The engine is gone for the process, whatever the result. -/
def releaseAVCenter (ch : CenterChoice) (engineId : Int) : Int × CenterClient :=
  let s :=
    { s with engines := s.engines.erase engineId, survivors := s.survivors.erase engineId }
  s.withProxy (fun s =>
    { s with saManager := s.saManager.removeAVTransControlCenterCbFromCache engineId }.callCenter
      (fun center => center.releaseAVCenter ch engineId))

/-- What other processes and the softbus do to the center. -/
def other (ch : CenterChoice) (call : CenterCall) : CenterClient :=
  { s with center := s.center.map (fun center => centerStep center (call, ch)) }

/-- The part of `RestoreListener` about the callbacks. -/
def restoreListener : Int × CenterClient :=
  s.withProxy (fun s => s.callCenter (s.saManager.restoreCtlCenterCallbacks dhFwkSuccess))

/-- `OnRemoveSystemAbility` and `OnAddSystemAbility`. -/
def notify : Option CenterClient :=
  match s.notices with
  | [] => none
  | false :: notices =>
      some { s with notices, saManager := { s.saManager with dhfwkProxy := false } }
  | true :: notices => some { s with notices }.restoreListener.2

def step : CenterClientAct → Option CenterClient
  | .initializeAVCenter transRole ch => some (s.initializeAVCenter ch transRole).2.2
  | .registerCtlCenterCallback engineId callback =>
      some (s.registerCtlCenterCallback engineId callback).2
  | .createControlChannel engineId peerDevId ch =>
      some (s.createControlChannel ch engineId peerDevId).2
  | .releaseAVCenter engineId ch => some (s.releaseAVCenter ch engineId).2
  | .other call ch => some (s.other ch call)
  | .serviceStart =>
      if s.center.isSome then none
      else some { s with center := some {}, notices := s.notices ++ [true], survivors := s.engines }
  | .serviceStop =>
      if s.center.isSome then some { s with center := none, notices := s.notices ++ [false] }
      else none
  | .notify => s.notify

end CenterClient

def centerClientSystem : TransitionSystem CenterClient CenterClientAct where
  init := fun s => s = {}
  step := CenterClient.step

namespace CenterClient

/-- The engine id that a step hands out. -/
def handsOut (s : CenterClient) : CenterClientAct → Option Int
  | .initializeAVCenter transRole ch | .other (.initializeAVCenter transRole) ch =>
      s.center.bind (fun center =>
        let (ret, engineId, _) := center.initializeAVCenter ch transRole
        if ret = dhAvtSuccess then some engineId else none)
  | _ => none

/-- A live engine that is older than the service uses the id, with its callback cached. -/
def UsesStill (s : CenterClient) (engineId : Int) : Prop :=
  engineId ∈ s.survivors ∧ (s.saManager.avTransControlCenterCbCache.get engineId).isSome

/-- The callbacks of the engines that are older than the service are registered. -/
def Registered (s : CenterClient) : Prop :=
  ∀ center ∈ s.center, ∀ engineId ∈ s.survivors, ∀ callback,
    s.saManager.avTransControlCenterCbCache.get engineId = some (some callback) →
      center.callbackMap.get engineId = some callback

/-- What a step must do after a restart: the restore registers the callbacks again, and no
engine id is handed out that is still used. -/
def CallbacksSurvive (s : CenterClient) (a : CenterClientAct) : Prop :=
  (∀ engineId ∈ s.handsOut a, ¬ s.UsesStill engineId) ∧
    (a = .notify → s.notices.head? = some true → ∀ t ∈ s.step a, t.Registered)

section Steps
variable {s t : CenterClient}

theorem getDHFWKProxy_eq : ∃ proxy,
    s.getDHFWKProxy.2 = { s with saManager := { s.saManager with dhfwkProxy := proxy } } := by
  obtain ⟨proxy, heq⟩ := s.saManager.getDHFWKProxy_eq s.center.isSome
  exact ⟨proxy, by simp only [getDHFWKProxy, heq]⟩

theorem getDHFWKProxy_fst (up : s.center.isSome) : s.getDHFWKProxy.1 = true := by
  simp only [getDHFWKProxy, up]
  exact DHFWKSAManager.getDHFWKProxy_online _

/-- Only a start makes an engine older than the service, and only a stop ends the center. -/
structure KeepsIncarnation (s t : CenterClient) : Prop where
  center : s.center.isSome → t.center.isSome
  survivors : t.survivors ⊆ s.survivors

theorem KeepsIncarnation.trans {r : CenterClient} (h : KeepsIncarnation s t)
    (h' : KeepsIncarnation t r) : KeepsIncarnation s r :=
  ⟨fun up => h'.center (h.center up), h'.survivors.trans h.survivors⟩

theorem keeps_initializeAVCenter (ch : CenterChoice) (transRole : TransRole) :
    KeepsIncarnation s (s.initializeAVCenter ch transRole).2.2 := by
  obtain ⟨proxy, heq⟩ := s.getDHFWKProxy_eq
  unfold initializeAVCenter
  simp only [heq]
  split
  · exact ⟨id, Finset.Subset.refl _⟩
  · split
    · exact ⟨id, Finset.Subset.refl _⟩
    · exact ⟨fun _ => rfl, Finset.Subset.refl _⟩

theorem keeps_withProxy {call : CenterClient → Int × CenterClient}
    (h : ∀ s, KeepsIncarnation s (call s).2) : KeepsIncarnation s (s.withProxy call).2 := by
  obtain ⟨proxy, heq⟩ := s.getDHFWKProxy_eq
  unfold withProxy
  simp only [heq]
  split
  · exact ⟨id, Finset.Subset.refl _⟩
  · have keeps := h { s with saManager := { s.saManager with dhfwkProxy := proxy } }
    exact ⟨keeps.center, keeps.survivors⟩

theorem keeps_callCenter (saManager : DHFWKSAManager) (call : CenterState → Int × CenterState) :
    KeepsIncarnation s ({ s with saManager }.callCenter call).2 := by
  unfold callCenter
  split
  · exact ⟨id, Finset.Subset.refl _⟩
  · exact ⟨fun _ => rfl, Finset.Subset.refl _⟩

theorem keeps_restoreListener : KeepsIncarnation s s.restoreListener.2 := by
  unfold restoreListener
  exact keeps_withProxy (fun s => keeps_callCenter s.saManager _)

theorem keeps_step {a : CenterClientAct} (running : a ≠ .serviceStop) (up : s.center.isSome)
    (hs : s.step a = some t) : KeepsIncarnation s t := by
  cases a with
  | initializeAVCenter transRole ch =>
      obtain rfl := Option.some.inj hs
      exact keeps_initializeAVCenter ch transRole
  | registerCtlCenterCallback engineId callback =>
      obtain rfl := Option.some.inj hs
      exact keeps_withProxy (fun s => keeps_callCenter _ _)
  | createControlChannel engineId peerDevId ch =>
      obtain rfl := Option.some.inj hs
      exact keeps_withProxy (fun s => keeps_callCenter s.saManager _)
  | releaseAVCenter engineId ch =>
      obtain rfl := Option.some.inj hs
      have released : KeepsIncarnation s
          { s with engines := s.engines.erase engineId, survivors := s.survivors.erase engineId } :=
        ⟨id, Finset.erase_subset _ _⟩
      exact released.trans (keeps_withProxy (fun s => keeps_callCenter _ _))
  | other call ch =>
      obtain rfl := Option.some.inj hs
      refine ⟨?_, Finset.Subset.refl _⟩
      intro hup
      simpa [CenterClient.other] using hup
  | serviceStart =>
      simp only [CenterClient.step, up] at hs
      cases hs
  | serviceStop => exact absurd rfl running
  | notify =>
      simp only [CenterClient.step, CenterClient.notify] at hs
      split at hs
      case h_1 => cases hs
      case h_2 notices _ =>
        obtain rfl := Option.some.inj hs
        exact ⟨id, Finset.Subset.refl _⟩
      case h_3 notices _ =>
        obtain rfl := Option.some.inj hs
        have keeps := keeps_restoreListener (s := { s with notices })
        exact ⟨keeps.center, keeps.survivors⟩

end Steps

/-- Ids are handed out from the first one on. -/
structure IdsFromBase (s : CenterClient) : Prop where
  root : ∀ center ∈ s.center, baseEngineId ≤ center.rootEngineId
  engines : ∀ engineId ∈ s.engines, baseEngineId ≤ engineId

namespace IdsFromBase
variable {s t : CenterClient}

theorem initializeAVCenter (h : s.IdsFromBase) (ch : CenterChoice) (transRole : TransRole) :
    (s.initializeAVCenter ch transRole).2.2.IdsFromBase := by
  obtain ⟨proxy, heq⟩ := s.getDHFWKProxy_eq
  unfold CenterClient.initializeAVCenter
  simp only [heq]
  split
  · exact ⟨h.root, h.engines⟩
  · split
    · exact ⟨h.root, h.engines⟩
    case h_2 center hcenter =>
      have root := h.root center hcenter
      constructor
      case root =>
        intro next hnext
        obtain rfl := Option.some.inj hnext
        exact root.trans (rootEngineId_le_centerStep center (.initializeAVCenter transRole, ch))
      case engines =>
        intro engineId hid
        dsimp only at hid
        split at hid
        case isFalse => exact h.engines engineId hid
        case isTrue handed =>
          obtain rfl | hid := Finset.mem_insert.mp hid
          · obtain ⟨failed, -⟩ | ⟨-, hroot, -⟩ := center.initializeAVCenter_counter ch transRole
            · exact absurd handed failed
            · rw [hroot]
              exact root
          · exact h.engines engineId hid

theorem withProxy (h : s.IdsFromBase) {call : CenterClient → Int × CenterClient}
    (hcall : ∀ s, IdsFromBase s → IdsFromBase (call s).2) : (s.withProxy call).2.IdsFromBase := by
  obtain ⟨proxy, heq⟩ := s.getDHFWKProxy_eq
  unfold CenterClient.withProxy
  simp only [heq]
  split
  · exact ⟨h.root, h.engines⟩
  · exact hcall _ ⟨h.root, h.engines⟩

theorem callCenter (h : s.IdsFromBase) (saManager : DHFWKSAManager)
    {call : CenterState → Int × CenterState}
    (hcall : ∀ center, center.rootEngineId ≤ (call center).2.rootEngineId) :
    ({ s with saManager }.callCenter call).2.IdsFromBase := by
  unfold CenterClient.callCenter
  split
  · exact ⟨h.root, h.engines⟩
  case h_2 center hcenter =>
    refine ⟨?_, h.engines⟩
    intro next hnext
    obtain rfl := Option.some.inj hnext
    exact (h.root center hcenter).trans (hcall center)

theorem restoreListener (h : s.IdsFromBase) : s.restoreListener.2.IdsFromBase := by
  apply h.withProxy
  intro s h
  apply h.callCenter s.saManager
  exact fun center => (s.saManager.restoreCtlCenterCallbacks_spec center 0 dhFwkSuccess).1.ge

theorem step {a : CenterClientAct} (h : s.IdsFromBase) (hs : s.step a = some t) :
    t.IdsFromBase := by
  cases a with
  | initializeAVCenter transRole ch =>
      obtain rfl := Option.some.inj hs
      exact h.initializeAVCenter ch transRole
  | registerCtlCenterCallback engineId callback =>
      obtain rfl := Option.some.inj hs
      apply h.withProxy
      intro s h
      apply h.callCenter
      exact fun center => (DHFWKSAManager.rootEngineId_remoteRegister center engineId callback).ge
  | createControlChannel engineId peerDevId ch =>
      obtain rfl := Option.some.inj hs
      apply h.withProxy
      intro s h
      apply h.callCenter s.saManager
      exact fun center =>
        rootEngineId_le_centerStep center (.createControlChannel engineId peerDevId, ch)
  | releaseAVCenter engineId ch =>
      obtain rfl := Option.some.inj hs
      have h : IdsFromBase
          { s with engines := s.engines.erase engineId, survivors := s.survivors.erase engineId } :=
        ⟨h.root, fun id hid => h.engines id (Finset.mem_of_mem_erase hid)⟩
      apply h.withProxy
      intro s h
      apply h.callCenter
      exact fun center => (center.rootEngineId_releaseAVCenter ch engineId).ge
  | other call ch =>
      obtain rfl := Option.some.inj hs
      refine ⟨?_, h.engines⟩
      intro center hcenter
      obtain ⟨before, hbefore, rfl⟩ := Option.map_eq_some_iff.mp hcenter
      exact (h.root before hbefore).trans (rootEngineId_le_centerStep before (call, ch))
  | serviceStart =>
      simp only [CenterClient.step] at hs
      split at hs
      · cases hs
      · obtain rfl := Option.some.inj hs
        refine ⟨?_, h.engines⟩
        intro center hcenter
        obtain rfl := Option.some.inj hcenter
        exact Int.le_refl _
  | serviceStop =>
      simp only [CenterClient.step] at hs
      split at hs
      · obtain rfl := Option.some.inj hs
        exact ⟨by simp, h.engines⟩
      · cases hs
  | notify =>
      simp only [CenterClient.step, CenterClient.notify] at hs
      split at hs
      case h_1 => cases hs
      case h_2 notices _ =>
        obtain rfl := Option.some.inj hs
        exact ⟨h.root, h.engines⟩
      case h_3 notices _ =>
        obtain rfl := Option.some.inj hs
        exact restoreListener ⟨h.root, h.engines⟩

theorem of_reachable (reach : centerClientSystem.Reachable s) : s.IdsFromBase := by
  apply reach.invariant
  · rintro _ rfl
    exact ⟨by simp, by simp⟩
  · exact fun _ _ _ h hs => h.step hs

end IdsFromBase

/-- The steps of one incarnation of the service. -/
def running (_ : CenterClient) (a : CenterClientAct) : Prop := a ≠ .serviceStop

section Restart
variable {s t : CenterClient}

/-- Where no engine is older than the service, there is nothing to lose. -/
theorem callbacksSurvive_of_empty (h : s.survivors = ∅) (up : s.center.isSome)
    (a : CenterClientAct) : s.CallbacksSurvive a := by
  constructor
  · rintro engineId - ⟨hid, -⟩
    rw [h] at hid
    exact Finset.notMem_empty engineId hid
  · rintro rfl - t ht center - engineId hid
    have keeps := keeps_step (by simp) up ht
    have hid := keeps.survivors hid
    rw [h] at hid
    exact absurd hid (Finset.notMem_empty engineId)

theorem initializeAVCenter_granted (center : CenterState) :
    (center.initializeAVCenter {} .avSender).1 = dhAvtSuccess := by
  unfold CenterState.initializeAVCenter CenterState.createChannelServer
  by_cases again : center.initialized
  · simp [again, CenterState.giveEngineId]
  · by_cases server : CenterState.mapKey pkgNameDhFwk avSyncReceiverControlSessionName ∈
        center.serverMap
    · simp [again, server, CenterState.giveEngineId]
    · simp [again, server, CenterState.giveEngineId]

/-- Initialisations of other processes bring the counter to any later id. -/
theorem exists_counter (n : Nat) {center : CenterState} (hcenter : s.center = some center) :
    ∃ acts t center', centerClientSystem.Path running s acts t ∧ t.center = some center' ∧
      center'.rootEngineId = center.rootEngineId + n ∧ t.survivors = s.survivors ∧
      t.saManager = s.saManager := by
  induction n generalizing s center with
  | zero => exact ⟨[], s, center, .nil s, hcenter, by simp, rfl, rfl⟩
  | succ n ih =>
      let next : CenterState := (center.initializeAVCenter {} .avSender).2.2
      let s₁ : CenterClient := { s with center := some next }
      have hs : centerClientSystem.step s (.other (.initializeAVCenter .avSender) {}) =
          some s₁ := by
        simp [centerClientSystem, CenterClient.step, CenterClient.other, hcenter, centerStep, s₁,
          next]
      have advanced : next.rootEngineId = center.rootEngineId + 1 := by
        obtain ⟨failed, -⟩ | ⟨-, -, advanced⟩ := center.initializeAVCenter_counter {} .avSender
        · exact absurd (initializeAVCenter_granted center) failed
        · exact advanced
      obtain ⟨acts, t, center', path, ht, hroot, survivors, saManager⟩ := ih (s := s₁) rfl
      refine ⟨_, t, center', .cons (by simp [running]) hs path, ht, ?_, survivors, saManager⟩
      rw [hroot, advanced]
      omega

/-- The id of an engine that is older than the service is handed out again, once the
engine has its callback registered. -/
theorem exists_handed_again (h : s.IdsFromBase) (down : s.center = none) {engineId : Int}
    (live : engineId ∈ s.engines) :
    ∃ acts t, centerClientSystem.Path running s (.serviceStart :: acts) t ∧
      ¬ t.CallbacksSurvive (.other (.initializeAVCenter .avSender) {}) := by
  let s₁ : CenterClient :=
    { s with center := some {}, notices := s.notices ++ [true], survivors := s.engines }
  have start : centerClientSystem.step s .serviceStart = some s₁ := by
    simp [centerClientSystem, CenterClient.step, down, s₁]
  obtain ⟨proxy, heq⟩ := s₁.getDHFWKProxy_eq
  have found : s₁.getDHFWKProxy.1 = true := getDHFWKProxy_fst rfl
  let s₂ : CenterClient := (s₁.registerCtlCenterCallback engineId (some 0)).2
  have register : centerClientSystem.step s₁ (.registerCtlCenterCallback engineId (some 0)) =
      some s₂ := rfl
  obtain ⟨center, hcenter, root, survivors, cached⟩ : ∃ center, s₂.center = some center ∧
      center.rootEngineId = baseEngineId ∧ s₂.survivors = s.engines ∧
      s₂.saManager.avTransControlCenterCbCache.get engineId = some (some 0) := by
    simp only [s₂, CenterClient.registerCtlCenterCallback, CenterClient.withProxy, found, heq]
    refine ⟨_, rfl, DHFWKSAManager.rootEngineId_remoteRegister {} engineId (some 0), rfl, ?_⟩
    simp [CenterClient.callCenter, s₁, DHFWKSAManager.addAVTransControlCenterCbToCache]
  obtain ⟨acts, t, center', path, ht, hroot, tsurvivors, saManager⟩ :=
    exists_counter (engineId - baseEngineId).toNat hcenter
  refine ⟨_, t, .cons (by simp [running]) start (.cons (by simp [running]) register path), ?_⟩
  rintro ⟨fresh, -⟩
  have handed : t.handsOut (.other (.initializeAVCenter .avSender) {}) = some engineId := by
    obtain ⟨failed, -⟩ | ⟨-, hid, -⟩ := center'.initializeAVCenter_counter {} .avSender
    · exact absurd (initializeAVCenter_granted center') failed
    · have base := h.engines engineId live
      have here : center'.rootEngineId = engineId := by
        rw [hroot, root]
        omega
      simp only [handsOut, ht, Option.bind_some, initializeAVCenter_granted, if_true, hid, here]
  refine fresh engineId handed ⟨?_, ?_⟩
  · rw [tsurvivors, survivors]
    exact live
  · rw [saManager, cached]
    rfl

/-- Of all cached callbacks a new center takes that of the first id. -/
theorem restore_newCenter (m : DHFWKSAManager) (ret engineId : Int) :
    (m.restoreCtlCenterCallbacks ret {}).2.callbackMap.get engineId =
      if engineId = baseEngineId then (m.avTransControlCenterCbCache.get engineId).join
      else none := by
  rw [(m.restoreCtlCenterCallbacks_spec {} engineId ret).2, Store.get_empty, Option.none_or]
  by_cases first : engineId = baseEngineId
  · subst first
    simp [CenterState.isInvalidEngineId]
  · have invalid : ({} : CenterState).isInvalidEngineId engineId = true := by
      unfold CenterState.isInvalidEngineId
      rw [Bool.or_eq_true, decide_eq_true_eq, decide_eq_true_eq]
      dsimp only
      omega
    rw [if_pos invalid, if_neg first]

end Restart
end CenterClient
end DistributedHardware
