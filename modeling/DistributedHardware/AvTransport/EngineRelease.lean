import DistributedHardware.AvTransport.ControlCenter
import DistributedHardware.AvTransport.TransEngine

/-!
What an engine has registered, and what its release takes back.

An engine is registered with the adapter under the key of its session and its peer, and
with the control center under the id it was given. `Release` takes back what is under
the peer and the id that the engine has then. Whether a call of the framework kit gets to
the control center is an argument; what the center answers is the center's.
-/

namespace DistributedHardware

def EngineKind.role : EngineKind → TransRole
  | .sender => .avSender
  | .receiver => .avReceiver

/-- `Release` of a receiver returns at once where the state is `IDLE`. -/
def TransEngine.Releases (e : TransEngine) : Prop :=
  ¬ (e.kind = .receiver ∧ e.currentState = .idle)

instance (e : TransEngine) : Decidable e.Releases := inferInstanceAs (Decidable (¬ _))

/-- The filters are all made, and linked as they are for the known owners. -/
def TransEngine.LinksPipeline (e : TransEngine) (ch : InitChoice) : Prop :=
  (ch.avInput = true ∧ ch.avOutput = true ∧ ch.videoCodec = true ∧ ch.audioCodec = true) ∧
    e.ownerName ∈ TransEngine.supportedOwners ∧ ch.linked = true

/-- The control center is initialized, or has its server, or the server is created. -/
def CenterState.GivesId (s : CenterState) (ch : CenterChoice) : Prop :=
  s.initialized = true ∨
    CenterState.mapKey pkgNameDhFwk avSyncReceiverControlSessionName ∈ s.serverMap ∨
    ch.serverCreated = true

/-- An engine with the adapter and the control center it registers with. -/
structure RegisteringEngine (L : Type) where
  engine : TransEngine
  engineId : Int := 0
  adapter : SoftbusAdapter L
  center : CenterState
  /-- The ids that the control center has given the engine. -/
  obtained : List Int := []

inductive RegisteringAct
  /-- `reached` says whether a start's or a release's call of the kit gets to the center;
  in an initialization the answers `center` and `callback` say so. -/
  | call (o : EngineOp) (reached : Bool) (ch : CenterChoice)
  | channelEvent (event : AVTransEvent)

namespace RegisteringEngine
variable {L : Type} (this : L) (callback : Nat) (s : RegisteringEngine L)

def runEngine (o : EngineOp) : RegisteringEngine L :=
  let (engine, adapter) := s.engine.run this s.adapter o
  { s with engine, adapter }

/-- `Initialize` comes to the control center. -/
def AsksCenter (ch : InitChoice) : Prop :=
  s.engine.isInitialized = false ∧ (s.engine.initPipeline ch).1 = dhAvtSuccess ∧
    ch.center = true

instance (ch : InitChoice) : Decidable (s.AsksCenter ch) :=
  inferInstanceAs (Decidable (_ ∧ _ ∧ _))

/-- `Initialize`, with what the kit's `InitializeAVCenter` and `RegisterCtlCenterCallback`
do. -/
def initializeEngine (ch : InitChoice) (centerCh : CenterChoice) : RegisteringEngine L :=
  if s.AsksCenter ch then
    let (ret, engineId, center) := s.center.initializeAVCenter centerCh s.engine.kind.role
    let s := { s with engineId, center }
    if ret ≠ dhAvtSuccess then s.runEngine this (.initializeEngine { ch with center := false })
    else
      let s := { s with obtained := engineId :: s.obtained }
      if !ch.callback then s.runEngine this (.initializeEngine ch)
      else
        let (ret, center) := s.center.registerCtlCenterCallback engineId (some callback)
        { s with center }.runEngine this
          (.initializeEngine { ch with callback := ret = dhAvtSuccess })
  else s.runEngine this (.initializeEngine { ch with center := false })

/-- `Start`, with the kit's `CreateControlChannel`. -/
def start (started reached : Bool) (centerCh : CenterChoice) : RegisteringEngine L :=
  if s.engine.kind = .sender ∧ s.engine.currentState = .chCreated ∧ s.engine.pipeline ∧ started ∧
      s.engine.dhFwkKit ∧ reached then
    let (ret, center) := s.center.createControlChannel centerCh s.engineId s.engine.peerDevId
    { s with center }.runEngine this (.start started (ret = dhAvtSuccess))
  else s.runEngine this (.start started false)

/-- `Release`, with the kit's `ReleaseAVCenter`. -/
def release (reached : Bool) (centerCh : CenterChoice) : RegisteringEngine L :=
  if s.engine.Releases ∧ s.engine.dhFwkKit ∧ reached then
    let (_, center) := s.center.releaseAVCenter centerCh s.engineId
    { s with center }.runEngine this .release
  else s.runEngine this .release

def step : RegisteringAct → RegisteringEngine L
  | .call (.initializeEngine ch) _ centerCh => s.initializeEngine this callback ch centerCh
  | .call (.start started _) reached centerCh => s.start this started reached centerCh
  | .call .release reached centerCh => s.release this reached centerCh
  | .call o _ _ => s.runEngine this o
  | .channelEvent event => { s with engine := s.engine.onChannelEvent event }

/-- An engine that has just been made, and is registered nowhere. The control center has
callbacks only under ids it has given. -/
structure Fresh (s : RegisteringEngine L) : Prop where
  engine : ∃ kind ownerName peerDevId, s.engine = { kind, ownerName, peerDevId }
  engineId : s.engineId = 0
  obtained : s.obtained = []
  unregistered : ∀ key, s.adapter.listenerMap.get key ≠ some (some this)
  root : baseEngineId ≤ s.center.rootEngineId
  callbacks : ∀ id, s.center.callbackMap.get id ≠ none → id < s.center.rootEngineId

/-- No callback is registered under an id that the engine was given. -/
def NoCallback (s : RegisteringEngine L) : Prop :=
  ∀ id ∈ s.obtained, s.center.callbackMap.get id = none

/-- No listener is the engine, and no callback of it is registered. -/
def LeavesNothing (s : RegisteringEngine L) : Prop :=
  (∀ key, s.adapter.listenerMap.get key ≠ some (some this)) ∧ s.NoCallback

/-- A release that gets to the control center leaves nothing of the engine behind. -/
def ReleasesAll (s : RegisteringEngine L) : Prop :=
  ∀ centerCh, (s.release this true centerCh).LeavesNothing this

/-- When a call keeps what the engine has registered within reach of its release: an
initialization takes no new id where a callback is registered already, and registers one
only where the release will not be cut short; the engine is bound to another peer only
while it is registered for none, and registered only where it will be released; and a
release with a callback gets to the control center. -/
def KeepsHold (s : RegisteringEngine L) : RegisteringAct → Prop
  | .call (.initializeEngine ch) _ centerCh =>
      s.engine.isInitialized = false ∧ s.engine.LinksPipeline ch ∧ ch.center = true →
        s.NoCallback ∧ (s.center.GivesId centerCh → ch.callback = true →
          s.engine.Releases ∨ s.engine.peerDevId ≠ "")
  | .call (.createControlChannel (peerDevId :: _) _ _) _ _ =>
      (∀ key, s.adapter.listenerMap.get key = some (some this) →
        peerDevId ≠ "" ∧ key = channelKey s.engine.sessionName peerDevId) ∧
      (peerDevId ≠ "" → s.engine.Releases)
  | .call .release reached _ => reached = true ∨ s.NoCallback
  | _ => True

end RegisteringEngine

def registeringSystem {L : Type} (this : L) (callback : Nat) :
    TransitionSystem (RegisteringEngine L) RegisteringAct where
  init s := s.Fresh this
  step s a := some (s.step this callback a)

section Adapter
variable {L : Type} {this : L} {a : SoftbusAdapter L} {sessName peerDevId : String}

theorem get_registerChannelListener (this : L) (named : sessName ≠ "") (key : String) :
    (a.registerChannelListener sessName peerDevId (some this)).2.listenerMap.get key =
      if peerDevId ≠ "" ∧ key = channelKey sessName peerDevId then some (some this)
      else a.listenerMap.get key := by
  unfold SoftbusAdapter.registerChannelListener
  rw [if_neg named]
  by_cases empty : peerDevId = ""
  · rw [if_pos empty, if_neg (fun h => h.1 empty)]
  · rw [if_neg empty, if_neg (by simp)]
    simp only [Store.get_set, ne_eq, empty, not_false_eq_true, true_and]

theorem registerChannelListener_success_iff (named : sessName ≠ "") :
    (a.registerChannelListener sessName peerDevId (some this)).1 = dhAvtSuccess ↔
      peerDevId ≠ "" := by
  unfold SoftbusAdapter.registerChannelListener
  rw [if_neg named]
  by_cases empty : peerDevId = ""
  · simp [empty, errDhAvtInvalidParam, dhAvtSuccess]
  · simp [empty]

theorem listenerMap_openSoftbusChannel (peerSessName : String) (socket : Int) (bind : Bool) :
    (a.openSoftbusChannel sessName peerSessName peerDevId socket bind).2.listenerMap =
      a.listenerMap := by
  obtain same | ⟨-, opened⟩ := a.openSoftbusChannel_eq sessName peerSessName peerDevId socket bind
  · rw [same]
  · rw [opened]

theorem listenerMap_closeSoftbusChannel :
    (a.closeSoftbusChannel sessName peerDevId).2.listenerMap = a.listenerMap := by
  obtain same | ⟨-, closed⟩ := a.closeSoftbusChannel_eq sessName peerDevId
  · rw [same]
  · rw [closed]
    rfl

theorem get_unRegisterChannelListener (named : sessName ≠ "") (key : String) :
    (a.unRegisterChannelListener sessName peerDevId).2.listenerMap.get key =
      if peerDevId ≠ "" ∧ key = channelKey sessName peerDevId then none
      else a.listenerMap.get key := by
  unfold SoftbusAdapter.unRegisterChannelListener
  rw [if_neg named]
  by_cases empty : peerDevId = ""
  · rw [if_pos empty, if_neg (fun h => h.1 empty)]
  · rw [if_neg empty]
    simp only [Store.get_erase, ne_eq, empty, not_false_eq_true, true_and]

end Adapter

namespace CenterState
variable {s : CenterState} {engineId : Int}

/-- A release takes the callback of a valid id back, whatever becomes of the peer. -/
theorem get_callbackMap_release (ch : CenterChoice) (id : Int) :
    (s.releaseAVCenter ch engineId).2.callbackMap.get id =
      if s.isInvalidEngineId engineId = false ∧ id = engineId then none
      else s.callbackMap.get id := by
  by_cases valid : s.isInvalidEngineId engineId = false
  · have forgotten : (s.forgetEngine engineId).callbackMap.get id =
        if id = engineId then none else s.callbackMap.get id :=
      Store.get_erase _ _ _
    simp only [valid, true_and]
    cases hpeer : s.releasedPeer engineId with
    | none =>
        obtain ⟨-, invalid⟩ | forgets := releaseAVCenter_of_none ch hpeer
        · rw [valid] at invalid
          cases invalid
        · rw [forgets, forgotten]
    | some peerDevId =>
        obtain ⟨names, released⟩ := (s.forgetEngine engineId).releasePeer_eq ch peerDevId
        rw [(releaseAVCenter_of_some ch hpeer).1, released]
        exact forgotten
  · rw [if_neg (fun h => valid h.1)]
    unfold releaseAVCenter
    rw [if_pos (Bool.not_eq_false _ ▸ valid)]

theorem isInvalidEngineId_eq_false : s.isInvalidEngineId engineId = false ↔
    baseEngineId ≤ engineId ∧ engineId ≤ s.rootEngineId := by
  simp [isInvalidEngineId]

theorem initializeAVCenter_refused {ch : CenterChoice} {transRole : TransRole}
    (refused : (s.initializeAVCenter ch transRole).1 ≠ dhAvtSuccess) :
    (s.initializeAVCenter ch transRole).2.1 = invalidEngineId := by
  unfold initializeAVCenter at refused ⊢
  split_ifs at refused ⊢
  · rfl
  · exact absurd rfl refused
  · simp only at refused ⊢
    split at refused
    case isTrue failed => rw [if_pos failed]
    case isFalse => exact absurd rfl refused

theorem initializeAVCenter_success_iff (ch : CenterChoice) (kind : EngineKind) :
    (s.initializeAVCenter ch kind.role).1 = dhAvtSuccess ↔ s.GivesId ch := by
  have known : ¬ (kind.role ≠ .avSender ∧ kind.role ≠ .avReceiver) := by
    cases kind <;> simp [EngineKind.role]
  unfold initializeAVCenter GivesId
  rw [if_neg known]
  by_cases initialized : s.initialized = true
  · rw [if_pos initialized]
    exact iff_of_true rfl (.inl initialized)
  · rw [if_neg initialized]
    simp only [initialized]
    unfold createChannelServer
    by_cases mem : mapKey pkgNameDhFwk avSyncReceiverControlSessionName ∈ s.serverMap
    · simp [mem]
    · cases created : ch.serverCreated <;> simp [mem, errDhAvtSessionError, dhAvtSuccess]

/-- The control center answers with the next id, or with none. -/
theorem initializeAVCenter_answers (ch : CenterChoice) (kind : EngineKind) :
    ∃ center : CenterState, center.callbackMap = s.callbackMap ∧
      (¬ s.GivesId ch ∧ center.rootEngineId = s.rootEngineId ∧ (∃ ret ≠ dhAvtSuccess,
          s.initializeAVCenter ch kind.role = (ret, invalidEngineId, center)) ∨
        s.GivesId ch ∧ center.rootEngineId = s.rootEngineId + 1 ∧
          s.initializeAVCenter ch kind.role = (dhAvtSuccess, s.rootEngineId, center)) := by
  have gives := initializeAVCenter_success_iff (s := s) ch kind
  obtain ⟨_, _, root, _, _, _, center, counter⟩ := s.initializeAVCenter_cases ch kind.role
  refine ⟨(s.initializeAVCenter ch kind.role).2.2, by rw [center], ?_⟩
  rw [← gives]
  obtain ⟨failed, rfl⟩ | ⟨success, given, rfl⟩ := counter
  · refine .inl ⟨failed, by rw [center], _, failed, ?_⟩
    rw [← initializeAVCenter_refused failed]
  · refine .inr ⟨success, by rw [center], ?_⟩
    rw [← success, ← given]

/-- The first callback of a valid id is registered. -/
theorem registerCtlCenterCallback_valid (valid : s.isInvalidEngineId engineId = false)
    (none_ : s.callbackMap.get engineId = none) (callback : Nat) :
    s.registerCtlCenterCallback engineId (some callback) =
      (dhAvtSuccess, { s with callbackMap := s.callbackMap.set engineId callback }) := by
  simp [registerCtlCenterCallback, valid, none_]

end CenterState

namespace TransEngine
variable {L : Type} (e : TransEngine)

theorem sessionName_ne_empty : e.sessionName ≠ "" := by
  intro empty
  have length := congrArg String.length empty
  simp [sessionName] at length

/-- The engine is registered under the same key and released as before. -/
structure SameHold (e e' : TransEngine) : Prop where
  binding : SameBinding e e'
  dhFwkKit : e.dhFwkKit = true → e'.dhFwkKit = true
  releases : e.Releases → e'.Releases

theorem SameHold.refl (e : TransEngine) : SameHold e e := ⟨.refl e, id, id⟩

/-- Another state than `IDLE` lets the engine be released. -/
theorem SameHold.state {e : TransEngine} {state : StateId} (left : state ≠ .idle) :
    SameHold e { e with currentState := state } :=
  ⟨⟨rfl, rfl, rfl⟩, id, fun _ idle => left idle.2⟩

theorem sameHold_onChannelEvent (event : AVTransEvent) : SameHold e (e.onChannelEvent event) := by
  unfold onChannelEvent
  split
  · exact .refl e
  · split
    · exact .state (by decide)
    · exact .state (by decide)
    · split
      · exact .state (by decide)
      · exact .refl e
    · exact .refl e
    · exact .refl e

theorem sameHold_setEngineReady (params prepare : Bool) :
    SameHold e (e.setEngineReady params prepare).2 := by
  unfold setEngineReady
  split
  · exact .refl e
  · unfold preparePipeline
    split_ifs
    · exact .refl e
    · exact .refl e
    · exact .refl e
    · exact .refl e
    · exact .state (by decide)

section Run
variable (this : L) (a : SoftbusAdapter L)

theorem sameHold_start (started channel : Bool) :
    SameHold e (e.run this a (.start started channel)).1 := by
  simp only [run]
  unfold AVSenderEngine.start AVReceiverEngine.start
  split <;> split_ifs <;> first | exact .refl e | exact .state (by decide)

theorem sameHold_stop (stopped : Bool) : SameHold e (e.run this a (.stop stopped)).1 := by
  simp only [run]
  unfold AVSenderEngine.stop AVReceiverEngine.stop
  split <;> split_ifs <;> first | exact .refl e | exact .state (by decide)

theorem sameHold_registerCallback (callback : Bool) :
    SameHold e (e.registerCallback callback).2 := by
  unfold registerCallback
  split
  · exact .refl e
  · exact ⟨⟨rfl, rfl, rfl⟩, id, id⟩

theorem sameHold_setVideoPixelFormat (videoFormat : String) :
    SameHold e (e.run this a (.setVideoPixelFormat videoFormat)).1 := by
  simp only [run]
  split
  · obtain ⟨-, heq⟩ | ⟨-, heq⟩ := e.setVideoPixelFormat_cases videoFormat
    · rw [heq]
      exact ⟨⟨rfl, rfl, rfl⟩, id, id⟩
    · rw [heq]
      exact .refl e
  · exact .refl e

theorem sameHold_pushData (buffer pushed : Bool) :
    SameHold e (e.run this a (.pushData buffer pushed)).1 := by
  simp only [run]
  split
  · obtain heq | heq := AVSenderEngine.pushData_engine e buffer pushed
    · rw [heq]
      exact .refl e
    · rw [heq]
      exact .state (by decide)
  · exact .refl e

theorem sameHold_handleOutputBuffer (buffer : Bool) (taken : Int) :
    SameHold e (e.run this a (.handleOutputBuffer buffer taken)).1 := by
  simp only [run]
  split
  · exact .refl e
  · obtain heq | heq := AVReceiverEngine.handleOutputBuffer_engine e buffer taken
    · rw [heq]
      exact .refl e
    · rw [heq]
      exact .state (by decide)

theorem releases_congr {e e' : TransEngine} (same : SameBinding e e')
    (state : e'.currentState = e.currentState) : e'.Releases ↔ e.Releases := by
  unfold Releases
  rw [same.kind, state]

theorem initPipeline_success_iff (ch : InitChoice) :
    (e.initPipeline ch).1 = dhAvtSuccess ↔ e.LinksPipeline ch := by
  unfold initPipeline LinksPipeline
  dsimp only
  cases ch.avInput <;> cases ch.avOutput <;> cases ch.videoCodec <;> cases ch.audioCodec <;>
    simp [errDhAvtNullPointer, errDhAvtInvalidParamValue, dhAvtSuccess]
  by_cases known : e.ownerName ∈ supportedOwners
  · cases ch.linked <;> simp [known, errDhAvtInvalidOperation]
  · simp [known]

theorem initPipeline_dhFwkKit (ch : InitChoice) :
    (e.initPipeline ch).2.dhFwkKit = e.dhFwkKit := by
  unfold initPipeline
  dsimp only
  split_ifs <;> rfl

theorem initControlCenter_dhFwkKit (ch : InitChoice) :
    (e.initControlCenter ch).2.dhFwkKit = true := by
  unfold initControlCenter
  dsimp only
  split_ifs <;> rfl

theorem initControlCenter_success_iff (ch : InitChoice) :
    (e.initControlCenter ch).1 = dhAvtSuccess ↔ ch.center = true ∧ ch.callback = true := by
  unfold initControlCenter
  cases ch.center <;> cases ch.callback <;>
    simp [errDhAvtCtrlCenterInitFail, errDhAvtRegisterCallbackFail, dhAvtSuccess]

/-- An initialization that does not come to the control center. -/
theorem initializeEngine_early (ch : InitChoice)
    (early : ¬ (e.isInitialized = false ∧ (e.initPipeline ch).1 = dhAvtSuccess)) :
    SameHold e (e.run this a (.initializeEngine ch)).1 ∧
      (e.run this a (.initializeEngine ch)).2 = a := by
  obtain ⟨pipeline, state⟩ := e.initPipeline_keeps ch
  simp only [run, initializeEngine]
  by_cases done : e.isInitialized = true
  · rw [if_pos done]
    exact ⟨.refl e, rfl⟩
  · have failed : (e.initPipeline ch).1 ≠ dhAvtSuccess :=
      fun success => early ⟨Bool.not_eq_true _ ▸ done, success⟩
    rw [if_neg done, if_pos failed]
    have kit := e.initPipeline_dhFwkKit ch
    exact ⟨⟨pipeline, kit.trans, (releases_congr pipeline state).mpr⟩, rfl⟩

/-- What an initialization does once the pipeline is set up: the kit is made, and if the
center answers the engine is registered, which a peer is needed for. -/
theorem initializeEngine_asks (ch : InitChoice)
    (asks : e.isInitialized = false ∧ (e.initPipeline ch).1 = dhAvtSuccess) :
    SameBinding e (e.run this a (.initializeEngine ch)).1 ∧
      (e.run this a (.initializeEngine ch)).1.dhFwkKit = true ∧
      (if ch.center = true ∧ ch.callback = true then
        (e.run this a (.initializeEngine ch)).2 =
            (a.registerChannelListener e.sessionName e.peerDevId (some this)).2 ∧
          ((e.run this a (.initializeEngine ch)).1.Releases ↔ e.Releases ∨ e.peerDevId ≠ "")
      else
        (e.run this a (.initializeEngine ch)).2 = a ∧
          ((e.run this a (.initializeEngine ch)).1.Releases ↔ e.Releases)) := by
  obtain ⟨both, same⟩ := e.initialized_keeps ch
  have state := releases_congr both same
  have kit := (e.initPipeline ch).2.initControlCenter_dhFwkKit ch
  have success := (e.initPipeline ch).2.initControlCenter_success_iff ch
  simp only [run, initializeEngine]
  rw [if_neg (by simp [asks.1]), if_neg (not_not.mpr asks.2), both.sessionName, both.peerDevId]
  by_cases answered : ch.center = true ∧ ch.callback = true
  · have registered : (a.registerChannelListener e.sessionName e.peerDevId (some this)).1 =
        dhAvtSuccess ↔ e.peerDevId ≠ "" :=
      registerChannelListener_success_iff e.sessionName_ne_empty
    rw [if_pos answered, if_neg (not_not.mpr (success.mpr answered))]
    by_cases peer : e.peerDevId = ""
    · rw [if_pos (fun h => registered.mp h peer)]
      exact ⟨both, kit, rfl, by simp [state, peer]⟩
    · rw [if_neg (not_not.mpr (registered.mpr peer))]
      refine ⟨⟨both.kind, both.ownerName, rfl⟩, kit, rfl, ?_⟩
      simp [Releases, peer]
  · rw [if_neg answered, if_pos (mt success.mp answered)]
    exact ⟨both, kit, rfl, state⟩

/-- An initialization that the control center does not answer registers nothing. -/
theorem initializeEngine_declined (ch : InitChoice) :
    SameHold e (e.run this a (.initializeEngine { ch with center := false })).1 ∧
      (e.run this a (.initializeEngine { ch with center := false })).2 = a := by
  by_cases asks : e.isInitialized = false ∧
      (e.initPipeline { ch with center := false }).1 = dhAvtSuccess
  · obtain ⟨binding, kit, registered⟩ := e.initializeEngine_asks this a _ asks
    rw [if_neg (by simp)] at registered
    exact ⟨⟨binding, fun _ => kit, registered.2.mpr⟩, registered.1⟩
  · exact e.initializeEngine_early this a _ asks

end Run

end TransEngine

namespace RegisteringEngine
variable {L : Type} {this : L} {callback : Nat} {s t : RegisteringEngine L}

/-- The ids that were given are valid, and only ids that were given have callbacks. -/
structure IdsGiven (s : RegisteringEngine L) : Prop where
  root : baseEngineId ≤ s.center.rootEngineId
  callbacks : ∀ id, s.center.callbackMap.get id ≠ none → id < s.center.rootEngineId
  obtained : ∀ id ∈ s.obtained, baseEngineId ≤ id ∧ id < s.center.rootEngineId

/-- The engine is a listener only for the peer it has, where its release is not cut
short. -/
def ListenersHeld (this : L) (s : RegisteringEngine L) : Prop :=
  ∀ key, s.adapter.listenerMap.get key = some (some this) →
    s.engine.Releases ∧ s.engine.peerDevId ≠ "" ∧
      key = channelKey s.engine.sessionName s.engine.peerDevId

/-- What the engine has registered is under the peer and the id it has now, and its release
is not cut short. -/
structure Held (this : L) (s : RegisteringEngine L) : Prop where
  listeners : s.ListenersHeld this
  callbacks : ∀ id ∈ s.obtained, s.center.callbackMap.get id ≠ none →
    s.engine.Releases ∧ s.engine.dhFwkKit = true ∧ id = s.engineId

/-- The next id has no callback. -/
theorem IdsGiven.unused (ids : s.IdsGiven) :
    s.center.callbackMap.get s.center.rootEngineId = none := by
  by_contra used
  exact absurd (ids.callbacks _ used) (Int.lt_irrefl _)

/-- What becomes of an initialization: the center is not asked, or answers with no id, or
with the next. -/
theorem initializeEngine_cases (this : L) (callback : Nat) (ids : s.IdsGiven)
    (ch : InitChoice) (centerCh : CenterChoice) :
    (¬ s.AsksCenter ch ∧ s.initializeEngine this callback ch centerCh =
        s.runEngine this (.initializeEngine { ch with center := false })) ∨
      (s.AsksCenter ch ∧ ¬ s.center.GivesId centerCh ∧ ∃ center : CenterState,
        center.callbackMap = s.center.callbackMap ∧
        center.rootEngineId = s.center.rootEngineId ∧
        s.initializeEngine this callback ch centerCh =
          { s with engineId := invalidEngineId, center }.runEngine this
            (.initializeEngine { ch with center := false })) ∨
      (s.AsksCenter ch ∧ s.center.GivesId centerCh ∧ ∃ center : CenterState,
        center.callbackMap = (if ch.callback then
          s.center.callbackMap.set s.center.rootEngineId callback else s.center.callbackMap) ∧
        center.rootEngineId = s.center.rootEngineId + 1 ∧
        s.initializeEngine this callback ch centerCh =
          { s with
            engineId := s.center.rootEngineId, center
            obtained := s.center.rootEngineId :: s.obtained }.runEngine this
              (.initializeEngine ch)) := by
  by_cases asks : s.AsksCenter ch
  · right
    simp only [initializeEngine, asks, if_true]
    obtain ⟨center, callbacks, ⟨gives, root, ret, failed, answer⟩ | ⟨gives, root, answer⟩⟩ :=
      s.center.initializeAVCenter_answers centerCh s.engine.kind
    · simp only [answer, failed, ne_eq, not_false_eq_true, if_true]
      exact .inl ⟨trivial, gives, center, callbacks, root, rfl⟩
    · simp only [answer, ne_eq, not_true_eq_false, if_false]
      refine .inr ⟨trivial, gives, ?_⟩
      cases called : ch.callback with
      | false => exact ⟨center, callbacks, root, rfl⟩
      | true =>
          have same : { ch with callback := true } = ch := by rw [← called]
          have valid : center.isInvalidEngineId s.center.rootEngineId = false :=
            CenterState.isInvalidEngineId_eq_false.mpr ⟨ids.root, by omega⟩
          have registered := CenterState.registerCtlCenterCallback_valid valid
            (callbacks ▸ ids.unused) callback
          refine ⟨{ center with
            callbackMap := center.callbackMap.set s.center.rootEngineId callback }, ?_, root, ?_⟩
          · simp only [callbacks, if_true]
          · simp only [registered, decide_true, same]
            rfl
  · exact .inl ⟨asks, by simp only [initializeEngine, asks, if_false]⟩

section Release
variable (reached : Bool) (ch : CenterChoice)

/-- A release that is cut short does nothing. -/
theorem release_idle (idle : ¬ s.engine.Releases) : s.release this reached ch = s := by
  have receiver := not_not.mp idle
  have run : s.engine.run this s.adapter .release = (s.engine, s.adapter) := by
    simp only [TransEngine.run, receiver.1, AVReceiverEngine.release, receiver.2, if_true]
  simp only [release, idle, false_and, if_false, runEngine, run]

/-- Another takes back the listener of the peer, and leaves an engine without a kit. -/
theorem run_release (releases : s.engine.Releases) :
    (∀ key, (s.engine.run this s.adapter .release).2.listenerMap.get key =
        if s.engine.peerDevId ≠ "" ∧ key = channelKey s.engine.sessionName s.engine.peerDevId then
          none
        else s.adapter.listenerMap.get key) ∧
      (s.engine.run this s.adapter .release).1.dhFwkKit = false := by
  have adapter : (s.engine.run this s.adapter .release).2 =
      ((s.adapter.closeSoftbusChannel s.engine.sessionName
        s.engine.peerDevId).2.unRegisterChannelListener s.engine.sessionName
          s.engine.peerDevId).2 ∧
      (s.engine.run this s.adapter .release).1.dhFwkKit = false := by
    simp only [TransEngine.run]
    cases hkind : s.engine.kind with
    | sender => exact ⟨rfl, rfl⟩
    | receiver =>
        have left : s.engine.currentState ≠ .idle := fun idle => releases ⟨hkind, idle⟩
        simp only [AVReceiverEngine.release, left, if_false, and_self]
  refine ⟨?_, adapter.2⟩
  intro key
  rw [adapter.1, get_unRegisterChannelListener s.engine.sessionName_ne_empty,
    listenerMap_closeSoftbusChannel]

theorem get_callbackMap_release (ids : s.IdsGiven) (releases : s.engine.Releases) {id : Int}
    (mem : id ∈ s.obtained) : (s.release this reached ch).center.callbackMap.get id =
      if s.engine.dhFwkKit = true ∧ reached = true ∧ id = s.engineId then none
      else s.center.callbackMap.get id := by
  simp only [release, releases, true_and]
  by_cases called : s.engine.dhFwkKit = true ∧ reached = true
  · rw [if_pos called]
    by_cases own : id = s.engineId
    · obtain ⟨from_, below⟩ := ids.obtained id mem
      have valid : s.center.isInvalidEngineId s.engineId = false :=
        CenterState.isInvalidEngineId_eq_false.mpr ⟨own ▸ from_, own ▸ Int.le_of_lt below⟩
      rw [if_pos ⟨called.1, called.2, own⟩]
      exact (CenterState.get_callbackMap_release ch id).trans (if_pos ⟨valid, own⟩)
    · rw [if_neg (fun h => own h.2.2)]
      exact (CenterState.get_callbackMap_release ch id).trans (if_neg (fun h => own h.2))
  · rw [if_neg called, if_neg (fun h => called ⟨h.1, h.2.1⟩)]
    rfl

theorem obtained_release : (s.release this reached ch).obtained = s.obtained := by
  unfold release
  split <;> rfl

theorem adapter_release :
    (s.release this reached ch).adapter = (s.engine.run this s.adapter .release).2 ∧
      (s.release this reached ch).engine = (s.engine.run this s.adapter .release).1 := by
  unfold release
  split <;> exact ⟨rfl, rfl⟩

end Release

/-- A release leaves nothing exactly if what is registered is held. -/
theorem releasesAll_iff (ids : s.IdsGiven) : s.ReleasesAll this ↔ s.Held this := by
  by_cases releases : s.engine.Releases
  · constructor
    · intro all
      obtain ⟨listeners, callbacks⟩ := all {}
      constructor
      case listeners =>
        intro key hget
        have gone := listeners key
        rw [(adapter_release true {}).1, (run_release releases).1] at gone
        by_cases own : s.engine.peerDevId ≠ "" ∧
            key = channelKey s.engine.sessionName s.engine.peerDevId
        · exact ⟨releases, own⟩
        · rw [if_neg own] at gone
          exact absurd hget gone
      case callbacks =>
        intro id mem registered
        have gone := callbacks id ((obtained_release true {}).symm ▸ mem)
        rw [get_callbackMap_release true {} ids releases mem] at gone
        by_cases own : s.engine.dhFwkKit = true ∧ true = true ∧ id = s.engineId
        · exact ⟨releases, own.1, own.2.2⟩
        · rw [if_neg own] at gone
          exact absurd gone registered
    · intro held ch
      constructor
      · intro key hget
        rw [(adapter_release true ch).1, (run_release releases).1] at hget
        split at hget
        case isTrue => cases hget
        case isFalse other => exact other (held.listeners key hget).2
      · intro id mem
        rw [obtained_release] at mem
        rw [get_callbackMap_release true ch ids releases mem]
        split
        case isTrue => rfl
        case isFalse other =>
          by_contra registered
          obtain ⟨-, kit, own⟩ := held.callbacks id mem registered
          exact other ⟨kit, rfl, own⟩
  · simp only [ReleasesAll, release_idle true _ releases]
    constructor
    · intro all
      obtain ⟨listeners, callbacks⟩ := all {}
      exact ⟨fun key hget => absurd hget (listeners key),
        fun id mem registered => absurd (callbacks id mem) registered⟩
    · intro held _
      refine ⟨fun key hget => releases (held.listeners key hget).1, ?_⟩
      intro id mem
      by_contra registered
      exact releases (held.callbacks id mem registered).1

theorem runEngine_same {o : EngineOp}
    (hold : s.engine.SameHold (s.engine.run this s.adapter o).1)
    (adapter : (s.engine.run this s.adapter o).2 = s.adapter) (center : CenterState) :
    ∃ engine, s.engine.SameHold engine ∧
      { s with center }.runEngine this o = { s with engine, center } :=
  ⟨_, hold, by simp only [runEngine, adapter]⟩

/-- `Start` tells the control center of the peer. -/
theorem start_eq (started reached : Bool) (centerCh : CenterChoice) :
    ∃ engine center, s.engine.SameHold engine ∧
      center.callbackMap = s.center.callbackMap ∧
      center.rootEngineId = s.center.rootEngineId ∧
      s.start this started reached centerCh = { s with engine, center } := by
  have same (channel : Bool) :=
    runEngine_same (s.engine.sameHold_start this s.adapter started channel)
      (by simpa using run_adapter this s.engine s.adapter (.start started channel))
  unfold start
  split
  · obtain ⟨_, _, answer⟩ :=
      s.center.createControlChannel_eq centerCh s.engine.peerDevId s.engineId
    generalize s.center.createControlChannel centerCh s.engineId s.engine.peerDevId = made
      at answer ⊢
    obtain ⟨ret, center⟩ := made
    simp only at answer
    obtain ⟨engine, hold, result⟩ := same (ret = dhAvtSuccess) center
    exact ⟨engine, center, hold, by rw [answer], by rw [answer], result⟩
  · obtain ⟨engine, hold, result⟩ := same false s.center
    exact ⟨engine, s.center, hold, rfl, rfl, result⟩

/-- The other calls and the events register nothing and release nothing. -/
theorem step_cases (this : L) (callback : Nat) (s : RegisteringEngine L) (a : RegisteringAct) :
    (∃ ch reached centerCh, a = .call (.initializeEngine ch) reached centerCh) ∨
      (∃ peerDevId rest socket bind reached centerCh,
        a = .call (.createControlChannel (peerDevId :: rest) socket bind) reached centerCh) ∨
      (∃ reached centerCh, a = .call .release reached centerCh) ∨
      s.KeepsHold this a ∧ ∃ engine center, s.engine.SameHold engine ∧
        center.callbackMap = s.center.callbackMap ∧
        center.rootEngineId = s.center.rootEngineId ∧
        s.step this callback a = { s with engine, center } := by
  cases a with
  | channelEvent event =>
      exact .inr (.inr (.inr ⟨trivial, _, s.center, s.engine.sameHold_onChannelEvent event,
        rfl, rfl, rfl⟩))
  | call o reached centerCh =>
      have adapter := run_adapter this s.engine s.adapter o
      have other (hold : s.engine.SameHold (s.engine.run this s.adapter o).1)
          (adapter : (s.engine.run this s.adapter o).2 = s.adapter) :
          ∃ engine center, s.engine.SameHold engine ∧
            center.callbackMap = s.center.callbackMap ∧
            center.rootEngineId = s.center.rootEngineId ∧
            s.runEngine this o = { s with engine, center } := by
        obtain ⟨engine, hold, result⟩ := runEngine_same hold adapter s.center
        exact ⟨engine, s.center, hold, rfl, rfl, result⟩
      cases o with
      | initializeEngine ch => exact .inl ⟨ch, reached, centerCh, rfl⟩
      | release => exact .inr (.inr (.inl ⟨reached, centerCh, rfl⟩))
      | createControlChannel dstDevIds socket bind =>
          cases dstDevIds with
          | nil => exact .inr (.inr (.inr ⟨trivial, other (.refl _) rfl⟩))
          | cons peerDevId rest =>
              exact .inr (.inl ⟨peerDevId, rest, socket, bind, reached, centerCh, rfl⟩)
      | start started channel =>
          exact .inr (.inr (.inr ⟨trivial, start_eq started reached centerCh⟩))
      | registerCallback callback =>
          exact .inr (.inr (.inr ⟨trivial,
            other (s.engine.sameHold_registerCallback callback) rfl⟩))
      | setEngineReady params prepare =>
          exact .inr (.inr (.inr ⟨trivial,
            other (s.engine.sameHold_setEngineReady params prepare) rfl⟩))
      | setVideoPixelFormat videoFormat =>
          exact .inr (.inr (.inr ⟨trivial, other
            (s.engine.sameHold_setVideoPixelFormat this s.adapter videoFormat)
            (by simpa using adapter)⟩))
      | stop stopped =>
          exact .inr (.inr (.inr ⟨trivial,
            other (s.engine.sameHold_stop this s.adapter stopped) (by simpa using adapter)⟩))
      | pushData buffer pushed =>
          exact .inr (.inr (.inr ⟨trivial, other
            (s.engine.sameHold_pushData this s.adapter buffer pushed) (by simpa using adapter)⟩))
      | handleOutputBuffer buffer taken =>
          exact .inr (.inr (.inr ⟨trivial, other
            (s.engine.sameHold_handleOutputBuffer this s.adapter buffer taken)
            (by simpa using adapter)⟩))

section Steps

theorem Held.listeners_same (held : s.Held this)
    (adapter : t.adapter.listenerMap = s.adapter.listenerMap)
    (binding : SameBinding s.engine t.engine)
    (releases : s.engine.Releases → t.engine.Releases) : t.ListenersHeld this := by
  intro key hget
  rw [adapter] at hget
  obtain ⟨released, named, own⟩ := held.listeners key hget
  rw [binding.sessionName, binding.peerDevId]
  exact ⟨releases released, named, own⟩

/-- Where the engine is registered once more, for the peer it has. -/
theorem Held.listeners_register (held : s.Held this)
    (adapter : t.adapter = (s.adapter.registerChannelListener s.engine.sessionName
      s.engine.peerDevId (some this)).2)
    (binding : SameBinding s.engine t.engine)
    (releases : t.engine.Releases ↔ s.engine.Releases ∨ s.engine.peerDevId ≠ "") :
    t.ListenersHeld this := by
  intro key hget
  rw [adapter, get_registerChannelListener this s.engine.sessionName_ne_empty] at hget
  rw [binding.sessionName, binding.peerDevId, releases]
  split at hget
  case isTrue own => exact ⟨.inr own.1, own⟩
  case isFalse =>
    obtain ⟨released, own⟩ := held.listeners key hget
    exact ⟨.inl released, own⟩

/-- A call that registers nothing and releases nothing. -/
theorem Held.same (held : s.Held this) (hold : TransEngine.SameHold s.engine t.engine)
    (adapter : t.adapter = s.adapter) (engineId : t.engineId = s.engineId)
    (obtained : t.obtained = s.obtained)
    (callbacks : t.center.callbackMap = s.center.callbackMap) : t.Held this where
  listeners := held.listeners_same (congrArg _ adapter) hold.binding hold.releases
  callbacks := by
    intro id mem registered
    rw [obtained] at mem
    rw [callbacks] at registered
    obtain ⟨released, kit, own⟩ := held.callbacks id mem registered
    exact ⟨hold.releases released, hold.dhFwkKit kit, own.trans engineId.symm⟩

/-- With a new id only its own callback can be released. -/
theorem held_newId_iff (given : Prop) (kit : t.engine.dhFwkKit = true)
    (listeners : t.ListenersHeld this) (fresh : ∀ id ∈ s.obtained, id ≠ t.engineId)
    (obtained : ∀ id, id ∈ t.obtained ↔ id ∈ s.obtained ∨ given ∧ id = t.engineId)
    (callbacks : ∀ id ≠ t.engineId, t.center.callbackMap.get id = s.center.callbackMap.get id) :
    t.Held this ↔ s.NoCallback ∧
      (given → t.center.callbackMap.get t.engineId ≠ none → t.engine.Releases) := by
  constructor
  · intro held
    constructor
    · intro id mem
      by_contra registered
      rw [← callbacks id (fresh id mem)] at registered
      exact fresh id mem (held.callbacks id ((obtained id).mpr (.inl mem)) registered).2.2
    · intro given registered
      exact (held.callbacks _ ((obtained _).mpr (.inr ⟨given, rfl⟩)) registered).1
  · rintro ⟨none_, releases⟩
    refine ⟨listeners, ?_⟩
    intro id mem registered
    obtain old | ⟨given, rfl⟩ := (obtained id).mp mem
    · rw [callbacks id (fresh id old)] at registered
      exact absurd (none_ id old) registered
    · exact ⟨releases given registered, kit, rfl⟩

theorem held_release_iff (ids : s.IdsGiven) (held : s.Held this) (reached : Bool)
    (ch : CenterChoice) :
    (s.release this reached ch).Held this ↔ reached = true ∨ s.NoCallback := by
  by_cases releases : s.engine.Releases
  · have kit : (s.release this reached ch).engine.dhFwkKit = false := by
      rw [(adapter_release reached ch).2]
      exact (run_release releases).2
    have callback (id : Int) (mem : id ∈ s.obtained) :
        (s.release this reached ch).center.callbackMap.get id =
          if s.engine.dhFwkKit = true ∧ reached = true ∧ id = s.engineId then none
          else s.center.callbackMap.get id :=
      get_callbackMap_release reached ch ids releases mem
    constructor
    · intro after
      by_cases called : reached = true
      · exact .inl called
      · right
        intro id mem
        by_contra registered
        have stays := callback id mem
        rw [if_neg (fun h => called h.2.1)] at stays
        have known := after.callbacks id (by rwa [obtained_release]) (by rwa [stays])
        rw [kit] at known
        exact absurd known.2.1 (by decide)
    · intro gone
      constructor
      case listeners =>
        intro key hget
        rw [(adapter_release reached ch).1, (run_release releases).1] at hget
        split at hget
        case isTrue => cases hget
        case isFalse other => exact absurd (held.listeners key hget).2 other
      case callbacks =>
        intro id mem registered
        rw [obtained_release] at mem
        rw [callback id mem] at registered
        split at registered
        case isTrue => exact absurd rfl registered
        case isFalse other =>
          obtain ⟨-, made, own⟩ := held.callbacks id mem registered
          obtain called | none_ := gone
          · exact absurd ⟨made, called, own⟩ other
          · exact absurd (none_ id mem) registered
  · rw [release_idle reached ch releases]
    refine iff_of_true held (.inr ?_)
    intro id mem
    by_contra registered
    exact releases (held.callbacks id mem registered).1

/-- The engine is bound to the peer and registered for it. -/
theorem runEngine_createControlChannel (this : L) (s : RegisteringEngine L) (peerDevId : String)
    (rest : List String) (socket : Int) (bind : Bool) :
    (s.runEngine this (.createControlChannel (peerDevId :: rest) socket bind)).engine =
        { s.engine with peerDevId } ∧
      ∀ key, (s.runEngine this
        (.createControlChannel (peerDevId :: rest) socket bind)).adapter.listenerMap.get key =
          if peerDevId ≠ "" ∧ key = channelKey s.engine.sessionName peerDevId then
            some (some this)
          else s.adapter.listenerMap.get key := by
  have registered (key : String) : (s.adapter.registerChannelListener s.engine.sessionName
      peerDevId (some this)).2.listenerMap.get key =
        if peerDevId ≠ "" ∧ key = channelKey s.engine.sessionName peerDevId then
          some (some this)
        else s.adapter.listenerMap.get key :=
    get_registerChannelListener this s.engine.sessionName_ne_empty key
  simp only [runEngine, TransEngine.run]
  obtain heq | ⟨-, heq⟩ :=
    s.engine.createControlChannel_cons this peerDevId rest socket bind s.adapter
  · rw [heq]
    exact ⟨rfl, registered⟩
  · rw [heq]
    refine ⟨rfl, ?_⟩
    intro key
    rw [listenerMap_openSoftbusChannel]
    exact registered key

theorem held_createControlChannel_iff (held : s.Held this) (peerDevId : String)
    (rest : List String) (socket : Int) (bind : Bool) :
    (s.runEngine this (.createControlChannel (peerDevId :: rest) socket bind)).Held this ↔
      (∀ key, s.adapter.listenerMap.get key = some (some this) →
        peerDevId ≠ "" ∧ key = channelKey s.engine.sessionName peerDevId) ∧
      (peerDevId ≠ "" → s.engine.Releases) := by
  obtain ⟨engine, listeners⟩ :=
    runEngine_createControlChannel this s peerDevId rest socket bind
  constructor
  · intro after
    have known (key : String) (hget : (s.runEngine this (.createControlChannel
        (peerDevId :: rest) socket bind)).adapter.listenerMap.get key = some (some this)) :
        s.engine.Releases ∧ peerDevId ≠ "" ∧ key = channelKey s.engine.sessionName peerDevId := by
      have hold := after.listeners key hget
      rwa [engine] at hold
    constructor
    · intro key hget
      refine (known key ?_).2
      rw [listeners, hget, ite_self]
    · intro named
      refine (known (channelKey s.engine.sessionName peerDevId) ?_).1
      rw [listeners, if_pos ⟨named, rfl⟩]
  · rintro ⟨bound, released⟩
    constructor
    case listeners =>
      intro key hget
      rw [listeners] at hget
      rw [engine]
      split at hget
      case isTrue own => exact ⟨released own.1, own⟩
      case isFalse other => exact absurd (bound key hget) other
    case callbacks =>
      intro id mem registered
      rw [engine]
      exact held.callbacks id mem registered

theorem asksCenter_iff (ch : InitChoice) : s.AsksCenter ch ↔
    s.engine.isInitialized = false ∧ s.engine.LinksPipeline ch ∧ ch.center = true := by
  unfold AsksCenter
  rw [s.engine.initPipeline_success_iff ch]

/-- An engine that is given no id can release no callback any more. -/
theorem held_refused_iff (ids : s.IdsGiven) (held : s.Held this) {ch : InitChoice}
    (asks : s.AsksCenter ch) {center : CenterState}
    (callbacks : center.callbackMap = s.center.callbackMap) :
    ({ s with engineId := invalidEngineId, center }.runEngine this
      (.initializeEngine { ch with center := false })).Held this ↔ s.NoCallback := by
  obtain ⟨-, kit, -⟩ := s.engine.initializeEngine_asks this s.adapter { ch with center := false }
    ⟨asks.1, asks.2.1⟩
  obtain ⟨hold, adapter⟩ := s.engine.initializeEngine_declined this s.adapter ch
  refine (held_newId_iff (s := s) False kit
    (held.listeners_same (congrArg _ adapter) hold.binding hold.releases) ?_ ?_ ?_).trans ?_
  case refine_1 =>
    intro id mem
    have given := (ids.obtained id mem).1
    exact (Int.lt_of_lt_of_le (by decide : invalidEngineId < baseEngineId) given).ne'
  case refine_2 => exact fun id => (or_iff_left (fun given => given.1)).symm
  case refine_3 => exact fun id _ => congrArg (fun map => map.get id) callbacks
  case refine_4 => exact and_iff_left False.elim

/-- With a new id the engine can release what is registered under it. -/
theorem held_given_iff (ids : s.IdsGiven) (held : s.Held this) {ch : InitChoice}
    (asks : s.AsksCenter ch) {center : CenterState}
    (callbacks : ∀ id ≠ s.center.rootEngineId,
      center.callbackMap.get id = s.center.callbackMap.get id) :
    ({ s with
        engineId := s.center.rootEngineId, center
        obtained := s.center.rootEngineId :: s.obtained }.runEngine this
      (.initializeEngine ch)).Held this ↔ s.NoCallback ∧
        (center.callbackMap.get s.center.rootEngineId ≠ none →
          (s.engine.run this s.adapter (.initializeEngine ch)).1.Releases) := by
  obtain ⟨binding, kit, registered⟩ := s.engine.initializeEngine_asks this s.adapter ch
    ⟨asks.1, asks.2.1⟩
  refine (held_newId_iff (s := s) True kit ?_ ?_ ?_ callbacks).trans ?_
  case refine_1 =>
    split at registered
    case isTrue => exact held.listeners_register registered.1 binding registered.2
    case isFalse =>
      exact held.listeners_same (congrArg _ registered.1) binding registered.2.mpr
  case refine_2 => exact fun id mem => Int.ne_of_lt (ids.obtained id mem).2
  case refine_3 =>
    intro id
    exact List.mem_cons.trans (or_comm.trans (or_congr_right (true_and _ ▸ Iff.rfl)))
  case refine_4 => exact and_congr_right (fun _ => ⟨fun h => h trivial, fun h _ => h⟩)

theorem held_initializeEngine_iff (ids : s.IdsGiven) (held : s.Held this) (ch : InitChoice)
    (reached : Bool) (centerCh : CenterChoice) :
    (s.initializeEngine this callback ch centerCh).Held this ↔
      s.KeepsHold this (.call (.initializeEngine ch) reached centerCh) := by
  simp only [KeepsHold, ← asksCenter_iff]
  obtain ⟨asks, result⟩ | ⟨asks, gives, center, callbacks, -, result⟩ |
    ⟨asks, gives, center, callbacks, -, result⟩ :=
      initializeEngine_cases this callback ids ch centerCh
  · obtain ⟨hold, adapter⟩ := s.engine.initializeEngine_declined this s.adapter ch
    refine iff_of_true ?_ (fun asked => absurd asked asks)
    rw [result]
    exact held.same hold adapter rfl rfl rfl
  · rw [result, held_refused_iff ids held asks callbacks]
    exact ⟨fun none_ _ => ⟨none_, fun given => absurd given gives⟩, fun keeps => (keeps asks).1⟩
  · have others (id : Int) (other : id ≠ s.center.rootEngineId) :
        center.callbackMap.get id = s.center.callbackMap.get id := by
      rw [callbacks]
      split
      · rw [Store.get_set, if_neg other]
      · rfl
    have own : center.callbackMap.get s.center.rootEngineId ≠ none ↔ ch.callback = true := by
      rw [callbacks]
      split
      case isTrue called => simp [called]
      case isFalse silent => simp [silent, ids.unused]
    rw [result, held_given_iff ids held asks others, own]
    have registered (called : ch.callback = true) :
        (s.engine.run this s.adapter (.initializeEngine ch)).1.Releases ↔
          s.engine.Releases ∨ s.engine.peerDevId ≠ "" := by
      obtain ⟨-, -, registered⟩ := s.engine.initializeEngine_asks this s.adapter ch
        ⟨asks.1, asks.2.1⟩
      rw [if_pos ⟨asks.2.2, called⟩] at registered
      exact registered.2
    constructor
    · rintro ⟨none_, releases⟩ _
      exact ⟨none_, fun _ called => (registered called).mp (releases called)⟩
    · intro keeps
      obtain ⟨none_, releases⟩ := keeps asks
      exact ⟨none_, fun called => (registered called).mpr (releases gives called)⟩

/-- One call keeps what is registered within reach exactly under its condition. -/
theorem held_step_iff (ids : s.IdsGiven) (held : s.Held this) (a : RegisteringAct) :
    (s.step this callback a).Held this ↔ s.KeepsHold this a := by
  obtain ⟨ch, reached, centerCh, rfl⟩ | ⟨peerDevId, rest, socket, bind, reached, centerCh, rfl⟩ |
    ⟨reached, centerCh, rfl⟩ | ⟨keeps, engine, center, hold, callbacks, -, result⟩ :=
      step_cases this callback s a
  · exact held_initializeEngine_iff ids held ch reached centerCh
  · exact held_createControlChannel_iff held peerDevId rest socket bind
  · exact held_release_iff ids held reached centerCh
  · rw [result]
    exact iff_of_true (held.same hold rfl rfl rfl callbacks) keeps

end Steps

theorem Fresh.idsGiven (fresh : s.Fresh this) : s.IdsGiven where
  root := fresh.root
  callbacks := fresh.callbacks
  obtained := by simp [fresh.obtained]

theorem Fresh.held (fresh : s.Fresh this) : s.Held this where
  listeners := fun key hget => absurd hget (fresh.unregistered key)
  callbacks := by simp [fresh.obtained]

/-- Where the counter does not go back, and only ids that were given are obtained or get
a callback. -/
theorem IdsGiven.later (ids : s.IdsGiven)
    (root : s.center.rootEngineId ≤ t.center.rootEngineId)
    (callbacks : ∀ id, t.center.callbackMap.get id ≠ none →
      s.center.callbackMap.get id ≠ none ∨ id < t.center.rootEngineId)
    (obtained : ∀ id ∈ t.obtained, id ∈ s.obtained ∨
      id = s.center.rootEngineId ∧ id < t.center.rootEngineId) : t.IdsGiven where
  root := ids.root.trans root
  callbacks := by
    intro id registered
    obtain old | below := callbacks id registered
    · exact Int.lt_of_lt_of_le (ids.callbacks id old) root
    · exact below
  obtained := by
    intro id mem
    obtain old | ⟨rfl, below⟩ := obtained id mem
    · obtain ⟨from_, below⟩ := ids.obtained id old
      exact ⟨from_, Int.lt_of_lt_of_le below root⟩
    · exact ⟨ids.root, below⟩

theorem idsGiven_initializeEngine (ids : s.IdsGiven) (ch : InitChoice)
    (centerCh : CenterChoice) : (s.initializeEngine this callback ch centerCh).IdsGiven := by
  obtain ⟨-, result⟩ | ⟨-, -, center, callbacks, root, result⟩ |
    ⟨-, -, center, callbacks, root, result⟩ :=
      initializeEngine_cases this callback ids ch centerCh
  · rw [result]
    exact ⟨ids.root, ids.callbacks, ids.obtained⟩
  · rw [result]
    exact ids.later root.ge (fun id registered => .inl (callbacks ▸ registered))
      (fun id mem => .inl mem)
  · have next : s.center.rootEngineId < center.rootEngineId := by omega
    rw [result]
    refine ids.later (Int.le_of_lt next) ?_ ?_
    · intro id registered
      by_cases own : id = s.center.rootEngineId
      · exact .inr (own ▸ next)
      · left
        have known : center.callbackMap.get id ≠ none := registered
        rw [callbacks] at known
        split at known
        · rwa [Store.get_set, if_neg own] at known
        · exact known
    · intro id mem
      obtain rfl | old := List.mem_cons.mp mem
      · exact .inr ⟨rfl, next⟩
      · exact .inl old

theorem idsGiven_release (ids : s.IdsGiven) (reached : Bool) (ch : CenterChoice) :
    (s.release this reached ch).IdsGiven := by
  unfold release
  split
  · refine ids.later (CenterState.rootEngineId_releaseAVCenter _ ch _).ge ?_
      (fun id mem => .inl mem)
    intro id registered
    have known : (s.center.releaseAVCenter ch s.engineId).2.callbackMap.get id ≠ none :=
      registered
    rw [CenterState.get_callbackMap_release] at known
    split at known
    · exact absurd rfl known
    · exact .inl known
  · exact ⟨ids.root, ids.callbacks, ids.obtained⟩

/-- Only an id that is given anew is obtained or gets a callback. -/
theorem idsGiven_step (ids : s.IdsGiven) (a : RegisteringAct) :
    (s.step this callback a).IdsGiven := by
  obtain ⟨ch, reached, centerCh, rfl⟩ | ⟨peerDevId, rest, socket, bind, reached, centerCh, rfl⟩ |
    ⟨reached, centerCh, rfl⟩ | ⟨-, engine, center, -, callbacks, root, result⟩ :=
      step_cases this callback s a
  · exact idsGiven_initializeEngine ids ch centerCh
  · exact ⟨ids.root, ids.callbacks, ids.obtained⟩
  · exact idsGiven_release ids reached centerCh
  · rw [result]
    exact ids.later root.ge (fun id registered => .inl (callbacks ▸ registered))
      (fun id mem => .inl mem)

end RegisteringEngine

section Runs
variable {L : Type} {this : L} {callback : Nat} {s : RegisteringEngine L}

theorem RegisteringEngine.idsGiven_of_reachable
    (reach : (registeringSystem this callback).Reachable s) : s.IdsGiven := by
  refine reach.invariant ?_ ?_
  · intro s fresh
    exact RegisteringEngine.Fresh.idsGiven fresh
  intro s a t ids hs
  obtain rfl := Option.some.inj hs
  exact RegisteringEngine.idsGiven_step ids a

/-- A release leaves nothing behind at any point of exactly the runs whose calls keep what
is registered within its reach. -/
theorem releases_all_iff {acts : List RegisteringAct} :
    (registeringSystem this callback).RunIn (fun s => s.ReleasesAll this) acts s ↔
      (registeringSystem this callback).Run (fun s a => s.KeepsHold this a) acts s := by
  refine TransitionSystem.runIn_iff_run ?_ ?_
  · intro s fresh
    exact (RegisteringEngine.releasesAll_iff fresh.idsGiven).mpr fresh.held
  · intro s a t reach good hs
    obtain rfl := Option.some.inj hs
    have ids := RegisteringEngine.idsGiven_of_reachable reach
    have held := (RegisteringEngine.releasesAll_iff ids).mp good
    rw [RegisteringEngine.releasesAll_iff (RegisteringEngine.idsGiven_step ids a)]
    exact RegisteringEngine.held_step_iff ids held a

private def made (kind : EngineKind) (peerDevId : String) : RegisteringEngine Unit where
  engine := { kind, ownerName := ownerNameDMic, peerDevId }
  adapter := {}
  center := {}

private theorem fresh_made (kind : EngineKind) (peerDevId : String) :
    (made kind peerDevId).Fresh () where
  engine := ⟨kind, _, peerDevId, rfl⟩
  engineId := rfl
  obtained := rfl
  unregistered := fun _ => nofun
  root := Int.le_refl _
  callbacks := fun _ given => absurd rfl given

/-- What is left: the first listener of a sender that was bound to another peer, the listener
of a receiver that was bound before its initialization, and the callback of a receiver that
was initialized without a peer. -/
theorem exists_release_leaves_behind :
    (∃ s, (registeringSystem () 7).Reachable s ∧ ¬ s.ReleasesAll () ∧ s.engine.kind = .sender ∧
      (s.release () true {}).adapter.listenerMap.get
        (channelKey s.engine.sessionName "peerA") = some (some ())) ∧
    (∃ s, (registeringSystem () 7).Reachable s ∧ ¬ s.ReleasesAll () ∧ s.engine.kind = .receiver ∧
      (s.release () true {}).adapter.listenerMap.get
        (channelKey s.engine.sessionName "peerA") = some (some ())) ∧
    ∃ s, (registeringSystem () 7).Reachable s ∧ ¬ s.ReleasesAll () ∧ s.engine.kind = .receiver ∧
      s.obtained = [baseEngineId] ∧
      (s.release () true {}).center.callbackMap.get baseEngineId = some 7 := by
  have bound : ∃ s ∈ (registeringSystem () 7).replay (fun _ _ => True) (made .sender "peerA")
      [.call (.initializeEngine {}) true {},
        .call (.createControlChannel ["peerB"] 1 true) true {}],
      s.engine.kind = .sender ∧ (s.release () true {}).adapter.listenerMap.get
        (channelKey s.engine.sessionName "peerA") = some (some ()) := by
    decide +kernel
  have early : ∃ s ∈ (registeringSystem () 7).replay (fun _ _ => True) (made .receiver "")
      [.call (.createControlChannel ["peerA"] 1 true) true {}],
      s.engine.kind = .receiver ∧ (s.release () true {}).adapter.listenerMap.get
        (channelKey s.engine.sessionName "peerA") = some (some ()) := by
    decide +kernel
  have peerless : ∃ s ∈ (registeringSystem () 7).replay (fun _ _ => True) (made .receiver "")
      [.call (.initializeEngine {}) true {}],
      s.engine.kind = .receiver ∧ s.obtained = [baseEngineId] ∧
        (s.release () true {}).center.callbackMap.get baseEngineId = some 7 := by
    decide +kernel
  have reached {kind : EngineKind} {peerDevId : String} {acts : List RegisteringAct}
      {s : RegisteringEngine Unit}
      (hs : (registeringSystem () 7).replay (fun _ _ => True) (made kind peerDevId) acts = some s) :
      (registeringSystem () 7).Reachable s :=
    (TransitionSystem.run_of_replay (fresh_made kind peerDevId) hs).reachable
  obtain ⟨s, hs, sender, listener⟩ := bound
  obtain ⟨r, hr, receiver, listener'⟩ := early
  obtain ⟨t, ht, receiver', given, registered⟩ := peerless
  refine ⟨⟨s, reached hs, ?_, sender, listener⟩, ⟨r, reached hr, ?_, receiver, listener'⟩,
    t, reached ht, ?_, receiver', given, registered⟩
  · exact fun all => (all {}).1 _ listener
  · exact fun all => (all {}).1 _ listener'
  · intro all
    have mem : baseEngineId ∈ (t.release () true {}).obtained := by
      rw [RegisteringEngine.obtained_release, given]
      exact .head _
    have gone := (all {}).2 baseEngineId mem
    rw [registered] at gone
    cases gone

end Runs

end DistributedHardware
