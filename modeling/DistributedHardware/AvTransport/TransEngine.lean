import DistributedHardware.AvTransport.SoftbusAdapter
import DistributedHardware.AvTransport.SyncManager

/-!
`AVSenderEngine` and `AVReceiverEngine`.

The two have the same members and differ in a few calls. Of the filters and the pipeline
the state holds whether the pointers are null; what they answer is an argument, and so is
what the framework kit answers. What an engine hands to its callback is not kept.
-/

namespace DistributedHardware

def errDhAvtInitFailed : Int := -80002
def errDhAvtStartFailed : Int := -80003
def errDhAvtStopFailed : Int := -80004
def errDhAvtSetupFailed : Int := -80006
def errDhAvtPushDataFailed : Int := -80007
def errDhAvtOutputDataFailed : Int := -80015
def errDhAvtCtrlCenterInitFail : Int := -80020
def errDhAvtRegisterCallbackFail : Int := -80021
def errDhAvtInvalidOperation : Int := -81002
def errDhAvtNullPointer : Int := -81010
def errDhAvtPrepareFailed : Int := -81013
def errDhAvtSetParamFailed : Int := -81014

def sceneTypeDCameraPic : String := "dcamera_picture"
def videoFormatJepg : String := "jpeg"

inductive StateId
  | idle | initialized | chCreated | started | playing | stopped
  deriving DecidableEq

inductive EngineKind
  | sender | receiver
  deriving DecidableEq

def EngineKind.suffix : EngineKind → String
  | .sender => senderControlSessionNameSuffix
  | .receiver => receiverControlSessionNameSuffix

def EngineKind.peerSuffix : EngineKind → String
  | .sender => receiverControlSessionNameSuffix
  | .receiver => senderControlSessionNameSuffix

/-- What the framework is told of the streams of an engine. -/
inductive StreamNotice
  | addStream (stream : AVStreamInfo)
  | removeStream (stream : AVStreamInfo)
  deriving DecidableEq

/-- The answers while an engine is initialized: each filter, linking them, and the two
calls on the control center. `videoFormat` is what a new input filter has. -/
structure InitChoice where
  avInput : Bool := true
  avOutput : Bool := true
  videoCodec : Bool := true
  audioCodec : Bool := true
  linked : Bool := true
  center : Bool := true
  callback : Bool := true
  videoFormat : String := ""

structure TransEngine where
  kind : EngineKind
  ownerName : String
  peerDevId : String
  currentState : StateId := .idle
  isInitialized : Bool := false
  avInput : Bool := false
  avOutput : Bool := false
  pipeline : Bool := false
  dhFwkKit : Bool := false
  /-- `senderCallback_` or `receiverCallback_`. -/
  callback : Bool := false
  /-- What the input filter answers when it is asked for the pixel format. -/
  videoFormat : String := ""
  deriving DecidableEq

namespace TransEngine
variable {L : Type} (e : TransEngine)

def sessionName : String := e.ownerName ++ "_" ++ e.kind.suffix

def peerSessName : String := e.ownerName ++ "_" ++ e.kind.peerSuffix

/-- The owners whose filters are linked. -/
def supportedOwners : List String :=
  [ownerNameDScreen, ownerNameDCamera, ownerNameDMic, ownerNameDSpeaker, ownerNameDVirmodemMic,
    ownerNameDVirmodemSpeaker]

def initPipeline (ch : InitChoice) : Int × TransEngine :=
  let e := { e with avInput := ch.avInput, videoFormat := ch.videoFormat }
  if !ch.avInput then (errDhAvtNullPointer, e)
  else
    let e := { e with avOutput := ch.avOutput }
    if !ch.avOutput then (errDhAvtNullPointer, e)
    else if !ch.videoCodec then (errDhAvtNullPointer, e)
    else if !ch.audioCodec then (errDhAvtNullPointer, e)
    else
      let e := { e with pipeline := true }
      if e.ownerName ∉ supportedOwners then (errDhAvtInvalidParamValue, e)
      else (if ch.linked then dhAvtSuccess else errDhAvtInvalidOperation, e)

def initControlCenter (ch : InitChoice) : Int × TransEngine :=
  let e := { e with dhFwkKit := true }
  if !ch.center then (errDhAvtCtrlCenterInitFail, e)
  else if !ch.callback then (errDhAvtRegisterCallbackFail, e)
  else (dhAvtSuccess, e)

/-- `Initialize`. -/
def initializeEngine (this : L) (ch : InitChoice) (a : SoftbusAdapter L) :
    Int × TransEngine × SoftbusAdapter L :=
  if e.isInitialized then (dhAvtSuccess, e, a)
  else
    let (ret, e) := e.initPipeline ch
    if ret ≠ dhAvtSuccess then (errDhAvtInitFailed, e, a)
    else
      let (ret, e) := e.initControlCenter ch
      if ret ≠ dhAvtSuccess then (errDhAvtInitFailed, e, a)
      else
        let (ret, a) := a.registerChannelListener e.sessionName e.peerDevId (some this)
        if ret ≠ dhAvtSuccess then (errDhAvtInitFailed, e, a)
        else (dhAvtSuccess, { e with isInitialized := true, currentState := .initialized }, a)

/-- The engine is bound to the first device, and waits for its channel. -/
def createControlChannel (this : L) (dstDevIds : List String) (socket : Int) (bind : Bool)
    (a : SoftbusAdapter L) : Int × TransEngine × SoftbusAdapter L :=
  match dstDevIds with
  | [] => (errDhAvtNullPointer, e, a)
  | peerDevId :: _ =>
      let bound := { e with peerDevId }
      let (ret, a) := a.registerChannelListener e.sessionName peerDevId (some this)
      if ret ≠ dhAvtSuccess then (errDhAvtCreateChannelFailed, bound, a)
      else
        let (ret, a) := a.openSoftbusChannel e.sessionName e.peerSessName peerDevId socket bind
        if ret = errDhAvtSessionHasOpened then (errDhAvtChannelAlreadyCreated, bound, a)
        else if ret ≠ dhAvtSuccess then (errDhAvtCreateChannelFailed, bound, a)
        else (dhAvtSuccess, bound, a)

/-- `params` says whether the filters take their parameters. -/
def preparePipeline (params prepare : Bool) : Int × TransEngine :=
  if e.currentState ≠ .initialized ∧ e.currentState ≠ .chCreated then (errDhAvtPrepareFailed, e)
  else if !e.avInput || !e.avOutput then (errDhAvtPrepareFailed, e)
  else if !params then (errDhAvtSetParamFailed, e)
  else if !prepare then (errDhAvtPrepareFailed, e)
  else (dhAvtSuccess, { e with currentState := .chCreated })

/-- `SetParameter` with `ENGINE_READY`. What the preparation returns is only logged. -/
def setEngineReady (params prepare : Bool) : Int × TransEngine :=
  if !e.avInput || !e.avOutput || !e.pipeline then (errDhAvtSetupFailed, e)
  else (dhAvtSuccess, (e.preparePipeline params prepare).2)

/-- `RegisterSenderCallback` and `RegisterReceiverCallback`. -/
def registerCallback (callback : Bool) : Int × TransEngine :=
  if !callback then (errDhAvtInvalidParam, e) else (dhAvtSuccess, { e with callback := true })

def onChannelEvent (event : AVTransEvent) : TransEngine :=
  if !e.callback then e
  else
    match event.type with
    | .channelOpened => { e with currentState := .chCreated }
    | .channelOpenFail => { e with currentState := .initialized }
    | .channelClosed =>
        if e.currentState ≠ .idle ∧ e.currentState ≠ .initialized then
          { e with currentState := .initialized }
        else e
    | .dataReceived => e
    | _ => e

/-- `SetParameter` with `VIDEO_PIXEL_FORMAT`, after which the input filter answers with
`videoFormat`. -/
def setVideoPixelFormat (videoFormat : String) : Int × TransEngine :=
  if !e.avInput || !e.avOutput || !e.pipeline then (errDhAvtSetupFailed, e)
  else (dhAvtSuccess, { e with videoFormat })

/-- The scene of an owner's streams; the camera's depends on the pixel format. -/
def sceneOf (ownerName videoFormat : String) : Option String :=
  if ownerName = ownerNameDMic then some sceneTypeDMic
  else if ownerName = ownerNameDSpeaker then some sceneTypeDSpeaker
  else if ownerName = ownerNameDScreen then some sceneTypeDScreen
  else if ownerName = ownerNameDCamera then
    some (if videoFormat = videoFormatJepg then sceneTypeDCameraPic else sceneTypeDCameraStr)
  else none

/-- The scene and the peer of the engine. -/
def stream : Option AVStreamInfo :=
  (sceneOf e.ownerName e.videoFormat).map (fun sceneType =>
    { sceneType, peerDevId := e.peerDevId })

/-- `NotifyStreamChange` asks the camera's input filter, and calls the kit. -/
def notifies : Bool := (e.ownerName ≠ ownerNameDCamera || e.avInput) && e.dhFwkKit

/-- The stream of which `NotifyStreamChange` tells the control center, where it does. -/
def notifiedStream : Option AVStreamInfo := if e.notifies then e.stream else none

end TransEngine

namespace AVSenderEngine
variable {L : Type} (e : TransEngine)

/-- `channel` is what the kit's `CreateControlChannel` returns. -/
def start (started channel : Bool) : Int × TransEngine :=
  if e.currentState ≠ .chCreated then (errDhAvtStartFailed, e)
  else if !e.pipeline then (errDhAvtStartFailed, e)
  else if !started then (errDhAvtStartFailed, e)
  else if e.dhFwkKit && !channel then (errDhAvtCreateChannelFailed, e)
  else (dhAvtSuccess, { e with currentState := .started })

def stop (stopped : Bool) : Int × TransEngine × Option StreamNotice :=
  if !e.pipeline then (errDhAvtStopFailed, e, none)
  else if !stopped then (errDhAvtStopFailed, e, none)
  else
    let e := { e with currentState := .stopped }
    (dhAvtSuccess, e, e.notifiedStream.map StreamNotice.removeStream)

def release (a : SoftbusAdapter L) : Int × TransEngine × SoftbusAdapter L :=
  let (_, a) := a.closeSoftbusChannel e.sessionName e.peerDevId
  let (_, a) := a.unRegisterChannelListener e.sessionName e.peerDevId
  (dhAvtSuccess,
    { e with
      isInitialized := false, pipeline := false, dhFwkKit := false, avInput := false
      avOutput := false, callback := false, currentState := .idle }, a)

/-- `buffer` and `pushed` say whether the data can be converted and the filter takes it. -/
def pushData (buffer pushed : Bool) : Int × TransEngine × Option StreamNotice :=
  if e.currentState ≠ .started ∧ e.currentState ≠ .playing then (errDhAvtPushDataFailed, e, none)
  else
    let notice :=
      if e.currentState = .started then
        e.notifiedStream.map StreamNotice.addStream
      else none
    if !e.avInput then (errDhAvtPushDataFailed, e, notice)
    else if !buffer then (errDhAvtPushDataFailed, e, notice)
    else if !pushed then (errDhAvtPushDataFailed, e, notice)
    else (dhAvtSuccess, { e with currentState := .playing }, notice)

end AVSenderEngine

namespace AVReceiverEngine
variable {L : Type} (e : TransEngine)

def start (started : Bool) : Int × TransEngine :=
  if e.currentState ≠ .chCreated then (errDhAvtStartFailed, e)
  else if !e.pipeline then (errDhAvtStartFailed, e)
  else if !started then (errDhAvtStartFailed, e)
  else (dhAvtSuccess, { e with currentState := .started })

def stop (stopped : Bool) : Int × TransEngine :=
  if !e.pipeline then (errDhAvtStartFailed, e)
  else if !stopped then (errDhAvtStopFailed, e)
  else (dhAvtSuccess, { e with currentState := .stopped })

/-- The callback stays. -/
def release (a : SoftbusAdapter L) : Int × TransEngine × SoftbusAdapter L :=
  if e.currentState = .idle then (dhAvtSuccess, e, a)
  else
    let (_, a) := a.closeSoftbusChannel e.sessionName e.peerDevId
    let (_, a) := a.unRegisterChannelListener e.sessionName e.peerDevId
    (dhAvtSuccess,
      { e with
        isInitialized := false, pipeline := false, dhFwkKit := false, avInput := false
        avOutput := false, currentState := .idle }, a)

/-- `buffer` says whether the data can be converted, `taken` is what the callback
returns. -/
def handleOutputBuffer (buffer : Bool) (taken : Int) : Int × TransEngine :=
  if e.currentState ≠ .started ∧ e.currentState ≠ .playing then (errDhAvtOutputDataFailed, e)
  else if !buffer then (errDhAvtOutputDataFailed, e)
  else
    let e := { e with currentState := .playing }
    if !e.callback then (errDhAvtOutputDataFailed, e) else (taken, e)

end AVReceiverEngine

/-- One engine, bound to one peer, before and after a call. -/
structure SameBinding (e e' : TransEngine) : Prop where
  kind : e'.kind = e.kind
  ownerName : e'.ownerName = e.ownerName
  peerDevId : e'.peerDevId = e.peerDevId

theorem SameBinding.sessionName {e e' : TransEngine} (same : SameBinding e e') :
    e'.sessionName = e.sessionName := by
  rw [TransEngine.sessionName, TransEngine.sessionName, same.ownerName, same.kind]

theorem SameBinding.refl (e : TransEngine) : SameBinding e e := ⟨rfl, rfl, rfl⟩

namespace TransEngine
variable {L : Type} (e : TransEngine)

theorem initPipeline_keeps (ch : InitChoice) :
    SameBinding e (e.initPipeline ch).2 ∧
      (e.initPipeline ch).2.currentState = e.currentState := by
  unfold initPipeline
  dsimp only
  split_ifs <;> exact ⟨⟨rfl, rfl, rfl⟩, rfl⟩

theorem initControlCenter_keeps (ch : InitChoice) :
    SameBinding e (e.initControlCenter ch).2 ∧
      (e.initControlCenter ch).2.currentState = e.currentState := by
  unfold initControlCenter
  dsimp only
  split_ifs <;> exact ⟨⟨rfl, rfl, rfl⟩, rfl⟩

/-- What comes before the registration keeps the peer and the state. -/
theorem initialized_keeps (ch : InitChoice) :
    SameBinding e ((e.initPipeline ch).2.initControlCenter ch).2 ∧
      ((e.initPipeline ch).2.initControlCenter ch).2.currentState = e.currentState := by
  obtain ⟨pipeline, pipelineState⟩ := e.initPipeline_keeps ch
  obtain ⟨center, centerState⟩ := (e.initPipeline ch).2.initControlCenter_keeps ch
  refine ⟨?_, centerState.trans pipelineState⟩
  exact ⟨center.kind.trans pipeline.kind, center.ownerName.trans pipeline.ownerName,
    center.peerDevId.trans pipeline.peerDevId⟩

/-- Initializing keeps the peer and, unless it is done anew, the state. -/
theorem initializeEngine_spec (this : L) (ch : InitChoice) (a : SoftbusAdapter L) :
    SameBinding e (e.initializeEngine this ch a).2.1 ∧
      ((e.initializeEngine this ch a).2.1.currentState = e.currentState ∨
        e.isInitialized = false ∧
          (e.initializeEngine this ch a).2.1.currentState = .initialized) ∧
      ((e.initializeEngine this ch a).2.2 = a ∨
        (e.initializeEngine this ch a).2.2 =
          (a.registerChannelListener e.sessionName e.peerDevId (some this)).2) := by
  obtain ⟨pipeline, pipelineState⟩ := e.initPipeline_keeps ch
  obtain ⟨both, state⟩ := e.initialized_keeps ch
  unfold initializeEngine
  dsimp only
  rw [both.sessionName, both.peerDevId]
  split_ifs with done
  · exact ⟨.refl e, .inl rfl, .inl rfl⟩
  · exact ⟨pipeline, .inl pipelineState, .inl rfl⟩
  · exact ⟨both, .inl state, .inl rfl⟩
  · exact ⟨both, .inl state, .inr rfl⟩
  · exact ⟨⟨both.kind, both.ownerName, rfl⟩, .inr ⟨Bool.eq_false_iff.mpr done, rfl⟩, .inr rfl⟩

/-- An initialization gives the engine a new input filter. -/
theorem initializeEngine_videoFormat (this : L) (ch : InitChoice) (a : SoftbusAdapter L) :
    (e.initializeEngine this ch a).2.1.videoFormat =
      if e.isInitialized then e.videoFormat else ch.videoFormat := by
  have pipeline (e : TransEngine) : (e.initPipeline ch).2.videoFormat = ch.videoFormat := by
    unfold initPipeline
    dsimp only
    split_ifs <;> rfl
  have center (e : TransEngine) : (e.initControlCenter ch).2.videoFormat = e.videoFormat := by
    unfold initControlCenter
    dsimp only
    split_ifs <;> rfl
  unfold initializeEngine
  dsimp only
  split_ifs
  · rfl
  · exact pipeline e
  · exact (center _).trans (pipeline e)
  · exact (center _).trans (pipeline e)
  · exact (center _).trans (pipeline e)

/-- The engine is bound to the first device and registered for it; nothing else changes of
it. -/
theorem createControlChannel_cons (this : L) (peerDevId : String) (rest : List String)
    (socket : Int) (bind : Bool) (a : SoftbusAdapter L) :
    (e.createControlChannel this (peerDevId :: rest) socket bind a).2 =
        ({ e with peerDevId }, (a.registerChannelListener e.sessionName peerDevId (some this)).2) ∨
      peerDevId ≠ "" ∧
        (e.createControlChannel this (peerDevId :: rest) socket bind a).2 =
          ({ e with peerDevId },
            ((a.registerChannelListener e.sessionName peerDevId (some this)).2.openSoftbusChannel
              e.sessionName e.peerSessName peerDevId socket bind).2) := by
  by_cases failed :
      (a.registerChannelListener e.sessionName peerDevId (some this)).1 ≠ dhAvtSuccess
  · left
    unfold createControlChannel
    exact congrArg Prod.snd (if_pos failed)
  · right
    constructor
    · rintro rfl
      have refused : (a.registerChannelListener e.sessionName "" (some this)).1 =
          errDhAvtInvalidParam := by
        unfold SoftbusAdapter.registerChannelListener
        rw [if_pos rfl, ite_self]
      rw [refused] at failed
      exact failed (by decide)
    · unfold createControlChannel
      dsimp only
      rw [if_neg failed]
      split_ifs <;> rfl

/-- An event changes the state only. -/
theorem onChannelEvent_keeps (event : AVTransEvent) : SameBinding e (e.onChannelEvent event) := by
  unfold onChannelEvent
  split
  · exact .refl e
  · split
    · exact ⟨rfl, rfl, rfl⟩
    · exact ⟨rfl, rfl, rfl⟩
    · split
      · exact ⟨rfl, rfl, rfl⟩
      · exact .refl e
    · exact .refl e
    · exact .refl e

/-- The pixel format is set where there are filters. -/
theorem setVideoPixelFormat_cases (videoFormat : String) :
    (e.avInput = true ∧ e.avOutput = true ∧ e.pipeline = true) ∧
        e.setVideoPixelFormat videoFormat = (dhAvtSuccess, { e with videoFormat }) ∨
      ¬ (e.avInput = true ∧ e.avOutput = true ∧ e.pipeline = true) ∧
        e.setVideoPixelFormat videoFormat = (errDhAvtSetupFailed, e) := by
  unfold setVideoPixelFormat
  cases e.avInput <;> cases e.avOutput <;> cases e.pipeline <;> simp

/-- The path of `PushData` and `HandleOutputBuffer` is enabled. -/
def Enabled : Prop := e.currentState = .started ∨ e.currentState = .playing

instance : Decidable e.Enabled := inferInstanceAs (Decidable (_ ∨ _))

end TransEngine

namespace AVSenderEngine
variable (e : TransEngine)

/-- `Start` succeeds. -/
def Starts (started channel : Bool) : Prop :=
  e.currentState = .chCreated ∧ e.pipeline = true ∧ started = true ∧
    (e.dhFwkKit = true → channel = true)

/-- A start that succeeds lets the engine be started; another leaves it. -/
theorem start_cases (started channel : Bool) :
    Starts e started channel ∧
        start e started channel =
          (dhAvtSuccess, { e with currentState := .started }) ∨
      ¬ Starts e started channel ∧
        (start e started channel).1 ≠ dhAvtSuccess ∧
        (start e started channel).2 = e := by
  have startFailed : errDhAvtStartFailed ≠ dhAvtSuccess := by decide
  have channelFailed : errDhAvtCreateChannelFailed ≠ dhAvtSuccess := by decide
  unfold start Starts
  split_ifs with state pipeline notStarted noChannel
  · exact .inr ⟨fun h => state h.1, startFailed, rfl⟩
  · exact .inr ⟨fun h => by simp [h.2.1] at pipeline, startFailed, rfl⟩
  · exact .inr ⟨fun h => by simp [h.2.2.1] at notStarted, startFailed, rfl⟩
  · simp only [Bool.and_eq_true, Bool.not_eq_true'] at noChannel
    exact .inr ⟨fun h => by simp [h.2.2.2 noChannel.1] at noChannel, channelFailed, rfl⟩
  · left
    simp_all

/-- A stop that succeeds tells of it. -/
theorem stop_cases (stopped : Bool) :
    (e.pipeline = true ∧ stopped = true) ∧
        stop e stopped =
          (dhAvtSuccess, { e with currentState := .stopped },
            e.notifiedStream.map StreamNotice.removeStream) ∨
      ¬ (e.pipeline = true ∧ stopped = true) ∧
        (stop e stopped).1 ≠ dhAvtSuccess ∧
        (stop e stopped).2 = (e, none) := by
  have failed : errDhAvtStopFailed ≠ dhAvtSuccess := by decide
  unfold stop
  split_ifs with pipeline notStopped
  · exact .inr ⟨fun h => by simp [h.1] at pipeline, failed, rfl⟩
  · exact .inr ⟨fun h => by simp [h.2] at notStopped, failed, rfl⟩
  · simp only [Bool.not_eq_true, Bool.not_eq_false'] at pipeline notStopped
    exact .inl ⟨⟨pipeline, notStopped⟩, rfl⟩

/-- A push is refused, or its first one is told of, and lets the engine play if the filter
takes it. -/
theorem pushData_cases (buffer pushed : Bool) :
    ¬ e.Enabled ∧ pushData e buffer pushed = (errDhAvtPushDataFailed, e, none) ∨
      e.Enabled ∧
        pushData e buffer pushed =
          (if e.avInput && buffer && pushed then dhAvtSuccess else errDhAvtPushDataFailed,
            if e.avInput && buffer && pushed then { e with currentState := .playing } else e,
            if e.currentState = .started then e.notifiedStream.map StreamNotice.addStream
            else none) := by
  unfold pushData
  by_cases enabled : e.Enabled
  · have accepted : ¬ (e.currentState ≠ .started ∧ e.currentState ≠ .playing) := by
      rintro ⟨notStarted, notPlaying⟩
      exact enabled.elim notStarted notPlaying
    right
    rw [if_neg accepted]
    refine ⟨enabled, ?_⟩
    cases e.avInput <;> cases buffer <;> cases pushed <;> rfl
  · have refused : e.currentState ≠ .started ∧ e.currentState ≠ .playing := by
      rwa [TransEngine.Enabled, not_or] at enabled
    rw [if_pos refused]
    exact .inl ⟨enabled, rfl⟩

/-- A push leaves the engine or lets it play. -/
theorem pushData_engine (buffer pushed : Bool) :
    (pushData e buffer pushed).2.1 = e ∨
      (pushData e buffer pushed).2.1 = { e with currentState := .playing } := by
  obtain ⟨-, refused⟩ | ⟨-, taken⟩ := pushData_cases e buffer pushed
  · rw [refused]
    exact .inl rfl
  · rw [taken]
    split
    · exact .inr rfl
    · exact .inl rfl

end AVSenderEngine

theorem AVReceiverEngine.handleOutputBuffer_engine (e : TransEngine) (buffer : Bool)
    (taken : Int) :
    (AVReceiverEngine.handleOutputBuffer e buffer taken).2 = e ∨
      (AVReceiverEngine.handleOutputBuffer e buffer taken).2 =
        { e with currentState := .playing } := by
  unfold AVReceiverEngine.handleOutputBuffer
  split
  · exact .inl rfl
  · dsimp only
    split
    · exact .inl rfl
    · split
      · exact .inr rfl
      · exact .inr rfl

/-- The calls on an engine. -/
inductive EngineOp
  | initializeEngine (ch : InitChoice)
  | registerCallback (callback : Bool)
  | createControlChannel (dstDevIds : List String) (socket : Int) (bind : Bool)
  | setEngineReady (params prepare : Bool)
  | setVideoPixelFormat (videoFormat : String)
  | start (started channel : Bool)
  | stop (stopped : Bool)
  | release
  | pushData (buffer pushed : Bool)
  | handleOutputBuffer (buffer : Bool) (taken : Int)

/-- What a call leaves of the engine and the adapter. Only a sender is pushed data and takes
a pixel format, and only a receiver handles output. -/
def TransEngine.run {L : Type} (this : L) (e : TransEngine) (a : SoftbusAdapter L) :
    EngineOp → TransEngine × SoftbusAdapter L
  | .initializeEngine ch => (e.initializeEngine this ch a).2
  | .registerCallback callback => ((e.registerCallback callback).2, a)
  | .createControlChannel dstDevIds socket bind =>
      (e.createControlChannel this dstDevIds socket bind a).2
  | .setEngineReady params prepare => ((e.setEngineReady params prepare).2, a)
  | .setVideoPixelFormat videoFormat =>
      match e.kind with
      | .sender => ((e.setVideoPixelFormat videoFormat).2, a)
      | .receiver => (e, a)
  | .start started channel =>
      match e.kind with
      | .sender => ((AVSenderEngine.start e started channel).2, a)
      | .receiver => ((AVReceiverEngine.start e started).2, a)
  | .stop stopped =>
      match e.kind with
      | .sender => ((AVSenderEngine.stop e stopped).2.1, a)
      | .receiver => ((AVReceiverEngine.stop e stopped).2, a)
  | .release =>
      match e.kind with
      | .sender => (AVSenderEngine.release e a).2
      | .receiver => (AVReceiverEngine.release e a).2
  | .pushData buffer pushed =>
      match e.kind with
      | .sender => ((AVSenderEngine.pushData e buffer pushed).2.1, a)
      | .receiver => (e, a)
  | .handleOutputBuffer buffer taken =>
      match e.kind with
      | .sender => (e, a)
      | .receiver => ((AVReceiverEngine.handleOutputBuffer e buffer taken).2, a)

section Run
variable {L : Type} (this : L) (e : TransEngine) (a : SoftbusAdapter L)

/-- A call leaves the engine's names, and its peer unless it binds it to another. -/
theorem run_binding (o : EngineOp) :
    SameBinding e (e.run this a o).1 ∨
      ∃ peerDevId rest socket bind, o = .createControlChannel (peerDevId :: rest) socket bind ∧
        (e.run this a o).1 = { e with peerDevId } := by
  cases o with
  | initializeEngine ch => exact .inl (e.initializeEngine_spec this ch a).1
  | createControlChannel dstDevIds socket bind =>
      cases dstDevIds with
      | nil => exact .inl (.refl e)
      | cons peerDevId rest =>
          refine .inr ⟨peerDevId, rest, socket, bind, rfl, ?_⟩
          obtain heq | ⟨-, heq⟩ := e.createControlChannel_cons this peerDevId rest socket bind a
          · exact congrArg Prod.fst heq
          · exact congrArg Prod.fst heq
  | registerCallback callback =>
      left
      simp only [TransEngine.run]
      unfold TransEngine.registerCallback
      split <;> exact ⟨rfl, rfl, rfl⟩
  | setEngineReady params prepare =>
      left
      simp only [TransEngine.run]
      unfold TransEngine.setEngineReady TransEngine.preparePipeline
      split_ifs <;> exact ⟨rfl, rfl, rfl⟩
  | setVideoPixelFormat videoFormat =>
      left
      simp only [TransEngine.run]
      split
      · obtain ⟨-, heq⟩ | ⟨-, heq⟩ := e.setVideoPixelFormat_cases videoFormat
        · rw [heq]
          exact ⟨rfl, rfl, rfl⟩
        · rw [heq]
          exact .refl e
      · exact .refl e
  | start started channel =>
      left
      simp only [TransEngine.run]
      unfold AVSenderEngine.start AVReceiverEngine.start
      split <;> split_ifs <;> exact ⟨rfl, rfl, rfl⟩
  | stop stopped =>
      left
      simp only [TransEngine.run]
      unfold AVSenderEngine.stop AVReceiverEngine.stop
      split <;> split_ifs <;> exact ⟨rfl, rfl, rfl⟩
  | release =>
      left
      simp only [TransEngine.run]
      unfold AVSenderEngine.release AVReceiverEngine.release
      split
      · exact ⟨rfl, rfl, rfl⟩
      · split_ifs <;> exact ⟨rfl, rfl, rfl⟩
  | pushData buffer pushed =>
      left
      simp only [TransEngine.run]
      split
      · obtain heq | heq := AVSenderEngine.pushData_engine e buffer pushed
        · rw [heq]
          exact .refl e
        · rw [heq]
          exact ⟨rfl, rfl, rfl⟩
      · exact .refl e
  | handleOutputBuffer buffer taken =>
      left
      simp only [TransEngine.run]
      split
      · exact .refl e
      · obtain heq | heq := AVReceiverEngine.handleOutputBuffer_engine e buffer taken
        · rw [heq]
          exact .refl e
        · rw [heq]
          exact ⟨rfl, rfl, rfl⟩

/-- An enabled engine stays so but for a stop, a release and an initialization anew. -/
theorem enabled_run {e : TransEngine} (enabled : e.Enabled) (o : EngineOp) :
    (e.run this a o).1.Enabled ∨ (∃ stopped, o = .stop stopped) ∨
      o = .release ∨ ∃ ch, o = .initializeEngine ch ∧ e.isInitialized = false := by
  cases o with
  | initializeEngine ch =>
      obtain ⟨-, same | ⟨anew, -⟩, -⟩ := e.initializeEngine_spec this ch a
      · left
        unfold TransEngine.Enabled
        rw [TransEngine.run, same]
        exact enabled
      · exact .inr (.inr (.inr ⟨ch, rfl, anew⟩))
  | stop stopped => exact .inr (.inl ⟨_, rfl⟩)
  | release => exact .inr (.inr (.inl rfl))
  | createControlChannel dstDevIds socket bind =>
      left
      cases dstDevIds with
      | nil => exact enabled
      | cons peerDevId rest =>
          unfold TransEngine.Enabled
          simp only [TransEngine.run]
          obtain heq | ⟨-, heq⟩ := e.createControlChannel_cons this peerDevId rest socket bind a
          · rw [heq]
            exact enabled
          · rw [heq]
            exact enabled
  | registerCallback callback =>
      left
      simp only [TransEngine.run]
      unfold TransEngine.registerCallback
      split <;> exact enabled
  | setEngineReady params prepare =>
      left
      have unprepared : e.currentState ≠ .initialized ∧ e.currentState ≠ .chCreated := by
        obtain h | h := enabled <;> rw [h] <;> decide
      simp only [TransEngine.run]
      unfold TransEngine.setEngineReady TransEngine.preparePipeline
      rw [if_pos unprepared]
      split <;> exact enabled
  | setVideoPixelFormat videoFormat =>
      left
      simp only [TransEngine.run]
      split
      · obtain ⟨-, heq⟩ | ⟨-, heq⟩ := e.setVideoPixelFormat_cases videoFormat
        · rw [heq]
          exact enabled
        · rw [heq]
          exact enabled
      · exact enabled
  | start started channel =>
      left
      have notCreated : e.currentState ≠ .chCreated := by
        obtain h | h := enabled <;> rw [h] <;> decide
      simp only [TransEngine.run]
      unfold AVSenderEngine.start AVReceiverEngine.start
      rw [if_pos notCreated, if_pos notCreated]
      split <;> exact enabled
  | pushData buffer pushed =>
      left
      simp only [TransEngine.run]
      split
      · obtain heq | heq := AVSenderEngine.pushData_engine e buffer pushed
        · rw [heq]
          exact enabled
        · rw [heq]
          exact .inr rfl
      · exact enabled
  | handleOutputBuffer buffer taken =>
      left
      simp only [TransEngine.run]
      split
      · exact enabled
      · obtain heq | heq := AVReceiverEngine.handleOutputBuffer_engine e buffer taken
        · rw [heq]
          exact enabled
        · rw [heq]
          exact .inr rfl

/-- What a call does to the adapter. -/
theorem run_adapter (o : EngineOp) :
    (e.run this a o).2 = a ∨
      (∃ ch, o = .initializeEngine ch ∧
        (e.run this a o).2 =
          (a.registerChannelListener e.sessionName e.peerDevId (some this)).2) ∨
      (∃ peerDevId rest socket bind, o = .createControlChannel (peerDevId :: rest) socket bind ∧
        ((e.run this a o).2 =
            (a.registerChannelListener e.sessionName peerDevId (some this)).2 ∨
          peerDevId ≠ "" ∧ (e.run this a o).2 =
            ((a.registerChannelListener e.sessionName peerDevId (some this)).2.openSoftbusChannel
              e.sessionName e.peerSessName peerDevId socket bind).2)) ∨
      o = .release ∧ ¬ (e.kind = .receiver ∧ e.currentState = .idle) ∧
        (e.run this a o).2 =
          ((a.closeSoftbusChannel e.sessionName e.peerDevId).2.unRegisterChannelListener
            e.sessionName e.peerDevId).2 := by
  cases o with
  | initializeEngine ch =>
      obtain ⟨-, -, same | registered⟩ := e.initializeEngine_spec this ch a
      · exact .inl same
      · exact .inr (.inl ⟨ch, rfl, registered⟩)
  | createControlChannel dstDevIds socket bind =>
      cases dstDevIds with
      | nil => exact .inl rfl
      | cons peerDevId rest =>
          refine .inr (.inr (.inl ⟨peerDevId, rest, socket, bind, rfl, ?_⟩))
          obtain heq | ⟨named, heq⟩ :=
            e.createControlChannel_cons this peerDevId rest socket bind a
          · exact .inl (congrArg Prod.snd heq)
          · exact .inr ⟨named, congrArg Prod.snd heq⟩
  | release =>
      simp only [TransEngine.run, true_and]
      cases hkind : e.kind with
      | sender => exact .inr (.inr (.inr ⟨by simp, rfl⟩))
      | receiver =>
          by_cases idle : e.currentState = .idle
          · left
            simp only [AVReceiverEngine.release, idle, if_true]
          · refine .inr (.inr (.inr ⟨fun h => idle h.2, ?_⟩))
            simp only [AVReceiverEngine.release, idle, if_false]
  | setVideoPixelFormat videoFormat | start started channel | stop stopped
  | pushData buffer pushed | handleOutputBuffer buffer taken =>
      left
      simp only [TransEngine.run]
      split <;> rfl
  | registerCallback callback | setEngineReady params prepare => exact .inl rfl

end Run

end DistributedHardware
