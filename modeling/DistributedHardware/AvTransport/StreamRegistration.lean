import DistributedHardware.AvTransport.SyncActive
import DistributedHardware.AvTransport.TransEngine

/-!
The streams that a sender has registered with the sync manager.

The first push after a start registers the stream before it is known whether the filter
takes the data, a stop unregisters it, and nothing else does. The engine keeps the pairing
with its state, so it lasts as long as every registration is followed by data and every
stream that plays is stopped.
-/

namespace DistributedHardware

/-- The stream notice as a call of the sync manager. -/
def StreamNotice.call (os : Ashmem) : StreamNotice → StreamCall
  | .addStream stream => .addStreamInfo stream os
  | .removeStream stream => .removeStreamInfo stream

/-- What a call on a sender tells the framework. -/
def AVSenderEngine.notice (e : TransEngine) : EngineOp → Option StreamNotice
  | .stop stopped => (AVSenderEngine.stop e stopped).2.2
  | .pushData buffer pushed => (AVSenderEngine.pushData e buffer pushed).2.2
  | _ => none

/-- A sender and the sync manager. -/
structure PushState where
  engine : TransEngine
  sync : SyncState := {}
  /-- Data was pushed since the last start, and the engine was not stopped or released. -/
  pushing : Bool := false

inductive PushAct
  /-- A call on the engine. `delivered` says whether a notice reaches the manager. -/
  | op (o : EngineOp) (adapter : SoftbusAdapter Unit) (delivered : Bool) (os : Ashmem)
  | onChannelEvent (event : AVTransEvent)
  /-- The manager is told of a stream by another. -/
  | other (call : StreamCall)

/-- Whether data is being pushed after a call; calls that fail change nothing. -/
def pushingAfter (e : TransEngine) (pushing : Bool) : EngineOp → Bool
  | .start started channel =>
      if (AVSenderEngine.start e started channel).1 = dhAvtSuccess then false else pushing
  | .pushData buffer pushed =>
      if (AVSenderEngine.pushData e buffer pushed).1 = dhAvtSuccess then true else pushing
  | .stop stopped => if (AVSenderEngine.stop e stopped).1 = dhAvtSuccess then false else pushing
  | .release => false
  | _ => pushing

section System
variable (printUnformatted : CJson → Option String)

/-- The manager after it may have been told of a notice. -/
def tellManager (sync : SyncState) (delivered : Bool) (os : Ashmem) :
    Option StreamNotice → Option SyncState
  | none => some sync
  | some notice =>
      if delivered then streamStep printUnformatted sync (notice.call os) else some sync

def PushState.step (s : PushState) : PushAct → Option PushState
  | .op o adapter delivered os =>
      (tellManager printUnformatted s.sync delivered os (AVSenderEngine.notice s.engine o)).map
        (fun sync =>
          { engine := (s.engine.run () adapter o).1
            sync
            pushing := pushingAfter s.engine s.pushing o })
  | .onChannelEvent event => some { s with engine := s.engine.onChannelEvent event }
  | .other call =>
      (streamStep printUnformatted s.sync call).map (fun sync => { s with sync })

/-- A sender of any owner, with any peer. -/
def pushSystem : TransitionSystem PushState PushAct where
  init s := ∃ ownerName peerDevId, s = { engine := { kind := .sender, ownerName, peerDevId } }
  step := PushState.step printUnformatted

end System

namespace PushState
variable (s : PushState)

/-- How often the list holds the stream. -/
def entries (stream : AVStreamInfo) : Nat := s.sync.streamInfoList.count stream

end PushState

/-- The list holds the engine's stream once while data is being pushed, and else not. -/
def StreamRegistered (s : PushState) : Prop :=
  ∀ stream ∈ s.engine.stream, s.entries stream = if s.pushing then 1 else 0

/-- For the engine's stream: its first push is taken exactly if the manager hears of it;
the manager hears of the stop of a stream that plays; and while it plays it is not started
anew or released, nor bound or formatted to be another stream. Others leave it alone. -/
def PushState.KeepsEntry (s : PushState) (stream : AVStreamInfo) : PushAct → Prop
  | .op (.pushData buffer pushed) _ delivered _ =>
      s.engine.currentState = .started →
        (s.engine.avInput && buffer && pushed) = (s.engine.notifies && delivered)
  | .op (.start started channel) _ _ _ =>
      AVSenderEngine.Starts s.engine started channel → s.pushing = false
  | .op (.stop stopped) _ delivered _ =>
      s.engine.pipeline = true → stopped = true → s.pushing = true →
        (s.engine.notifies && delivered) = true
  | .op .release _ _ _ => s.pushing = false
  | .op (.createControlChannel (peerDevId :: _) _ _) _ _ _ =>
      s.entries { stream with peerDevId } = s.entries stream
  | .op (.setVideoPixelFormat videoFormat) _ _ _ =>
      s.engine.avInput = true → s.engine.avOutput = true → s.engine.pipeline = true →
        ∀ sceneType ∈ TransEngine.sceneOf s.engine.ownerName videoFormat,
          s.entries { stream with sceneType } = s.entries stream
  | .op (.initializeEngine ch) _ _ _ =>
      s.engine.isInitialized = false →
        ∀ sceneType ∈ TransEngine.sceneOf s.engine.ownerName ch.videoFormat,
          s.entries { stream with sceneType } = s.entries stream
  | .other (.addStreamInfo added _) => added ≠ stream
  | .other (.removeStreamInfo removed) => removed = stream → s.pushing = false
  | _ => True

def keepsRegistered (s : PushState) (a : PushAct) : Prop :=
  ∀ stream ∈ s.engine.stream, s.KeepsEntry stream a

instance (s : PushState) : Decidable (StreamRegistered s) :=
  inferInstanceAs (Decidable (∀ stream ∈ _, _ = _))

section Stream
variable (e : TransEngine)

theorem TransEngine.stream_onChannelEvent (event : AVTransEvent) :
    (e.onChannelEvent event).stream = e.stream := by
  unfold TransEngine.onChannelEvent
  split
  · rfl
  · split
    · rfl
    · rfl
    · split <;> rfl
    · rfl
    · rfl

theorem TransEngine.notifiedStream_map {stream : AVStreamInfo} (hstream : e.stream = some stream)
    (notice : AVStreamInfo → StreamNotice) :
    e.notifiedStream.map notice = if e.notifies then some (notice stream) else none := by
  rw [TransEngine.notifiedStream, hstream]
  cases e.notifies <;> rfl

/-- Whether an engine has a stream is up to its owner. -/
theorem TransEngine.exists_stream {videoFormat sceneType : String}
    (hscene : TransEngine.sceneOf e.ownerName videoFormat = some sceneType) :
    ∃ stream, e.stream = some stream := by
  rw [TransEngine.stream]
  unfold TransEngine.sceneOf at hscene ⊢
  split_ifs at hscene ⊢ <;> exact ⟨_, rfl⟩

end Stream

section Entries
variable {printUnformatted : CJson → Option String} {sync sync' : SyncState}

theorem count_add {stream added : AVStreamInfo} {os : Ashmem}
    (hs : streamStep printUnformatted sync (.addStreamInfo added os) = some sync') :
    sync'.streamInfoList.count stream =
      sync.streamInfoList.count stream + if added = stream then 1 else 0 := by
  have pushed : sync'.streamInfoList = sync.streamInfoList ++ [added] := by
    simp only [streamStep] at hs
    split at hs
    case isFalse => cases hs
    case isTrue =>
      cases hs
      unfold SyncState.addStreamInfo
      split
      · rfl
      · exact streamInfoList_enable _ _
  rw [pushed, List.count_append, List.count_singleton]
  simp

theorem count_remove {stream removed : AVStreamInfo}
    (hs : streamStep printUnformatted sync (.removeStreamInfo removed) = some sync') :
    sync'.streamInfoList.count stream =
      if removed = stream then 0 else sync.streamInfoList.count stream := by
  cases hs
  rw [SyncState.removeStreamInfo, streamInfoList_disable, SyncState.eraseAll]
  split
  case isTrue heq =>
    subst heq
    apply List.count_eq_zero_of_not_mem
    simp
  case isFalse hne =>
    apply List.count_filter
    rw [Bool.not_eq_true', Bool.and_eq_false_iff, decide_eq_false_iff_not,
      decide_eq_false_iff_not, ← not_and_or]
    rintro ⟨scene, peer⟩
    cases removed
    cases scene
    cases peer
    exact hne rfl

variable {stream : AVStreamInfo} {notifies delivered : Bool} {os : Ashmem}

theorem count_tell_add
    (hs : tellManager printUnformatted sync delivered os
      (if notifies then some (.addStream stream) else none) = some sync') :
    sync'.streamInfoList.count stream =
      sync.streamInfoList.count stream + if notifies && delivered then 1 else 0 := by
  cases notifies with
  | false =>
      cases hs
      rfl
  | true =>
      cases delivered with
      | false =>
          cases hs
          rfl
      | true => 
          rw [count_add hs, if_pos rfl]
          rfl

theorem count_tell_remove
    (hs : tellManager printUnformatted sync delivered os
      (if notifies then some (.removeStream stream) else none) = some sync') :
    sync'.streamInfoList.count stream =
      if notifies && delivered then 0 else sync.streamInfoList.count stream := by
  cases notifies with
  | false =>
      cases hs
      rfl
  | true =>
      cases delivered with
      | false =>
          cases hs
          rfl
      | true => 
          have told : streamStep printUnformatted sync (.removeStreamInfo stream) = some sync' := hs
          rw [count_remove told, if_pos rfl]
          rfl

end Entries

section Steps
variable {printUnformatted : CJson → Option String} {s t : PushState}

/-- The state of a sender says whether it pushes data. -/
structure PushesAsPlaying (s : PushState) : Prop where
  sender : s.engine.kind = .sender
  started : s.engine.currentState = .started → s.pushing = false
  playing : s.engine.currentState = .playing → s.pushing = true

theorem step_op {o : EngineOp} {adapter : SoftbusAdapter Unit} {delivered : Bool} {os : Ashmem}
    (hs : s.step printUnformatted (.op o adapter delivered os) = some t) :
    tellManager printUnformatted s.sync delivered os (AVSenderEngine.notice s.engine o) =
        some t.sync ∧
      t.engine = (s.engine.run () adapter o).1 ∧ t.pushing = pushingAfter s.engine s.pushing o := by
  obtain ⟨sync, told, rfl⟩ := Option.map_eq_some_iff.mp hs
  exact ⟨told, rfl, rfl⟩

/-- The calls that neither push data nor start or end pushing. -/
def EngineOp.IsSetup : EngineOp → Prop
  | .start .. | .stop .. | .release | .pushData .. => False
  | _ => True

instance (o : EngineOp) : Decidable o.IsSetup := by
  unfold EngineOp.IsSetup
  split <;> infer_instance

theorem EngineOp.IsSetup.quiet {o : EngineOp} (setup : o.IsSetup) (e : TransEngine)
    (pushing : Bool) :
    AVSenderEngine.notice e o = none ∧ pushingAfter e pushing o = pushing := by
  cases o with
  | start started channel => exact setup.elim
  | stop stopped => exact setup.elim
  | release => exact setup.elim
  | pushData buffer pushed => exact setup.elim
  | _ => exact ⟨rfl, rfl⟩

/-- Such a call leaves a sender's state or sets it to one before a start. -/
theorem EngineOp.IsSetup.state {L : Type} {o : EngineOp} (setup : o.IsSetup) (this : L)
    {e : TransEngine} (a : SoftbusAdapter L) (sender : e.kind = .sender) :
    (e.run this a o).1.currentState = e.currentState ∨
      (e.run this a o).1.currentState = .initialized ∨
      (e.run this a o).1.currentState = .chCreated := by
  cases o with
  | start started channel => exact setup.elim
  | stop stopped => exact setup.elim
  | release => exact setup.elim
  | pushData buffer pushed => exact setup.elim
  | initializeEngine ch =>
      simp only [TransEngine.run]
      obtain ⟨-, same | ⟨-, anew⟩, -⟩ := e.initializeEngine_spec this ch a
      · exact .inl same
      · exact .inr (.inl anew)
  | createControlChannel dstDevIds socket bind =>
      left
      cases dstDevIds with
      | nil => rfl
      | cons peerDevId rest =>
          simp only [TransEngine.run]
          obtain heq | ⟨-, heq⟩ := e.createControlChannel_cons this peerDevId rest socket bind a
          · rw [heq]
          · rw [heq]
  | registerCallback callback =>
      left
      simp only [TransEngine.run]
      unfold TransEngine.registerCallback
      split <;> rfl
  | setEngineReady params prepare =>
      simp only [TransEngine.run]
      unfold TransEngine.setEngineReady TransEngine.preparePipeline
      split_ifs
      · exact .inl rfl
      · exact .inl rfl
      · exact .inl rfl
      · exact .inl rfl
      · exact .inl rfl
      · exact .inr (.inr rfl)
  | setVideoPixelFormat videoFormat =>
      left
      simp only [TransEngine.run, sender]
      unfold TransEngine.setVideoPixelFormat
      split <;> rfl
  | handleOutputBuffer buffer taken =>
      left
      simp only [TransEngine.run, sender]

theorem PushesAsPlaying.of_state {state : StateId} (sender : s.engine.kind = .sender)
    (hstate : s.engine.currentState = state) (notStarted : state ≠ .started)
    (notPlaying : state ≠ .playing) : PushesAsPlaying s := by
  subst hstate
  exact ⟨sender, fun started => absurd started notStarted,
    fun playing => absurd playing notPlaying⟩

theorem PushesAsPlaying.of_engine (h : PushesAsPlaying s)
    (kind : t.engine.kind = s.engine.kind)
    (state : t.engine.currentState = s.engine.currentState ∨
      t.engine.currentState = .initialized ∨ t.engine.currentState = .chCreated)
    (pushing : t.pushing = s.pushing) : PushesAsPlaying t := by
  have sender : t.engine.kind = .sender := kind.trans h.sender
  obtain same | initialized | created := state
  · refine ⟨sender, ?_, ?_⟩
    · rw [same, pushing]
      exact h.started
    · rw [same, pushing]
      exact h.playing
  · exact .of_state sender initialized (by decide) (by decide)
  · exact .of_state sender created (by decide) (by decide)

theorem TransEngine.state_onChannelEvent (e : TransEngine) (event : AVTransEvent) :
    (e.onChannelEvent event).currentState = e.currentState ∨
      (e.onChannelEvent event).currentState = .initialized ∨
      (e.onChannelEvent event).currentState = .chCreated := by
  unfold TransEngine.onChannelEvent
  split
  · exact .inl rfl
  · split
    · exact .inr (.inr rfl)
    · exact .inr (.inl rfl)
    · split
      · exact .inr (.inl rfl)
      · exact .inl rfl
    · exact .inl rfl
    · exact .inl rfl

theorem PushesAsPlaying.step {a : PushAct} (h : PushesAsPlaying s)
    (hs : s.step printUnformatted a = some t) : PushesAsPlaying t := by
  cases a with
  | other call =>
      obtain ⟨sync, -, rfl⟩ := Option.map_eq_some_iff.mp hs
      exact ⟨h.sender, h.started, h.playing⟩
  | onChannelEvent event =>
      cases hs
      exact h.of_engine (s.engine.onChannelEvent_keeps event).kind
        (s.engine.state_onChannelEvent event) rfl
  | op o adapter delivered os =>
      obtain ⟨-, engine, pushing⟩ := step_op hs
      have kind : t.engine.kind = s.engine.kind := by
        rw [engine]
        obtain same | ⟨_, _, _, _, -, bound⟩ := run_binding () s.engine adapter o
        · exact same.kind
        · rw [bound]
      by_cases setup : o.IsSetup
      · refine h.of_engine kind ?_ (pushing.trans (setup.quiet s.engine s.pushing).2)
        rw [engine]
        exact setup.state () adapter h.sender
      · cases o with
        | start started channel =>
            simp only [TransEngine.run, h.sender] at engine
            simp only [pushingAfter] at pushing
            obtain ⟨-, succeeds⟩ | ⟨-, fails, same⟩ :=
              AVSenderEngine.start_cases s.engine started channel
            · rw [succeeds] at engine pushing
              refine ⟨kind.trans h.sender, fun _ => pushing, ?_⟩
              intro playing
              rw [engine] at playing
              cases playing
            · rw [if_neg fails] at pushing
              rw [same] at engine
              exact h.of_engine kind (.inl (congrArg _ engine)) pushing
        | stop stopped =>
            simp only [TransEngine.run, h.sender] at engine
            simp only [pushingAfter] at pushing
            obtain ⟨-, succeeds⟩ | ⟨-, fails, same⟩ := AVSenderEngine.stop_cases s.engine stopped
            · rw [succeeds] at engine
              have state : t.engine.currentState = .stopped := congrArg _ engine
              exact .of_state (kind.trans h.sender) state (by decide) (by decide)
            · rw [if_neg fails] at pushing
              rw [same] at engine
              exact h.of_engine kind (.inl (congrArg _ engine)) pushing
        | release =>
            simp only [TransEngine.run, h.sender, AVSenderEngine.release] at engine
            have state : t.engine.currentState = .idle := congrArg _ engine
            exact .of_state (kind.trans h.sender) state (by decide) (by decide)
        | pushData buffer pushed =>
            simp only [TransEngine.run, h.sender] at engine
            simp only [pushingAfter] at pushing
            obtain ⟨-, refused⟩ | ⟨-, taken⟩ :=
              AVSenderEngine.pushData_cases s.engine buffer pushed
            · rw [refused] at engine pushing
              exact h.of_engine kind (.inl (congrArg _ engine)) pushing
            · rw [taken] at engine pushing
              by_cases accepted : (s.engine.avInput && buffer && pushed) = true
              · simp only [accepted, if_true] at engine pushing
                refine ⟨kind.trans h.sender, ?_, fun _ => pushing⟩
                intro started
                rw [engine] at started
                cases started
              · simp only [accepted] at engine pushing
                exact h.of_engine kind (.inl (congrArg _ engine)) pushing
        | _ => exact absurd trivial setup

theorem pushesAsPlaying_of_reachable (reach : (pushSystem printUnformatted).Reachable s) :
    PushesAsPlaying s := by
  refine reach.invariant ?_ (fun s a t h hs => h.step hs)
  rintro _ ⟨ownerName, peerDevId, rfl⟩
  have idle : ({ kind := .sender, ownerName, peerDevId } : TransEngine).currentState = .idle := rfl
  exact .of_state rfl idle (by decide) (by decide)

/-- Where the engine keeps its stream, the list is right if the stream's entries are. -/
theorem registered_iff_of_stream {a : PushAct} (h : StreamRegistered s)
    (same : t.engine.stream = s.engine.stream)
    (keeps : ∀ stream ∈ s.engine.stream, s.entries stream = (if s.pushing then 1 else 0) →
      (t.entries stream = (if t.pushing then 1 else 0) ↔ s.KeepsEntry stream a)) :
    StreamRegistered t ↔ keepsRegistered s a := by
  unfold StreamRegistered keepsRegistered
  rw [same]
  exact forall₂_congr (fun stream mem => keeps stream mem (h stream mem))

/-- Where the engine has another scene, the list is right if it holds the two alike. -/
theorem registered_iff_of_scene {videoFormat : String} (h : StreamRegistered s)
    (sync : t.sync = s.sync) (pushing : t.pushing = s.pushing)
    (formatted : t.engine.stream = { s.engine with videoFormat }.stream) :
    StreamRegistered t ↔
      ∀ stream ∈ s.engine.stream,
        ∀ sceneType ∈ TransEngine.sceneOf s.engine.ownerName videoFormat,
          s.entries { stream with sceneType } = s.entries stream := by
  have peer : ∀ stream ∈ s.engine.stream, stream.peerDevId = s.engine.peerDevId := by
    intro stream mem
    obtain ⟨_, -, rfl⟩ := Option.map_eq_some_iff.mp mem
    rfl
  unfold StreamRegistered PushState.entries
  rw [sync, pushing, formatted]
  constructor
  · intro registered stream mem sceneType hscene
    rw [peer stream mem]
    rw [registered { sceneType, peerDevId := s.engine.peerDevId }]
    · exact (h stream mem).symm
    · rw [TransEngine.stream, hscene]
      rfl
  · intro alike stream mem
    obtain ⟨sceneType, hscene, rfl⟩ := Option.map_eq_some_iff.mp mem
    obtain ⟨old, hold⟩ := TransEngine.exists_stream s.engine hscene
    have entries := alike old hold sceneType hscene
    rw [peer old hold] at entries
    exact entries.trans (h old hold)

section Setup
variable {adapter : SoftbusAdapter Unit} {delivered : Bool} {os : Ashmem}

/-- Nothing that counts has changed. -/
theorem registered_unchanged_iff {a : PushAct} (h : StreamRegistered s) (sync : t.sync = s.sync)
    (pushing : t.pushing = s.pushing) (same : t.engine.stream = s.engine.stream)
    (keeps : ∀ stream ∈ s.engine.stream, s.KeepsEntry stream a) :
    StreamRegistered t ↔ keepsRegistered s a := by
  apply registered_iff_of_stream h same
  intro stream mem entries
  refine iff_of_true ?_ (keeps stream mem)
  rw [PushState.entries, sync, pushing]
  exact entries

theorem registered_initializeEngine_iff {ch : InitChoice} (h : StreamRegistered s)
    (sync : t.sync = s.sync) (pushing : t.pushing = s.pushing)
    (engine : t.engine = (s.engine.initializeEngine () ch adapter).2.1) :
    StreamRegistered t ↔ keepsRegistered s (.op (.initializeEngine ch) adapter delivered os) := by
  have binding := (s.engine.initializeEngine_spec () ch adapter).1
  have format := s.engine.initializeEngine_videoFormat () ch adapter
  cases anew : s.engine.isInitialized with
  | true =>
      rw [anew, if_pos rfl] at format
      apply registered_unchanged_iff h sync pushing
      · rw [TransEngine.stream, engine, binding.ownerName, binding.peerDevId, format]
        rfl
      · intro stream mem uninitialized
        rw [anew] at uninitialized
        cases uninitialized
  | false =>
      rw [anew, if_neg Bool.false_ne_true] at format
      have formatted :
          t.engine.stream = { s.engine with videoFormat := ch.videoFormat }.stream := by
        rw [TransEngine.stream, engine, binding.ownerName, binding.peerDevId, format]
        rfl
      rw [registered_iff_of_scene h sync pushing formatted]
      simp only [keepsRegistered, PushState.KeepsEntry, anew, true_imp_iff]

theorem registered_setVideoPixelFormat_iff {videoFormat : String} (h : StreamRegistered s)
    (sync : t.sync = s.sync) (pushing : t.pushing = s.pushing)
    (engine : t.engine = (s.engine.setVideoPixelFormat videoFormat).2) :
    StreamRegistered t ↔
      keepsRegistered s (.op (.setVideoPixelFormat videoFormat) adapter delivered os) := by
  obtain ⟨⟨input, output, pipeline⟩, sets⟩ | ⟨unready, fails⟩ :=
    s.engine.setVideoPixelFormat_cases videoFormat
  · rw [sets] at engine
    have formatted : t.engine.stream = { s.engine with videoFormat }.stream :=
      congrArg TransEngine.stream engine
    rw [registered_iff_of_scene h sync pushing formatted]
    simp only [keepsRegistered, PushState.KeepsEntry, input, output, pipeline, true_imp_iff]
  · rw [fails] at engine
    apply registered_unchanged_iff h sync pushing
    · rw [engine]
    · intro stream mem input output pipeline
      exact absurd ⟨input, output, pipeline⟩ unready

theorem registered_createControlChannel_iff {dstDevIds : List String} {socket : Int}
    {bind : Bool} (h : StreamRegistered s) (sync : t.sync = s.sync)
    (pushing : t.pushing = s.pushing)
    (engine : t.engine = (s.engine.createControlChannel () dstDevIds socket bind adapter).2.1) :
    StreamRegistered t ↔
      keepsRegistered s
        (.op (.createControlChannel dstDevIds socket bind) adapter delivered os) := by
  cases dstDevIds with
  | nil =>
      apply registered_unchanged_iff h sync pushing
      · rw [engine]
        rfl
      · exact fun _ _ => trivial
  | cons peerDevId rest =>
      have bound : t.engine = { s.engine with peerDevId } := by
        rw [engine]
        obtain heq | ⟨-, heq⟩ :=
          s.engine.createControlChannel_cons () peerDevId rest socket bind adapter
        · exact congrArg Prod.fst heq
        · exact congrArg Prod.fst heq
      have rebound : t.engine.stream =
          s.engine.stream.map (fun stream => { stream with peerDevId }) := by
        rw [bound, TransEngine.stream, TransEngine.stream, Option.map_map]
        rfl
      unfold StreamRegistered keepsRegistered PushState.entries
      rw [rebound, sync, pushing, Option.forall_mem_map]
      refine forall₂_congr (fun stream mem => ?_)
      rw [← h stream mem]
      rfl

/-- A setup call keeps the list right exactly if the engine's new stream has the entries of
the old. -/
theorem registered_setup_iff {o : EngineOp} (setup : o.IsSetup) (sender : s.engine.kind = .sender)
    (h : StreamRegistered s)
    (hs : s.step printUnformatted (.op o adapter delivered os) = some t) :
    StreamRegistered t ↔ keepsRegistered s (.op o adapter delivered os) := by
  obtain ⟨told, engine, pushing⟩ := step_op hs
  obtain ⟨silent, still⟩ := setup.quiet s.engine s.pushing
  rw [silent] at told
  rw [still] at pushing
  have sync : t.sync = s.sync := (Option.some.inj told).symm
  cases o with
  | start started channel => exact setup.elim
  | stop stopped => exact setup.elim
  | release => exact setup.elim
  | pushData buffer pushed => exact setup.elim
  | initializeEngine ch => exact registered_initializeEngine_iff h sync pushing engine
  | createControlChannel dstDevIds socket bind =>
      exact registered_createControlChannel_iff h sync pushing engine
  | setVideoPixelFormat videoFormat =>
      simp only [TransEngine.run, sender] at engine
      exact registered_setVideoPixelFormat_iff h sync pushing engine
  | registerCallback callback =>
      apply registered_unchanged_iff h sync pushing
      · rw [engine]
        simp only [TransEngine.run]
        unfold TransEngine.registerCallback
        split <;> rfl
      · exact fun _ _ => trivial
  | setEngineReady params prepare =>
      apply registered_unchanged_iff h sync pushing
      · rw [engine]
        simp only [TransEngine.run]
        unfold TransEngine.setEngineReady TransEngine.preparePipeline
        split_ifs <;> rfl
      · exact fun _ _ => trivial
  | handleOutputBuffer buffer taken =>
      apply registered_unchanged_iff h sync pushing
      · rw [engine]
        simp only [TransEngine.run, sender]
      · exact fun _ _ => trivial

end Setup

section PushOps
variable {adapter : SoftbusAdapter Unit} {delivered : Bool} {os : Ashmem}

/-- Where pushing ends and nobody hears of it, the entry must have gone before. -/
theorem registered_idle_iff {a : PushAct} (h : StreamRegistered s) (sync : t.sync = s.sync)
    (idle : t.pushing = false) (same : t.engine.stream = s.engine.stream)
    (keeps : ∀ stream ∈ s.engine.stream, s.KeepsEntry stream a ↔ s.pushing = false) :
    StreamRegistered t ↔ keepsRegistered s a := by
  apply registered_iff_of_stream h same
  intro stream mem entries
  rw [PushState.entries] at entries
  rw [PushState.entries, sync, idle, if_neg Bool.false_ne_true, entries, keeps stream mem]
  cases s.pushing <;> simp

/-- A start forgets the data that was pushed, and leaves the list. -/
theorem registered_start_iff {started channel : Bool} (sender : s.engine.kind = .sender)
    (h : StreamRegistered s)
    (hs : s.step printUnformatted (.op (.start started channel) adapter delivered os) = some t) :
    StreamRegistered t ↔ keepsRegistered s (.op (.start started channel) adapter delivered os) := by
  obtain ⟨told, engine, pushing⟩ := step_op hs
  simp only [TransEngine.run, sender] at engine
  simp only [pushingAfter] at pushing
  have sync : t.sync = s.sync := (Option.some.inj told).symm
  obtain ⟨starts, succeeds⟩ | ⟨stays, fails, same⟩ :=
    AVSenderEngine.start_cases s.engine started channel
  · rw [succeeds] at engine pushing
    have same : t.engine.stream = s.engine.stream := by
      rw [engine]
      rfl
    apply registered_idle_iff h sync pushing same
    intro stream mem
    simp only [PushState.KeepsEntry, starts, true_imp_iff]
  · rw [if_neg fails] at pushing
    rw [same] at engine
    apply registered_unchanged_iff h sync pushing (congrArg TransEngine.stream engine)
    intro stream mem starts
    exact absurd starts stays

/-- A stop takes the stream out where the manager hears of it. -/
theorem registered_stop_iff {stopped : Bool} (sender : s.engine.kind = .sender)
    (h : StreamRegistered s)
    (hs : s.step printUnformatted (.op (.stop stopped) adapter delivered os) = some t) :
    StreamRegistered t ↔ keepsRegistered s (.op (.stop stopped) adapter delivered os) := by
  obtain ⟨told, engine, pushing⟩ := step_op hs
  simp only [TransEngine.run, sender] at engine
  simp only [pushingAfter] at pushing
  simp only [AVSenderEngine.notice] at told
  obtain ⟨⟨pipeline, hstopped⟩, succeeds⟩ | ⟨stays, fails, same⟩ :=
    AVSenderEngine.stop_cases s.engine stopped
  · rw [succeeds] at engine pushing told
    have same : t.engine.stream = s.engine.stream := by
      rw [engine]
      rfl
    apply registered_iff_of_stream h same
    intro stream mem entries
    have idle : t.pushing = false := pushing
    simp only [TransEngine.notifiedStream_map s.engine mem] at told
    have count := count_tell_remove told
    rw [PushState.entries, count, idle, if_neg Bool.false_ne_true]
    rw [PushState.entries] at entries
    rw [entries]
    simp only [PushState.KeepsEntry, pipeline, hstopped, true_imp_iff]
    cases s.pushing <;> simp
  · rw [if_neg fails] at pushing
    rw [same] at engine told
    have sync : t.sync = s.sync := (Option.some.inj told).symm
    apply registered_unchanged_iff h sync pushing (congrArg TransEngine.stream engine)
    intro stream mem pipeline hstopped
    exact absurd ⟨pipeline, hstopped⟩ stays

/-- A release tells nobody. -/
theorem registered_release_iff (sender : s.engine.kind = .sender) (h : StreamRegistered s)
    (hs : s.step printUnformatted (.op .release adapter delivered os) = some t) :
    StreamRegistered t ↔ keepsRegistered s (.op .release adapter delivered os) := by
  obtain ⟨told, engine, pushing⟩ := step_op hs
  simp only [TransEngine.run, sender] at engine
  have sync : t.sync = s.sync := (Option.some.inj told).symm
  have same : t.engine.stream = s.engine.stream := by
    rw [engine]
    rfl
  exact registered_idle_iff h sync pushing same (fun _ _ => Iff.rfl)

/-- The first push adds the stream where the manager hears of it. -/
theorem registered_pushData_iff {buffer pushed : Bool} (playing : PushesAsPlaying s)
    (h : StreamRegistered s)
    (hs : s.step printUnformatted (.op (.pushData buffer pushed) adapter delivered os) = some t) :
    StreamRegistered t ↔
      keepsRegistered s (.op (.pushData buffer pushed) adapter delivered os) := by
  obtain ⟨told, engine, pushing⟩ := step_op hs
  simp only [TransEngine.run, playing.sender] at engine
  simp only [pushingAfter] at pushing
  simp only [AVSenderEngine.notice] at told
  obtain ⟨disabled, refused⟩ | ⟨enabled, taken⟩ :=
    AVSenderEngine.pushData_cases s.engine buffer pushed
  · rw [refused] at engine pushing told
    have sync : t.sync = s.sync := (Option.some.inj told).symm
    apply registered_unchanged_iff h sync pushing (congrArg TransEngine.stream engine)
    intro stream mem started
    exact absurd (.inl started) disabled
  · rw [taken] at engine pushing told
    have same : t.engine.stream = s.engine.stream := by
      rw [engine]
      split <;> rfl
    apply registered_iff_of_stream h same
    intro stream mem entries
    rw [PushState.entries] at entries
    obtain started | plays := enabled
    · rw [playing.started started] at entries pushing
      have accepted : t.pushing = (s.engine.avInput && buffer && pushed) := by
        rw [pushing]
        cases s.engine.avInput && buffer && pushed <;> rfl
      simp only [started, if_true, TransEngine.notifiedStream_map s.engine mem] at told
      rw [PushState.entries, count_tell_add told, entries, accepted]
      simp only [PushState.KeepsEntry, started, true_imp_iff]
      cases s.engine.avInput && buffer && pushed <;>
        cases s.engine.notifies && delivered <;> simp
    · have sync : t.sync = s.sync := by
        rw [plays] at told
        exact (Option.some.inj told).symm
      have still : t.pushing = s.pushing := by
        rw [playing.playing plays] at pushing ⊢
        rw [pushing]
        split <;> split <;> rfl
      rw [PushState.entries, sync, still]
      refine iff_of_true entries ?_
      intro started
      rw [plays] at started
      cases started

end PushOps

/-- Others keep the list right exactly if they leave the engine's stream. -/
theorem registered_other_iff {call : StreamCall} (h : StreamRegistered s)
    (hs : s.step printUnformatted (.other call) = some t) :
    StreamRegistered t ↔ keepsRegistered s (.other call) := by
  obtain ⟨sync, told, rfl⟩ := Option.map_eq_some_iff.mp hs
  refine registered_iff_of_stream h ?_ ?_
  · rfl
  · intro stream mem entries
    rw [PushState.entries] at entries
    cases call with
    | addStreamInfo added os =>
        rw [PushState.entries, count_add told, entries]
        simp [PushState.KeepsEntry]
    | removeStreamInfo removed =>
        rw [PushState.entries, count_remove told, entries]
        by_cases heq : removed = stream
        · simp [PushState.KeepsEntry, heq]
        · simp [PushState.KeepsEntry, heq]

theorem registered_step_iff {a : PushAct} (playing : PushesAsPlaying s) (h : StreamRegistered s)
    (hs : s.step printUnformatted a = some t) : StreamRegistered t ↔ keepsRegistered s a := by
  cases a with
  | onChannelEvent event =>
      cases hs
      apply registered_iff_of_stream h (s.engine.stream_onChannelEvent event)
      exact fun stream _ entries => iff_of_true entries trivial
  | other call => exact registered_other_iff h hs
  | op o adapter delivered os =>
      by_cases setup : o.IsSetup
      · exact registered_setup_iff setup playing.sender h hs
      · cases o with
        | start started channel => exact registered_start_iff playing.sender h hs
        | stop stopped => exact registered_stop_iff playing.sender h hs
        | release => exact registered_release_iff playing.sender h hs
        | pushData buffer pushed => exact registered_pushData_iff playing h hs
        | _ => exact absurd trivial setup

end Steps

/-- The list holds the engine's stream exactly while data is being pushed, in exactly the
runs whose calls keep it so. -/
theorem streamRegistered_iff_keepsRegistered {printUnformatted : CJson → Option String}
    {acts : List PushAct} {s : PushState} :
    (pushSystem printUnformatted).RunIn StreamRegistered acts s ↔
      (pushSystem printUnformatted).Run keepsRegistered acts s := by
  apply TransitionSystem.runIn_iff_run
  · rintro _ ⟨ownerName, peerDevId, rfl⟩ stream -
    rfl
  · intro s a t reach h hs
    exact registered_step_iff (pushesAsPlaying_of_reachable reach) h hs

section Screen

/-- The screen is sent to a peer, up to the start. -/
def screenStarted : List PushAct :=
  [.op (.initializeEngine {}) {} true { fd := 5 },
    .op (.registerCallback true) {} true { fd := 5 },
    .op (.createControlChannel ["peerA"] 1 true) {} true { fd := 5 },
    .onChannelEvent { type := .channelOpened, content := "", peerDevId := "peerA" },
    .op (.start true true) {} true { fd := 5 }]

def screenSender : PushState :=
  { engine := { kind := .sender, ownerName := ownerNameDScreen, peerDevId := "peerA" } }

/-- The filter refuses the first data, and the stream is registered; and the engine is
released while data is being pushed, and the stream stays registered. -/
theorem exists_registered_unpushed :
    (∃ s, (pushSystem samplePrint).Reachable s ∧ ¬ StreamRegistered s ∧
      s.engine.currentState = .started) ∧
    ∃ s, (pushSystem samplePrint).Reachable s ∧ ¬ StreamRegistered s ∧
      s.engine.currentState = .idle := by
  have initial : (pushSystem samplePrint).init screenSender := ⟨_, _, rfl⟩
  have refused : ∃ s ∈ (pushSystem samplePrint).replay (fun _ _ => True) screenSender
      (screenStarted ++ [.op (.pushData true false) {} true { fd := 5 }]),
      ¬ StreamRegistered s ∧ s.engine.currentState = .started := by
    decide +kernel
  have released : ∃ s ∈ (pushSystem samplePrint).replay (fun _ _ => True) screenSender
      (screenStarted ++ [.op (.pushData true true) {} true { fd := 5 },
        .op .release {} true { fd := 5 }]),
      ¬ StreamRegistered s ∧ s.engine.currentState = .idle := by
    decide +kernel
  obtain ⟨s, hs, started⟩ := refused
  obtain ⟨t, ht, idle⟩ := released
  exact ⟨⟨s, (TransitionSystem.run_of_replay initial hs).reachable, started⟩,
    t, (TransitionSystem.run_of_replay initial ht).reachable, idle⟩

end Screen
end DistributedHardware
