import DistributedHardware.Library.BoundedQueue
import DistributedHardware.Library.Transition
import DistributedHardware.AvTransport.BufferMeta

/-!
The queue of received frames in `DsoftbusInputPlugin` and `DsoftbusInputAudioPlugin`.

A stream becomes a frame in steps each of which can fail: the text beside the data is
parsed, a buffer is made and filled, the metadata is read. Next to the queue runs a bounded
queue that is offered the frames of well-formed records alone. `parse` is `cJSON_Parse`.
-/

namespace DistributedHardware

def dataQueueMaxSize : Nat := 1000

/-- `DsoftbusInputPlugin` and `DsoftbusInputAudioPlugin`. -/
inductive InputKind
  | video | audio
  deriving DecidableEq

/-- What `OnStreamReceived` is given. `memory` is how much of the data a write to the new
buffer takes, where that buffer has memory. -/
structure ReceivedStream where
  data : Option (List UInt8)
  ext : Option String
  memory : Option Nat

/-- A buffer at its address, with what `CreateBuffer` has set. -/
structure Frame where
  addr : Nat
  metaType : UInt32
  memory : List UInt8
  pts : Option Int64 := none
  userFramePts : Option Int64 := none
  userFrameNumber : Option UInt32 := none
  mediaStartTime : Option Int64 := none
  audioSamplePerFrame : Option UInt32 := none

/-- The type is checked under its very name, and then taken whatever the case of its name. -/
def metaTypeOf (resMsg : CJson) : Option UInt32 :=
  if (resMsg.uint32Member "avtrans_data_meta_type").isNone then none
  else
    match resMsg.getObjectItem "avtrans_data_meta_type" with
    | some (.number d) => some (UInt32.ofInt (CJson.saturatedInt d))
    | _ => none

def paramOf (resMsg : CJson) : Option String :=
  match resMsg.getObjectItem "avtrans_data_param" with
  | some (.string param) => some param
  | _ => none

namespace Frame

def setAudioMeta (bufferMeta : AVTransAudioBufferMeta) (buffer : Frame) : Frame :=
  { buffer with
    pts := some bufferMeta.pts
    userFramePts := some bufferMeta.pts
    userFrameNumber := some bufferMeta.frameNum }

def setVideoMeta (bufferMeta : AVTransVideoBufferMeta) (buffer : Frame) : Frame :=
  let buffer := { buffer with
    pts := some bufferMeta.pts
    userFrameNumber := some bufferMeta.frameNum }
  if 0 < bufferMeta.extFrameNum && 0 < bufferMeta.extPts then
    { buffer with
      mediaStartTime := some bufferMeta.extPts
      audioSamplePerFrame := some bufferMeta.extFrameNum }
  else buffer

end Frame

/-- A plugin's queue, what its callback was given, and whether it has gone through a null
pointer. `received` counts the streams, and the next buffer gets it for its address. -/
structure StreamInput where
  dataQueue : List (Option Frame) := []
  handed : List Frame := []
  crashed : Bool := false
  received : Nat := 0
  records : BoundedQueue Frame := {}

inductive StreamInputAct
  | receive (stream : ReceivedStream)
  | handle
  | clear

section Plugin
variable (parse : String → Option CJson) (kind : InputKind)

/-- `CreateBuffer`: none where it goes through a null pointer, and the pointer it returns
otherwise. The audio plugin does not look whether the buffer has memory, nor whether the
metadata was read. -/
def createBuffer (addr : Nat) (metaType : UInt32) (stream : ReceivedStream) (resMsg : CJson) :
    Option (Option Frame) :=
  match stream.data with
  | none => some none
  | some data =>
      match stream.memory with
      | none =>
          match kind with
          | .video => some none
          | .audio => none
      | some writeSize =>
          let buffer : Frame := { addr, metaType, memory := data.take writeSize }
          if writeSize ≠ data.length then some (some buffer)
          else
            match paramOf resMsg with
            | none => some none
            | some param =>
                match kind with
                | .video =>
                    let read := ({} : AVTransVideoBufferMeta).unmarshalVideoMeta parse param
                    if read.1 then some (some (buffer.setVideoMeta read.2)) else some none
                | .audio =>
                    let read := ({} : AVTransAudioBufferMeta).unmarshalAudioMeta parse param
                    some (some (buffer.setAudioMeta read.2))

/-- `DataEnqueue`: only the video plugin looks at the pointer. -/
def dataEnqueue (buffer : Option Frame) (s : StreamInput) : StreamInput :=
  match kind, buffer with
  | .video, none => s
  | _, _ => { s with dataQueue := makeRoom dataQueueMaxSize s.dataQueue ++ [buffer] }

def onStreamReceived (stream : ReceivedStream) (s : StreamInput) : StreamInput :=
  match stream.ext.bind (fun message => parse (cStr message)) with
  | none => s
  | some resMsg =>
      match metaTypeOf resMsg with
      | none => s
      | some metaType =>
          match createBuffer parse kind s.received metaType stream resMsg with
          | none => { s with crashed := true }
          | some buffer => dataEnqueue kind buffer s

/-- A pass of the loop of `HandleData`. -/
def handleData (s : StreamInput) : StreamInput :=
  match s.dataQueue with
  | [] => s
  | none :: rest => { s with dataQueue := rest }
  | some buffer :: rest => { s with dataQueue := rest, handed := s.handed ++ [buffer] }

def dataQueueClear (s : StreamInput) : StreamInput := { s with dataQueue := [] }

/-- What a well-formed record says: the fields that are always sent, and those that are
not. -/
structure FrameRecord where
  metaType : UInt32
  data : List UInt8
  timestamp : Int64
  frameNumber : UInt32
  extTimestamp : Option Int64
  extFrameNumber : Option UInt32

/-- The metadata, where it has the type, the timestamp and the frame number. -/
def metaRecord (metaType : UInt32) (data : List UInt8) (metaJson : CJson) : Option FrameRecord :=
  match metaJson.uint32Member "meta_data_type", metaJson.int64Member "meta_timestamp",
    metaJson.uint32Member "meta_frame_number" with
  | some _, some timestamp, some frameNumber => some {
      metaType, data, timestamp, frameNumber
      extTimestamp := metaJson.int64Member "meta_ext_timestamp"
      extFrameNumber := metaJson.uint32Member "meta_ext_frame_number" }
  | _, _, _ => none

/-- The record a stream holds, where it is well formed and its data fits the buffer. -/
def frameRecord (stream : ReceivedStream) : Option FrameRecord :=
  (stream.ext.bind (fun message => parse (cStr message))).bind (fun resMsg =>
    (metaTypeOf resMsg).bind (fun metaType =>
      stream.data.bind (fun data =>
        if stream.memory = some data.length then
          (paramOf resMsg).bind (fun param =>
            (parse (cStr param)).bind (metaRecord metaType data))
        else none)))

/-- The frame of a record: the audio frame carries its timestamp a second time, the video
frame the extension, where there is one. -/
def FrameRecord.frame (addr : Nat) (record : FrameRecord) : Frame where
  addr := addr
  metaType := record.metaType
  memory := record.data
  pts := some record.timestamp
  userFrameNumber := some record.frameNumber
  userFramePts :=
    match kind with
    | .video => none
    | .audio => some record.timestamp
  mediaStartTime :=
    match kind with
    | .video =>
        if 0 < record.extFrameNumber.getD 0 ∧ 0 < record.extTimestamp.getD 0 then
          record.extTimestamp
        else none
    | .audio => none
  audioSamplePerFrame :=
    match kind with
    | .video =>
        if 0 < record.extFrameNumber.getD 0 ∧ 0 < record.extTimestamp.getD 0 then
          record.extFrameNumber
        else none
    | .audio => none

def streamInputStep (s : StreamInput) (a : StreamInputAct) : Option StreamInput :=
  if s.crashed then none
  else
    match a with
    | .receive stream => some { onStreamReceived parse kind stream s with
        received := s.received + 1
        records := (frameRecord parse stream).elim s.records (fun record =>
          s.records.offer dataQueueMaxSize (record.frame kind s.received)) }
    | .handle => some { handleData s with records := s.records.take }
    | .clear => some { dataQueueClear s with records := s.records.clear }

def streamInput : TransitionSystem StreamInput StreamInputAct where
  init := fun s => s = {}
  step := streamInputStep parse kind

/-- The streams that are turned away before the queue. The video plugin turns away more: those
without data, without memory, and, once the data is in the buffer, those without a param or with
one that is not parsed. -/
inductive TurnedAway (stream : ReceivedStream) : Prop
  | ext (unparsed : stream.ext.bind (fun message => parse (cStr message)) = none)
  | metaType {resMsg : CJson}
      (parsed : stream.ext.bind (fun message => parse (cStr message)) = some resMsg)
      (wrong : metaTypeOf resMsg = none)
  | data (video : kind = .video) (missing : stream.data = none)
  | memory (video : kind = .video) (missing : stream.memory = none)
  | param {resMsg : CJson} {data : List UInt8} (video : kind = .video)
      (parsed : stream.ext.bind (fun message => parse (cStr message)) = some resMsg)
      (hasData : stream.data = some data) (filled : stream.memory = some data.length)
      (unread : (paramOf resMsg).bind (fun param => parse (cStr param)) = none)

end Plugin

section Received
variable {parse : String → Option CJson} {kind : InputKind} {stream : ReceivedStream}
variable {s t : StreamInput} {record : FrameRecord} {metaType : UInt32}

theorem some_getD_of_pos {α : Type} [LT α] [OfNat α 0] (irrefl : ¬ (0 : α) < 0) {value : Option α}
    (pos : 0 < value.getD 0) : some (value.getD 0) = value := by
  cases value with
  | none => exact absurd pos irrefl
  | some a => rfl

theorem running_of_step {a : StreamInputAct} (hs : streamInputStep parse kind s a = some t) :
    s.crashed = false := by
  unfold streamInputStep at hs
  cases crashed : s.crashed with
  | false => rfl
  | true =>
      rw [crashed, if_pos rfl] at hs
      cases hs

theorem step_receive (hs : streamInputStep parse kind s (.receive stream) = some t) :
    t = { onStreamReceived parse kind stream s with
      received := s.received + 1
      records := (frameRecord parse stream).elim s.records (fun record =>
        s.records.offer dataQueueMaxSize (record.frame kind s.received)) } := by
  simpa [streamInputStep, running_of_step hs] using hs.symm

theorem step_handle (hs : streamInputStep parse kind s .handle = some t) :
    t = { handleData s with records := s.records.take } := by
  simpa [streamInputStep, running_of_step hs] using hs.symm

theorem step_clear (hs : streamInputStep parse kind s .clear = some t) :
    t = { dataQueueClear s with records := s.records.clear } := by
  simpa [streamInputStep, running_of_step hs] using hs.symm

theorem handleData_received : (handleData s).received = s.received := by
  unfold handleData
  split <;> rfl

theorem dataEnqueue_some (buffer : Frame) :
    dataEnqueue kind (some buffer) s =
      { s with dataQueue := makeRoom dataQueueMaxSize s.dataQueue ++ [some buffer] } := by
  cases kind <;> rfl

/-- Where the record is well formed, the buffer made is its frame. -/
theorem createBuffer_record {addr : Nat} {data : List UInt8} {param : String}
    {resMsg metaJson : CJson}
    (hasData : stream.data = some data) (filled : stream.memory = some data.length)
    (hasParam : paramOf resMsg = some param) (parsed : parse (cStr param) = some metaJson)
    (read : metaRecord metaType data metaJson = some record) :
    createBuffer parse kind addr metaType stream resMsg = some (some (record.frame kind addr)) := by
  unfold metaRecord at read
  split at read
  · rename_i dataType timestamp frameNumber hasType hasTimestamp hasNumber
    cases read
    cases kind with
    | video =>
        simp only [createBuffer, hasData, filled, hasParam, parsed, List.take_length, ne_eq,
          not_true_eq_false, if_false, AVTransVideoBufferMeta.unmarshalVideoMeta, hasTimestamp,
          hasNumber, Option.getD_some, if_true, Frame.setVideoMeta, FrameRecord.frame,
          Bool.and_eq_true, decide_eq_true_eq]
        by_cases extended : 0 < (metaJson.uint32Member "meta_ext_frame_number").getD 0 ∧
            0 < (metaJson.int64Member "meta_ext_timestamp").getD 0
        · rw [if_pos extended, if_pos extended, if_pos extended,
            some_getD_of_pos (by decide) extended.1, some_getD_of_pos (by decide) extended.2]
        · rw [if_neg extended, if_neg extended, if_neg extended]
    | audio =>
        simp only [createBuffer, hasData, filled, hasParam, parsed, List.take_length, ne_eq,
          not_true_eq_false, if_false, AVTransAudioBufferMeta.unmarshalAudioMeta, hasType,
          hasTimestamp, hasNumber, Frame.setAudioMeta, FrameRecord.frame]
  · cases read

theorem onStreamReceived_record (record_eq : frameRecord parse stream = some record) :
    onStreamReceived parse kind stream s =
      { s with dataQueue :=
          makeRoom dataQueueMaxSize s.dataQueue ++ [some (record.frame kind s.received)] } := by
  unfold frameRecord at record_eq
  obtain ⟨resMsg, parsedExt, record_eq⟩ := Option.bind_eq_some_iff.mp record_eq
  obtain ⟨metaType, typed, record_eq⟩ := Option.bind_eq_some_iff.mp record_eq
  obtain ⟨data, hasData, record_eq⟩ := Option.bind_eq_some_iff.mp record_eq
  by_cases filled : stream.memory = some data.length
  · rw [if_pos filled] at record_eq
    obtain ⟨param, hasParam, record_eq⟩ := Option.bind_eq_some_iff.mp record_eq
    obtain ⟨metaJson, parsed, read⟩ := Option.bind_eq_some_iff.mp record_eq
    simp only [onStreamReceived, parsedExt, typed,
      createBuffer_record hasData filled hasParam parsed read, dataEnqueue_some]
  · rw [if_neg filled] at record_eq
    cases record_eq

theorem onStreamReceived_turnedAway (away : TurnedAway parse kind stream) :
    onStreamReceived parse kind stream s = s := by
  unfold onStreamReceived
  cases parsedExt : stream.ext.bind (fun message => parse (cStr message)) with
  | none => rfl
  | some resMsg =>
      cases typed : metaTypeOf resMsg with
      | none => simp only [typed]
      | some metaType =>
          simp only [typed]
          cases away with
          | ext unparsed => cases unparsed.symm.trans parsedExt
          | metaType parsed wrong =>
              cases parsed.symm.trans parsedExt
              cases wrong.symm.trans typed
          | data video missing =>
              subst video
              simp only [createBuffer, missing, dataEnqueue]
          | memory video missing =>
              subst video
              simp only [createBuffer, missing]
              cases stream.data with
              | none => rfl
              | some data => rfl
          | param video parsed hasData filled unread =>
              subst video
              cases parsed.symm.trans parsedExt
              simp only [createBuffer, hasData, filled, ne_eq, not_true_eq_false, if_false]
              cases hasParam : paramOf resMsg with
              | none => rfl
              | some param =>
                  rw [hasParam] at unread
                  have unparsed : parse (cStr param) = none := unread
                  simp only [AVTransVideoBufferMeta.unmarshalVideoMeta, unparsed]
                  rfl

theorem createBuffer_addr {addr : Nat} {resMsg : CJson} {frame : Frame}
    (made : createBuffer parse kind addr metaType stream resMsg = some (some frame)) :
    frame.addr = addr := by
  unfold createBuffer at made
  cases hasData : stream.data with
  | none =>
      rw [hasData] at made
      cases made
  | some data =>
      cases hasMemory : stream.memory with
      | none =>
          rw [hasData, hasMemory] at made
          cases kind <;> cases made
      | some writeSize =>
          simp only [hasData, hasMemory] at made
          by_cases filled : writeSize ≠ data.length
          · rw [if_pos filled] at made
            cases made
            rfl
          · rw [if_neg filled] at made
            cases hasParam : paramOf resMsg with
            | none =>
                rw [hasParam] at made
                cases made
            | some param =>
                simp only [hasParam] at made
                cases kind with
                | video =>
                    change (if _ then _ else _) = _ at made
                    split at made
                    · cases made
                      unfold Frame.setVideoMeta
                      split <;> rfl
                    · cases made
                | audio =>
                    cases made
                    rfl

/-- The video plugin returns a null pointer for streams that are turned away alone. -/
theorem turnedAway_of_null {addr : Nat} {resMsg : CJson}
    (parsed : stream.ext.bind (fun message => parse (cStr message)) = some resMsg)
    (null : createBuffer parse .video addr metaType stream resMsg = some none) :
    TurnedAway parse .video stream := by
  unfold createBuffer at null
  cases hasData : stream.data with
  | none => exact .data rfl hasData
  | some data =>
      cases hasMemory : stream.memory with
      | none => exact .memory rfl hasMemory
      | some writeSize =>
          simp only [hasData, hasMemory] at null
          by_cases filled : writeSize = data.length
          · rw [if_neg (fun short => short filled)] at null
            refine .param rfl parsed hasData (hasMemory.trans (congrArg some filled)) ?_
            cases hasParam : paramOf resMsg with
            | none => rfl
            | some param =>
                cases read : parse (cStr param) with
                | none => exact read
                | some metaJson =>
                    simp only [hasParam, AVTransVideoBufferMeta.unmarshalVideoMeta, read,
                      if_true] at null
                    cases null
          · rw [if_pos filled] at null
            cases null

/-- A stream that is not turned away crashes the plugin, or leaves a null pointer or a buffer of
its own in the queue. -/
theorem onStreamReceived_kept (kept : ¬ TurnedAway parse kind stream) :
    (onStreamReceived parse kind stream s).crashed = true ∨
      ∃ buffer, (∀ frame, buffer = some frame → frame.addr = s.received) ∧
        onStreamReceived parse kind stream s =
          { s with dataQueue := makeRoom dataQueueMaxSize s.dataQueue ++ [buffer] } := by
  unfold onStreamReceived
  cases parsed : stream.ext.bind (fun message => parse (cStr message)) with
  | none => exact absurd (.ext parsed) kept
  | some resMsg =>
      cases typed : metaTypeOf resMsg with
      | none => exact absurd (.metaType parsed typed) kept
      | some metaType =>
          simp only [typed]
          cases made : createBuffer parse kind s.received metaType stream resMsg with
          | none => exact .inl rfl
          | some buffer =>
              refine .inr ⟨buffer, fun frame same => createBuffer_addr (same ▸ made), ?_⟩
              cases buffer with
              | some frame => exact dataEnqueue_some frame
              | none =>
                  cases kind with
                  | video => exact absurd (turnedAway_of_null parsed made) kept
                  | audio => rfl

end Received

/-- The queue holds the frames of well-formed records alone, and those that were handed on are
the ones the bounded queue gave. -/
structure HandsOnRecords (s : StreamInput) : Prop where
  queue : s.dataQueue = s.records.queue.map some
  handed : s.handed = s.records.taken
  running : s.crashed = false

section Runs
variable {parse : String → Option CJson} {kind : InputKind} {stream : ReceivedStream}
variable {s t : StreamInput} {a : StreamInputAct} {acts : List StreamInputAct}

/-- The bounded queue is orderly, and holds frames that were received. -/
structure RecordsInv (s : StreamInput) : Prop where
  orderly : s.records.Orderly dataQueueMaxSize
  past : ∀ frame ∈ s.records.offered, frame.addr < s.received

theorem RecordsInv.receive (h : RecordsInv s) (after : StreamInput) :
    RecordsInv { after with
      received := s.received + 1
      records := (frameRecord parse stream).elim s.records (fun record =>
        s.records.offer dataQueueMaxSize (record.frame kind s.received)) } := by
  have past : ∀ frame ∈ s.records.offered, frame.addr < s.received + 1 := fun frame mem =>
    Nat.lt_succ_of_lt (h.past frame mem)
  cases frameRecord parse stream with
  | none => exact ⟨h.orderly, past⟩
  | some record =>
      refine ⟨h.orderly.offer (by decide) _, ?_⟩
      intro frame mem
      cases List.mem_append.mp mem with
      | inl mem => exact past frame mem
      | inr mem =>
          rw [List.mem_singleton.mp mem]
          exact Nat.lt_succ_self _

theorem RecordsInv.step (h : RecordsInv s) (hs : streamInputStep parse kind s a = some t) :
    RecordsInv t := by
  cases a with
  | receive stream =>
      rw [step_receive hs]
      exact h.receive _
  | handle =>
      rw [step_handle hs]
      refine ⟨h.orderly.take, ?_⟩
      rw [s.records.take_offered, handleData_received]
      exact h.past
  | clear =>
      rw [step_clear hs]
      exact ⟨h.orderly.clear, h.past⟩

theorem recordsInv (h : (streamInput parse kind).Reachable s) : RecordsInv s := by
  refine h.invariant ?_ (fun _ _ _ => RecordsInv.step)
  intro s initial
  cases initial
  exact ⟨.empty, fun _ mem => absurd mem List.not_mem_nil⟩

theorem HandsOnRecords.handle (h : HandsOnRecords s) :
    HandsOnRecords { handleData s with records := s.records.take } := by
  have queue := h.queue
  unfold handleData BoundedQueue.take
  cases same : s.records.queue with
  | nil =>
      rw [same, List.map_nil] at queue
      rw [queue]
      exact h
  | cons frame rest =>
      rw [same, List.map_cons] at queue
      rw [queue]
      exact ⟨rfl, congrArg (· ++ [frame]) h.handed, h.running⟩

theorem HandsOnRecords.clear (h : HandsOnRecords s) :
    HandsOnRecords { dataQueueClear s with records := s.records.clear } :=
  ⟨rfl, h.handed, h.running⟩

theorem HandsOnRecords.record {record : FrameRecord} (h : HandsOnRecords s)
    (record_eq : frameRecord parse stream = some record) :
    HandsOnRecords { onStreamReceived parse kind stream s with
      received := s.received + 1
      records := s.records.offer dataQueueMaxSize (record.frame kind s.received) } := by
  rw [onStreamReceived_record record_eq]
  refine ⟨?_, h.handed, h.running⟩
  have room : makeRoom dataQueueMaxSize s.dataQueue =
      (makeRoom dataQueueMaxSize s.records.queue).map some := by
    rw [h.queue, makeRoom_map]
  simp only [BoundedQueue.offer, room, List.map_append, List.map_cons, List.map_nil]

/-- A null pointer or a buffer of its own is in no queue of records. -/
theorem not_handsOnRecords_kept (inv : RecordsInv s) (kept : ¬ TurnedAway parse kind stream) :
    ¬ HandsOnRecords { onStreamReceived parse kind stream s with
      received := s.received + 1
      records := s.records } := by
  intro h
  cases onStreamReceived_kept kept with
  | inl crashed => exact Bool.false_ne_true (h.running.symm.trans crashed)
  | inr enqueued =>
      obtain ⟨buffer, own, after⟩ := enqueued
      rw [after] at h
      have mem : buffer ∈ s.records.queue.map some :=
        h.queue ▸ List.mem_append_right _ (List.mem_singleton_self buffer)
      obtain ⟨frame, mem, same⟩ := List.mem_map.mp mem
      have offered : frame ∈ s.records.offered :=
        inv.orderly.sublist.subset (List.mem_append_right _ mem)
      have := own frame same.symm
      have := inv.past frame offered
      omega

theorem handsOnRecords_receive_iff (inv : RecordsInv s) (h : HandsOnRecords s)
    (hs : streamInputStep parse kind s (.receive stream) = some t) :
    HandsOnRecords t ↔ (frameRecord parse stream).isSome ∨ TurnedAway parse kind stream := by
  rw [step_receive hs]
  cases record_eq : frameRecord parse stream with
  | some record =>
      exact iff_of_true (h.record record_eq) (.inl rfl)
  | none =>
      by_cases away : TurnedAway parse kind stream
      · refine iff_of_true ?_ (.inr away)
        rw [onStreamReceived_turnedAway away]
        exact ⟨h.queue, h.handed, h.running⟩
      · refine iff_of_false (not_handsOnRecords_kept inv away) ?_
        intro received
        cases received with
        | inl wellFormed => cases wellFormed
        | inr turned => exact away turned

/-- Every frame handed on is a well-formed record's, in order, where every stream received is a
well-formed record or is turned away before the queue; and only there. -/
theorem handsOnRecords_iff :
    (streamInput parse kind).RunIn HandsOnRecords acts s ↔
      (streamInput parse kind).Run (fun _ a => ∀ stream, a = .receive stream →
        (frameRecord parse stream).isSome ∨ TurnedAway parse kind stream) acts s := by
  apply TransitionSystem.runIn_iff_run
  · intro s initial
    cases initial
    exact ⟨rfl, rfl, rfl⟩
  · intro s a t reach h hs
    have hs : streamInputStep parse kind s a = some t := hs
    cases a with
    | receive stream =>
        rw [handsOnRecords_receive_iff (recordsInv reach) h hs]
        exact ⟨fun ok _ same => by cases same; exact ok, fun ok => ok stream rfl⟩
    | handle =>
        rw [step_handle hs]
        exact iff_of_true h.handle (fun _ other => by cases other)
    | clear =>
        rw [step_clear hs]
        exact iff_of_true h.clear (fun _ other => by cases other)

/-- What was handed on are frames of well-formed records, none twice and none out of order. -/
theorem HandsOnRecords.sublist (h : HandsOnRecords s)
    (reach : (streamInput parse kind).Reachable s) : s.handed.Sublist s.records.offered := by
  rw [h.handed]
  exact (List.sublist_append_left _ _).trans (recordsInv reach).orderly.sublist

/-- A type, a param and no metadata in it. -/
private def bareStream : ReceivedStream where
  data := some [1]
  ext := some "\x7b\"avtrans_data_meta_type\":0,\"avtrans_data_param\":\"\x7b\x7d\"\x7d"
  memory := some 1

private def parseBare (text : String) : Option CJson :=
  if text = "\x7b\x7d" then some (.object [])
  else if bareStream.ext = some text then
    some (.object [("avtrans_data_meta_type", .number 0),
      ("avtrans_data_param", .string "\x7b\x7d")])
  else none

/-- Both plugins hand on a frame without any metadata. -/
theorem exists_bare_frame_handed : frameRecord parseBare bareStream = none ∧
    ∀ kind, ∃ s, (streamInput parseBare kind).Run (fun _ _ => True)
      [.handle, .receive bareStream] s ∧ s.records.offered = [] ∧ s.handed.length = 1 := by
  refine ⟨rfl, fun kind => ?_⟩
  cases kind with
  | video => exact ⟨_, .step (.step (.init rfl) trivial rfl) trivial rfl, rfl, rfl⟩
  | audio => exact ⟨_, .step (.step (.init rfl) trivial rfl) trivial rfl, rfl, rfl⟩

end Runs
end DistributedHardware
