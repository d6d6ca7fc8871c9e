import Std.Data.TreeSet
import DistributedHardware.Library.Transition
import DistributedHardware.Library.Ledger
import DistributedHardware.Common.Json

/-!
`AVSyncManager` and the shared clock memory it hands to the engines.

The state holds the manager's members, the messages it has given to `SendMessage`
and the descriptors of the memories it has opened. cJSON's printer is an argument;
it returns nothing where cJSON runs out of memory.
-/

namespace DistributedHardware

def sceneTypeDMic : String := "dmic_stream"
def sceneTypeDScreen : String := "dscreen_stream"
def sceneTypeDSpeaker : String := "dspeaker_stream"
def sceneTypeDCameraStr : String := "dcamera_stream"

def avSyncStreamCount : Nat := 2
def maxClockUnitCount : Int := 50

structure AVStreamInfo where
  sceneType : String
  peerDevId : String
  deriving DecidableEq

/-- The tags of the regular section that the control center uses. -/
inductive AVTransTag
  | startAvSync | stopAvSync | timeSyncResult
  deriving DecidableEq

def AVTransTag.toUInt32 : AVTransTag → UInt32
  | .startAvSync => 65544
  | .stopAvSync => 65545
  | .timeSyncResult => 65546

structure AVTransMessage where
  type : UInt32
  content : String
  dstDevId : String
  deriving DecidableEq

structure AVTransSharedMemory where
  fd : Int
  size : Int
  name : String
  deriving DecidableEq

def isInValidSharedMemory (memory : AVTransSharedMemory) : Bool :=
  memory.fd ≤ 0 || memory.size ≤ 0 || memory.name = ""

/-- What `AshmemCreate` returns, and whether the three calls after it succeed. -/
structure Ashmem where
  fd : Int
  setProt : Bool := true
  mmap : Bool := true
  memset : Bool := true

/-- A descriptor whose memory cannot be set up is closed again at once. -/
def createAVTransSharedMemory (os : Ashmem) (name : String) (size : Int) :
    AVTransSharedMemory :=
  if os.fd ≤ 0 then { fd := 0, size := 0, name }
  else if !os.setProt then { fd := 0, size := 0, name }
  else if !os.mmap then { fd := 0, size := 0, name }
  else if !os.memset then { fd := 0, size := 0, name }
  else { fd := os.fd, size, name }

/-- What the engines are told. -/
inductive EngineParam
  | sharedMemory (memory : AVTransSharedMemory)
  | tagged (tag : AVTransTag) (value : String)

/-- The members of the manager that hold a memory. -/
inductive MemorySlot
  | source | sink
  deriving DecidableEq

structure SyncState where
  streamInfoList : List AVStreamInfo := []
  sourceMemory : AVTransSharedMemory := { fd := 0, size := 0, name := "" }
  sinkMemory : AVTransSharedMemory := { fd := 0, size := 0, name := "" }
  /-- What it has given to `SendMessage` and `SetParam2Engines`. -/
  sent : List AVTransMessage := []
  engineParams : List EngineParam := []
  /-- The descriptors it has opened, by the member they were opened for. -/
  files : Ledger MemorySlot Int := {}
  /-- Whether the last call disabled sender sync, and whether the manager is gone. -/
  disabled : Bool := false
  destroyed : Bool := false

section GroupInfo
variable (printUnformatted : CJson → Option String)

/-- An element of the group: microphones and speakers are masters. -/
def groupItem (item : AVStreamInfo) (avSyncFlag : ℚ) : CJson :=
  .object [("sceneType", .string (cStr item.sceneType)),
    ("peerDevId", .string (cStr item.peerDevId)), ("startFrameNum", .number 0),
    ("avSyncFlag", .number avSyncFlag)]

def mergeGroupInfoInner (streams : List AVStreamInfo) :
    Option (Std.TreeSet String compare) :=
  streams.foldlM (fun groupInfoSet item =>
    if item.sceneType = sceneTypeDMic ∨ item.sceneType = sceneTypeDSpeaker then
      (printUnformatted (groupItem item 0)).map groupInfoSet.insert
    else if item.sceneType = sceneTypeDScreen ∨ item.sceneType = sceneTypeDCameraStr then
      (printUnformatted (groupItem item 1)).map groupInfoSet.insert
    else some groupInfoSet) ∅

def getSyncGroupInfo (groupInfoSet : Std.TreeSet String compare) : String :=
  (printUnformatted (.object [("myDevId", .string ""),
    ("groupInfoArray", .array (groupInfoSet.toList.map .string))])).getD ""

/-- `AVSyncManager::MergeGroupInfo`: the group information, where there is one. -/
def mergeGroupInfo (streams : List AVStreamInfo) : Option String :=
  let sceneTypeSet := (streams.map AVStreamInfo.sceneType).dedup
  let source2Sink := sceneTypeDScreen ∈ sceneTypeSet ∧ sceneTypeDSpeaker ∈ sceneTypeSet
  let sink2Source := sceneTypeDCameraStr ∈ sceneTypeSet ∧ sceneTypeDMic ∈ sceneTypeSet
  if sceneTypeSet.length < avSyncStreamCount then none
  else if sceneTypeDMic ∈ sceneTypeSet ∧ sceneTypeDSpeaker ∈ sceneTypeSet then none
  else if ¬ source2Sink ∧ ¬ sink2Source then none
  else
    match mergeGroupInfoInner printUnformatted streams with
    | none => none
    | some groupInfoSet =>
        let info := getSyncGroupInfo printUnformatted groupInfoSet
        if info = "" then none else some info

end GroupInfo

namespace SyncState

/-- A message to the peer of every stream in the list. -/
def toPeers (s : SyncState) (tag : AVTransTag) (content : String) : List AVTransMessage :=
  s.streamInfoList.map (fun item =>
    { type := tag.toUInt32, content, dstDevId := item.peerDevId })

/-- The files after a memory was created, and after one is closed. -/
def created (s : SyncState) (slot : MemorySlot) (memory : AVTransSharedMemory) :
    Ledger MemorySlot Int :=
  if memory.fd ≤ 0 then s.files else s.files.acquire slot memory.fd

def closeAVTransSharedMemory (files : Ledger MemorySlot Int) (slot : MemorySlot)
    (memory : AVTransSharedMemory) : Ledger MemorySlot Int :=
  if isInValidSharedMemory memory then files
  else if 0 < memory.fd then files.release slot memory.fd
  else files

def enableSenderAVSync (printUnformatted : CJson → Option String) (os : Ashmem)
    (s : SyncState) : SyncState :=
  match mergeGroupInfo printUnformatted s.streamInfoList with
  | none => s
  | some syncGroupInfo =>
      let memory := createAVTransSharedMemory os "sourceSharedMemory" 12
      { s with
        sent := s.sent ++ s.toPeers .startAvSync syncGroupInfo
        sourceMemory := memory
        files := s.created .source memory
        engineParams := s.engineParams ++ [.sharedMemory memory] }

/-- The descriptor stays recorded after it is closed. -/
def disableSenderAVSync (s : SyncState) : SyncState :=
  if avSyncStreamCount ≤ s.streamInfoList.length then s
  else
    { s with
      sent := s.sent ++ s.toPeers .stopAvSync ""
      files := closeAVTransSharedMemory s.files .source s.sourceMemory
      engineParams := s.engineParams ++
        [.sharedMemory { fd := 0, size := 0, name := "sourceSharedMemory" }]
      disabled := true }

/-- The two changes of the list. Every equal element goes. -/
def pushBack (s : SyncState) (stream : AVStreamInfo) : SyncState :=
  { s with streamInfoList := s.streamInfoList ++ [stream], disabled := false }

def eraseAll (s : SyncState) (stream : AVStreamInfo) : SyncState :=
  { s with
    streamInfoList := s.streamInfoList.filter (fun item =>
      !(item.sceneType = stream.sceneType && item.peerDevId = stream.peerDevId))
    disabled := false }

def addStreamInfo (printUnformatted : CJson → Option String) (os : Ashmem)
    (stream : AVStreamInfo) (s : SyncState) : SyncState :=
  if (s.pushBack stream).streamInfoList.length < avSyncStreamCount then s.pushBack stream
  else enableSenderAVSync printUnformatted os (s.pushBack stream)

def removeStreamInfo (stream : AVStreamInfo) (s : SyncState) : SyncState :=
  disableSenderAVSync (s.eraseAll stream)

def enableReceiverAVSync (os : Ashmem) (groupInfo : String) (s : SyncState) : SyncState :=
  let memory := createAVTransSharedMemory os "sinkSharedMemory" (12 * maxClockUnitCount)
  { s with
    sinkMemory := memory
    files := s.created .sink memory
    engineParams := s.engineParams ++ [.sharedMemory memory, .tagged .startAvSync groupInfo] }

def disableReceiverAVSync (s : SyncState) : SyncState :=
  { s with
    files := closeAVTransSharedMemory s.files .sink s.sinkMemory
    engineParams := s.engineParams ++ [.tagged .stopAvSync "",
      .sharedMemory { fd := 0, size := 0, name := "sinkSharedMemory" }] }

/-- A null pointer is `none`. -/
def handleAvSyncMessage (os : Ashmem) (message : Option AVTransMessage) (s : SyncState) :
    SyncState :=
  match message with
  | none => s
  | some message =>
      if message.type = AVTransTag.startAvSync.toUInt32 then
        enableReceiverAVSync os message.content s
      else if message.type = AVTransTag.stopAvSync.toUInt32 then disableReceiverAVSync s
      else s

/-- `AVSyncManager::~AVSyncManager`. -/
def destroy (s : SyncState) : SyncState :=
  let files := closeAVTransSharedMemory s.files .source s.sourceMemory
  { s with
    streamInfoList := []
    files := closeAVTransSharedMemory files .sink s.sinkMemory
    destroyed := true }

/-- The operating system gives out no descriptor that is open. -/
def isFresh (s : SyncState) (os : Ashmem) : Bool :=
  os.fd ∉ s.files.live .source && os.fd ∉ s.files.live .sink

end SyncState

inductive StreamCall
  | addStreamInfo (stream : AVStreamInfo) (os : Ashmem)
  | removeStreamInfo (stream : AVStreamInfo)

inductive SyncCall
  | stream (call : StreamCall)
  | handleAvSyncMessage (message : Option AVTransMessage) (os : Ashmem)
  | destroy

section Systems
variable (printUnformatted : CJson → Option String)

def streamStep (s : SyncState) : StreamCall → Option SyncState
  | .addStreamInfo stream os =>
      if s.isFresh os then some (s.addStreamInfo printUnformatted os stream) else none
  | .removeStreamInfo stream => some (s.removeStreamInfo stream)

def syncStep (s : SyncState) (call : SyncCall) : Option SyncState :=
  if s.destroyed then none
  else
    match call with
    | .stream call => streamStep printUnformatted s call
    | .handleAvSyncMessage message os =>
        if s.isFresh os then some (s.handleAvSyncMessage os message) else none
    | .destroy => some s.destroy

/-- A manager that is told of streams. -/
def streamSystem : TransitionSystem SyncState StreamCall where
  init := fun s => s = {}
  step := streamStep printUnformatted

/-- A manager over its whole life. -/
def syncSystem : TransitionSystem SyncState SyncCall where
  init := fun s => s = {}
  step := syncStep printUnformatted

end Systems
end DistributedHardware
