import DistributedHardware.AvTransport.SoftbusAdapter
import DistributedHardware.AvTransport.SyncManager
import DistributedHardware.AvTransport.TransportFilter
import DistributedHardware.Transport.Messages

/-!
The plugins of the two filters: the parameters they take, and what they do to them when
they are initialized, prepared and reset.

The four dsoftbus plugins act on the channel description, the two audio plugins and the
screen input on the shared memory, and the screen output, through its controller, on the
shared memory and the time synchronization. `parse` is `cJSON_Parse`.
-/

namespace DistributedHardware

def avTransMaxMessagesLen : Nat := 40 * 1024 * 1024

section Descriptions
variable (parse : String → Option CJson)

/-- A string member that `IsString` lets pass. -/
def stringMember (json : CJson) (key : String) : Option String :=
  match json.getObjectItemCaseSensitive key with
  | some (.string s) => if s.utf8ByteSize ≤ avTransMaxMessagesLen then some s else none
  | _ => none

/-- The owner name and the peer device id of a description, where it has both. -/
def channelDescription (descJsonStr : String) : Option (String × String) :=
  (parse (cStr descJsonStr)).bind (fun descJson =>
    (stringMember descJson "ownerName").bind (fun ownerName =>
      (stringMember descJson "peerDevId").map (fun peerDevId => (ownerName, peerDevId))))

/-- `ParseChannelDescription`: what is not a description leaves its arguments alone. -/
def parseChannelDescription (descJsonStr ownerName peerDevId : String) : String × String :=
  (channelDescription parse descJsonStr).getD (ownerName, peerDevId)

def noSharedMemory : AVTransSharedMemory := { fd := 0, size := 0, name := "" }

def unmarshalSharedMemory (jsonStr : String) : AVTransSharedMemory :=
  match parse (cStr jsonStr) with
  | none => noSharedMemory
  | some paramJson =>
      match paramJson.getObjectItemCaseSensitive "sharedMemoryFd",
        paramJson.getObjectItemCaseSensitive "sharedMemorySize",
        paramJson.getObjectItemCaseSensitive "sharedMemoryName" with
      | some (.number fd), some (.number size), some (.string name) =>
          { fd := CJson.saturatedInt fd, size := CJson.saturatedInt size, name }
      | _, _, _ => noSharedMemory

/-- `atoi`, which is undefined beyond an `int`. -/
def atoi (s : String) : Int :=
  let digits (cs : List Char) : Int :=
    (cs.takeWhile Char.isDigit).foldl (fun n c => 10 * n + (c.toNat - '0'.toNat)) 0
  match s.toList.dropWhile Char.isWhitespace with
  | '-' :: cs => -digits cs
  | '+' :: cs => digits cs
  | cs => digits cs

end Descriptions

/-- `DsoftbusInputPlugin`, `DsoftbusInputAudioPlugin`, `DsoftbusOutputPlugin` and
`DsoftbusOutputAudioPlugin`. -/
inductive DsoftbusKind
  | input | inputAudio | output | outputAudio
  deriving DecidableEq

namespace DsoftbusKind

def suffix : DsoftbusKind → String
  | input | inputAudio => receiverDataSessionNameSuffix
  | output | outputAudio => senderDataSessionNameSuffix

/-- The video plugins have flags for dumping. -/
def dumps : DsoftbusKind → Bool
  | input | output => true
  | inputAudio | outputAudio => false

/-- The input plugins serve a session, and note whether they run. -/
def serves : DsoftbusKind → Bool
  | input | inputAudio => true
  | output | outputAudio => false

/-- The audio output asks for its channels and sample rate. -/
def asksAudio : DsoftbusKind → Bool
  | outputAudio => true
  | _ => false

end DsoftbusKind

structure DsoftbusPlugin where
  state : PluginState := .created
  ownerName : String := ""
  peerDevId : String := ""
  sessionName : String := ""
  dumpFlag : Bool := false
  reDumpFlag : Bool := false
  bufferPopTask : Bool := false
  isrunning : Bool := false
  paramsMap : ParamsMap := fun _ => none

namespace DsoftbusPlugin
variable (parse : String → Option CJson) (kind : DsoftbusKind)

def init (p : DsoftbusPlugin) : Status × DsoftbusPlugin :=
  (.ok, { p with
    dumpFlag := if kind.dumps then false else p.dumpFlag
    reDumpFlag := if kind.dumps then false else p.reDumpFlag
    state := .initialized })

def prepare (adapter : AdapterAnswers) (p : DsoftbusPlugin) : Status × DsoftbusPlugin :=
  if p.state ≠ .initialized then (.errorWrongState, p)
  else
    let p := { p with sessionName := p.ownerName ++ "_" ++ kind.suffix }
    if kind.serves && !(adapter.registers && adapter.serves) then (.errorInvalidOperation, p)
    else
      let p := { p with bufferPopTask := true }
      if kind.asksAudio &&
          !((p.paramsMap .audioChannels).isSome && (p.paramsMap .audioSampleRate).isSome) then
        (.errorUnknown, p)
      else (.ok, { p with state := .prepared })

/-- `Reset`, and `Deinit`. The owner, the device and the session stay. -/
def reset (p : DsoftbusPlugin) : Status × DsoftbusPlugin :=
  (.ok, { p with
    paramsMap := fun _ => none
    isrunning := if kind.serves && p.bufferPopTask then false else p.isrunning
    bufferPopTask := false
    state := .initialized })

def setParameter (tag : Tag) (value : tag.Value) (p : DsoftbusPlugin) : Status × DsoftbusPlugin :=
  let p := { p with paramsMap := p.paramsMap.insert tag value }
  match tag, value with
  | .mediaDescription, descJsonStr =>
      let read := parseChannelDescription parse descJsonStr p.ownerName p.peerDevId
      (.ok, { p with ownerName := read.1, peerDevId := read.2 })
  | .sectionUserSpecificStart, flag =>
      (.ok, if kind.dumps then { p with dumpFlag := flag } else p)
  | .sectionVideoSpecificStart, flag =>
      (.ok, if kind.dumps then { p with reDumpFlag := flag } else p)
  | _, _ => (.ok, p)

/-- The plugins of one kind. -/
def ofKind : PluginClass DsoftbusPlugin where
  create := fun _ => {}
  init := init kind
  prepare := prepare kind
  reset := reset kind
  setParameter := setParameter parse kind

end DsoftbusPlugin

/-- `DaudioInputPlugin`, `DscreenInputPlugin` and `DaudioOutputPlugin`. -/
inductive MemoryKind
  | daudioInput | dscreenInput | daudioOutput
  deriving DecidableEq

/-- Only the audio output has a state. -/
structure MemoryPlugin where
  state : PluginState := .created
  sharedMemory : AVTransSharedMemory := noSharedMemory
  paramsMap : ParamsMap := fun _ => none

namespace MemoryPlugin
variable (parse : String → Option CJson) (kind : MemoryKind)

def init (p : MemoryPlugin) : Status × MemoryPlugin :=
  match kind with
  | .daudioOutput => (.ok, { p with state := .initialized })
  | .daudioInput | .dscreenInput => (.ok, p)

/-- The inputs have the `Prepare` of their base, which does nothing. -/
def prepare (_ : AdapterAnswers) (p : MemoryPlugin) : Status × MemoryPlugin :=
  match kind with
  | .daudioOutput =>
      if p.state ≠ .initialized then (.errorWrongState, p)
      else if !((p.paramsMap .audioChannels).isSome && (p.paramsMap .audioSampleRate).isSome &&
          (p.paramsMap .audioChannelLayout).isSome) then (.errorUnknown, p)
      else (.ok, { p with state := .prepared })
  | .daudioInput | .dscreenInput => (.ok, p)

/-- The shared memory stays. -/
def reset (p : MemoryPlugin) : Status × MemoryPlugin :=
  match kind with
  | .daudioOutput => (.ok, { p with paramsMap := fun _ => none, state := .initialized })
  | .daudioInput | .dscreenInput => (.ok, { p with paramsMap := fun _ => none })

def setParameter (tag : Tag) (value : tag.Value) (p : MemoryPlugin) : Status × MemoryPlugin :=
  let p := { p with paramsMap := p.paramsMap.insert tag value }
  match tag, value with
  | .userSharedMemoryFd, jsonStr =>
      (.ok, { p with sharedMemory := unmarshalSharedMemory parse jsonStr })
  | _, _ => (.ok, p)

end MemoryPlugin

/-- The parameters of a `DScreenOutputController`. -/
structure ControllerParams where
  sharedMem : AVTransSharedMemory := noSharedMemory
  devClockDiff : Int := 0
  paramsMap : ParamsMap := fun _ => none

def ControllerParams.setParameter (parse : String → Option CJson) (tag : Tag) (value : tag.Value)
    (c : ControllerParams) : ControllerParams :=
  let c := { c with paramsMap := c.paramsMap.insert tag value }
  match tag, value with
  | .userSharedMemoryFd, jsonStr => { c with sharedMem := unmarshalSharedMemory parse jsonStr }
  | .userTimeSyncResult, jsonStr => { c with devClockDiff := atoi (cStr jsonStr) }
  | _, _ => c

structure DscreenOutputPlugin where
  state : PluginState := .created
  controller : Option ControllerParams := none

namespace DscreenOutputPlugin
variable (parse : String → Option CJson)

def init (p : DscreenOutputPlugin) : Status × DscreenOutputPlugin :=
  (.ok, { controller := some (p.controller.getD {}), state := .initialized })

def prepare (_ : AdapterAnswers) (p : DscreenOutputPlugin) : Status × DscreenOutputPlugin :=
  if p.state ≠ .initialized then (.errorWrongState, p)
  else if p.controller.isNone then (.errorNullPointer, p)
  else (.ok, { p with state := .prepared })

/-- The controller goes. -/
def reset (_ : DscreenOutputPlugin) : Status × DscreenOutputPlugin :=
  (.ok, { controller := none, state := .initialized })

def setParameter (tag : Tag) (value : tag.Value) (p : DscreenOutputPlugin) :
    Status × DscreenOutputPlugin :=
  match p.controller with
  | none => (.errorNullPointer, p)
  | some c => (.ok, { p with controller := some (c.setParameter parse tag value) })

end DscreenOutputPlugin

/-- The eight plugins. -/
inductive PluginKind
  | dsoftbus (kind : DsoftbusKind)
  | memory (kind : MemoryKind)
  | dscreenOutput
  deriving DecidableEq

inductive AvTransPlugin
  | dsoftbus (kind : DsoftbusKind) (p : DsoftbusPlugin)
  | memory (kind : MemoryKind) (p : MemoryPlugin)
  | dscreenOutput (p : DscreenOutputPlugin)

namespace AvTransPlugin

def create : PluginKind → AvTransPlugin
  | .dsoftbus kind => .dsoftbus kind {}
  | .memory kind => .memory kind {}
  | .dscreenOutput => .dscreenOutput {}

def init : AvTransPlugin → Status × AvTransPlugin
  | .dsoftbus kind p => ((p.init kind).1, .dsoftbus kind (p.init kind).2)
  | .memory kind p => ((p.init kind).1, .memory kind (p.init kind).2)
  | .dscreenOutput p => (p.init.1, .dscreenOutput p.init.2)

def prepare (adapter : AdapterAnswers) : AvTransPlugin → Status × AvTransPlugin
  | .dsoftbus kind p => ((p.prepare kind adapter).1, .dsoftbus kind (p.prepare kind adapter).2)
  | .memory kind p => ((p.prepare kind adapter).1, .memory kind (p.prepare kind adapter).2)
  | .dscreenOutput p => ((p.prepare adapter).1, .dscreenOutput (p.prepare adapter).2)

def reset : AvTransPlugin → Status × AvTransPlugin
  | .dsoftbus kind p => ((p.reset kind).1, .dsoftbus kind (p.reset kind).2)
  | .memory kind p => ((p.reset kind).1, .memory kind (p.reset kind).2)
  | .dscreenOutput p => (p.reset.1, .dscreenOutput p.reset.2)

def setParameter (parse : String → Option CJson) (tag : Tag) (value : tag.Value) :
    AvTransPlugin → Status × AvTransPlugin
  | .dsoftbus kind p => ((p.setParameter parse kind tag value).1,
      .dsoftbus kind (p.setParameter parse kind tag value).2)
  | .memory kind p => ((p.setParameter parse tag value).1,
      .memory kind (p.setParameter parse tag value).2)
  | .dscreenOutput p => ((p.setParameter parse tag value).1,
      .dscreenOutput (p.setParameter parse tag value).2)

/-- The plugins by the names they are registered under. -/
def registered (parse : String → Option CJson) (kindOf : String → PluginKind) :
    PluginClass AvTransPlugin where
  create := fun name => create (kindOf name)
  init := init
  prepare := prepare
  reset := reset
  setParameter := setParameter parse

end AvTransPlugin
end DistributedHardware
