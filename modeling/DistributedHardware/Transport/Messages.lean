import Mathlib.Data.List.TakeWhile
import DistributedHardware.Library.Store
import DistributedHardware.Library.Buffered
import DistributedHardware.Resource.CapabilityInfo

/-!
The messages of `DHCommTool` on their way through `DHTransport`.

A message is printed, compressed and sent on one side, decompressed and parsed on the
other, and so once more inside it for a full-capabilities response. zlib and cJSON are
third-party libraries: the stream that a text deflates to, the one that a stream inflates
to, the printer and the parser are arguments. What is compressed is bytes, and the parser
reads bytes.
-/

namespace DistributedHardware

def errDhFwkComponentTransportOptFailed : Int := -10012

/-- The bytes of a `std::string`. -/
def utf8 (s : String) : List UInt8 := s.toUTF8.data.toList

namespace DhTransport

def maxSendMsgLength : Nat := 4 * 1024 * 1024
def compressSliceSize : Nat := 1024

def dhCommReqFullCaps : Int32 := 1
def dhCommRspFullCaps : Int32 := 2

structure FullCapsRsp where
  networkId : String := ""
  caps : List CapabilityInfo := []
  deriving DecidableEq

structure CommMsg where
  code : Int32 := -1
  msg : String := ""
  deriving DecidableEq

def FullCapsRsp.toJson (capsRsp : FullCapsRsp) : CJson :=
  .object [("networkId", .string (cStr capsRsp.networkId)),
    ("caps", .array (capsRsp.caps.map (fun cap => cap.cStr.toJson)))]

def FullCapsRsp.fromJson (json : CJson) (capsRsp : FullCapsRsp) : FullCapsRsp :=
  let capsRsp :=
    if json.isString "networkId" then { capsRsp with networkId := json.valuestring "networkId" }
    else capsRsp
  if json.isArray "caps" then
    { capsRsp with
      caps := capsRsp.caps ++
        (json.arrayItems "caps").map (fun cap => CapabilityInfo.fromJson cap {}) }
  else capsRsp

def CommMsg.toJson (commMsg : CommMsg) : CJson :=
  .object [("code", .number commMsg.code.toInt), ("msg", .string (cStr commMsg.msg))]

def CommMsg.fromJson (json : CJson) (commMsg : CommMsg) : CommMsg :=
  let commMsg :=
    if json.isInt32 "code" then { commMsg with code := Int32.ofInt (json.valueint "code") }
    else commMsg
  if json.isString "msg" then { commMsg with msg := json.valuestring "msg" } else commMsg

/-- The remote network id of a socket: the first of the map that has it. -/
def getRemoteNetworkIdBySocketId (remoteDevSocketIds : Store String Int) (socketId : Int) :
    String :=
  ((remoteDevSocketIds.keys.filter
    (fun networkId => remoteDevSocketIds.get networkId = some socketId)).min?).getD ""

section Libraries
variable (deflated inflated : List UInt8 → List UInt8)
variable (printUnformatted : CJson → Option String) (parse : List UInt8 → Option CJson)

def compress (data : String) : List UInt8 := readBuffered compressSliceSize (deflated (utf8 data))

def decompress (data : List UInt8) : List UInt8 := readBuffered compressSliceSize (inflated data)

def getCommMsgString (commMsg : CommMsg) : String := (printUnformatted commMsg.toJson).getD ""

/-- The result, and what `SendBytes` is called with; `taken` says whether it succeeds. A
copy of no bytes fails. -/
def send (remoteDevSocketIds : Store String Int) (taken : Bool)
    (remoteNetworkId payload : String) : Int × Option (Int × List UInt8) :=
  if !isIdLengthValid remoteNetworkId || !isMessageLengthValid payload then
    (errDhFwkParaInvalid, none)
  else
    match remoteDevSocketIds.get remoteNetworkId with
    | none => (errDhFwkComponentTransportOptFailed, none)
    | some socketId =>
        let compressedPayLoad := compress deflated payload
        if compressedPayLoad.length > maxSendMsgLength then
          (errDhFwkComponentTransportOptFailed, none)
        else if compressedPayLoad = [] then (errDhFwkComponentTransportOptFailed, none)
        else if taken then (dhFwkSuccess, some (socketId, compressedPayLoad))
        else (errDhFwkComponentTransportOptFailed, some (socketId, compressedPayLoad))

/-- The message that is posted to the event handler. -/
def handleReceiveMessage (payload : List UInt8) : Option CommMsg :=
  if payload = [] ∨ payload.length > maxMessageLen then none
  else (parse (decompress inflated payload)).map (fun root => CommMsg.fromJson root {})

def onBytesReceived (remoteDevSocketIds : Store String Int) (socketId : Int)
    (data : List UInt8) : Option CommMsg :=
  if socketId < 0 ∨ data = [] ∨ data.length > maxSendMsgLength then none
  else if getRemoteNetworkIdBySocketId remoteDevSocketIds socketId = "" then none
  else handleReceiveMessage inflated parse data

/-- The response that is sent for a request; without a text nothing is sent. -/
def fullCapsMsg (capsRsp : FullCapsRsp) : Option CommMsg :=
  (printUnformatted capsRsp.toJson).map (fun msg => { code := dhCommRspFullCaps, msg })

/-- What is read of a response. Saving it changes nothing of it. -/
def parseRemoteDHCaps (remoteCaps : String) : FullCapsRsp :=
  match parse (utf8 remoteCaps) with
  | none => {}
  | some root => FullCapsRsp.fromJson root {}

/-- What is documented of the libraries: inflating undoes deflating, the parser reads back
what the printer prints, and what it prints is a C string no shorter than any string of
the tree. -/
structure Libraries : Prop where
  inflate : ∀ data, inflated (deflated data) = data
  parsePrinted : ∀ json text, printUnformatted json = some text → parse (utf8 text) = some json
  cString : ∀ json text, printUnformatted json = some text → cStr text = text
  contained : ∀ json text s, printUnformatted json = some text → json.Contains s →
    s.utf8ByteSize ≤ text.utf8ByteSize

end Libraries

section Strings
variable {s : String}

theorem cStr_eq_self_iff : cStr s = s ↔ Char.ofNat 0 ∉ s.toList := by
  rw [cStr, ← String.toList_inj, String.toList_ofList, List.takeWhile_eq_self_iff]
  constructor
  · intro h mem
    simpa using h _ mem
  · intro h c hc
    rw [decide_eq_true_eq]
    rintro rfl
    exact h hc

theorem cStr_cStr : cStr (cStr s) = cStr s := by
  rw [cStr_eq_self_iff, cStr, String.toList_ofList]
  intro mem
  have := List.mem_takeWhile_imp mem
  simp at this

theorem utf8ByteSize_cStr_le : (cStr s).utf8ByteSize ≤ s.utf8ByteSize := by
  have split : cStr s ++ String.ofList (s.toList.dropWhile (· ≠ Char.ofNat 0)) = s := by
    rw [cStr, ← String.toList_inj, String.toList_append, String.toList_ofList,
      String.toList_ofList, List.takeWhile_append_dropWhile]
  have size := congrArg String.utf8ByteSize split
  rw [String.utf8ByteSize_append] at size
  omega

theorem cStr_empty : cStr "" = "" := rfl

/-- A string member that is short enough is read unless it is empty. -/
theorem isString_of_item {json : CJson} {key : String}
    (item : json.getObjectItem key = some (.string s)) (fits : s.utf8ByteSize ≤ maxMessageLen) :
    json.isString key = decide (s ≠ "") ∧ json.valuestring key = s := by
  unfold CJson.isString CJson.valuestring
  rw [item]
  refine ⟨?_, rfl⟩
  rw [Bool.eq_iff_iff, Bool.and_eq_true, decide_eq_true_eq, decide_eq_true_eq, decide_eq_true_eq,
    and_iff_left fits, minMessageLen, Nat.pos_iff_ne_zero, Ne, String.utf8ByteSize_eq_zero_iff]

end Strings

/-- The fields of a capability before its first empty string: the peer reads no more. -/
def beforeEmpty (cap : CapabilityInfo) : CapabilityInfo :=
  if cap.dhId = "" then {}
  else if cap.deviceId = "" then { dhId := cap.dhId }
  else if cap.deviceName = "" then { dhId := cap.dhId, deviceId := cap.deviceId }
  else if cap.dhAttrs = "" then
    { dhId := cap.dhId, deviceId := cap.deviceId, deviceName := cap.deviceName,
      deviceType := cap.deviceType, dhType := cap.dhType }
  else cap

/-- The strings of a capability, in the order of their members. -/
def capStrings (cap : CapabilityInfo) : List String :=
  [cap.dhId, cap.deviceId, cap.deviceName, cap.dhAttrs, cap.dhSubtype]

/-- A tree has the members of a capability. -/
structure CapabilityItems (json : CJson) (cap : CapabilityInfo) : Prop where
  dhId : json.getObjectItem "dh_id" = some (.string cap.dhId)
  deviceId : json.getObjectItem "dev_id" = some (.string cap.deviceId)
  deviceName : json.getObjectItem "dev_name" = some (.string cap.deviceName)
  deviceType : json.getObjectItem "dev_type" = some (.number cap.deviceType.toNat)
  dhType : json.getObjectItem "dh_type" = some (.number cap.dhType.toNat)
  dhAttrs : json.getObjectItem "dh_attrs" = some (.string cap.dhAttrs)
  dhSubtype : json.getObjectItem "dh_subtype" = some (.string cap.dhSubtype)

theorem capabilityItems_toJson (cap : CapabilityInfo) : CapabilityItems cap.toJson cap := by
  constructor <;> simp [CapabilityInfo.toJson, CJson.getObjectItem]

theorem number_of_items {json : CJson} {cap : CapabilityInfo} (items : CapabilityItems json cap) :
    json.isUInt16 "dev_type" = true ∧ json.isUInt32 "dh_type" = true ∧
      UInt16.ofNat (json.valueunsigned "dev_type") = cap.deviceType ∧
      UInt32.ofNat (json.valueunsigned "dh_type") = cap.dhType := by
  have devType := cap.deviceType.toNat_lt
  have dhType := UInt32.toNat_lt cap.dhType
  simp only [CJson.isUInt16, CJson.isUInt32, CJson.valueunsigned, items.deviceType, items.dhType]
  refine ⟨?_, ?_, ?_, ?_⟩
  · rw [Bool.and_eq_true, decide_eq_true_eq, decide_eq_true_eq]
    exact ⟨by positivity, by exact_mod_cast (by omega : cap.deviceType.toNat ≤ 65535)⟩
  · rw [Bool.and_eq_true, decide_eq_true_eq, decide_eq_true_eq]
    exact ⟨by positivity, by exact_mod_cast (by omega : UInt32.toNat cap.dhType ≤ 4294967295)⟩
  · rw [Int.floor_natCast, Int.toNat_natCast, UInt16.ofNat_toNat]
  · rw [Int.floor_natCast, Int.toNat_natCast]
    exact UInt32.ofNat_toNat

/-- What is read of the members of a capability. -/
theorem fromJson_of_items {json : CJson} {cap : CapabilityInfo} (items : CapabilityItems json cap)
    (fits : ∀ s ∈ capStrings cap, s.utf8ByteSize ≤ maxMessageLen) :
    CapabilityInfo.fromJson json {} = beforeEmpty cap := by
  simp only [capStrings, List.forall_mem_cons, List.not_mem_nil, false_implies, implies_true,
    and_true] at fits
  obtain ⟨fitsDhId, fitsDeviceId, fitsName, fitsAttrs, fitsSubtype⟩ := fits
  obtain ⟨isDevType, isDhType, devType, dhType⟩ := number_of_items items
  obtain ⟨isDhId, dhId⟩ := isString_of_item items.dhId fitsDhId
  obtain ⟨isDeviceId, deviceId⟩ := isString_of_item items.deviceId fitsDeviceId
  obtain ⟨isName, name⟩ := isString_of_item items.deviceName fitsName
  obtain ⟨isAttrs, attrs⟩ := isString_of_item items.dhAttrs fitsAttrs
  obtain ⟨isSubtype, subtype⟩ := isString_of_item items.dhSubtype fitsSubtype
  simp only [CapabilityInfo.fromJson, Id.run, isDhId, isDeviceId, isName, isDevType, isDhType,
    isAttrs, isSubtype, dhId, deviceId, name, devType, dhType, attrs, subtype]
  unfold beforeEmpty
  by_cases emptyDhId : cap.dhId = ""
  · simp [emptyDhId, pure]
  by_cases emptyDeviceId : cap.deviceId = ""
  · simp [emptyDhId, emptyDeviceId, pure]
  by_cases emptyName : cap.deviceName = ""
  · simp [emptyDhId, emptyDeviceId, emptyName, pure]
  by_cases emptyAttrs : cap.dhAttrs = ""
  · simp [emptyDhId, emptyDeviceId, emptyName, emptyAttrs, pure]
  by_cases emptySubtype : cap.dhSubtype = ""
  · simp [emptyDhId, emptyDeviceId, emptyName, emptyAttrs, emptySubtype]
    exact congrArg (fun s => ({ cap with dhSubtype := s } : CapabilityInfo)) emptySubtype.symm
  · simp [emptyDhId, emptyDeviceId, emptyName, emptyAttrs, emptySubtype, pure]

theorem fromJson_toJson_cap (cap : CapabilityInfo)
    (fits : ∀ s ∈ capStrings cap, s.utf8ByteSize ≤ maxMessageLen) :
    CapabilityInfo.fromJson cap.toJson {} = beforeEmpty cap :=
  fromJson_of_items (capabilityItems_toJson cap) fits

theorem CommMsg.fromJson_toJson (commMsg : CommMsg)
    (fits : (cStr commMsg.msg).utf8ByteSize ≤ maxMessageLen) :
    CommMsg.fromJson commMsg.toJson {} = { commMsg with msg := cStr commMsg.msg } := by
  have item : commMsg.toJson.getObjectItem "code" = some (.number commMsg.code.toInt) := by
    simp [CommMsg.toJson, CJson.getObjectItem]
  have low := commMsg.code.le_toInt
  have high := commMsg.code.toInt_lt
  have isCode : commMsg.toJson.isInt32 "code" = true := by
    simp only [CJson.isInt32, item, Bool.and_eq_true, decide_eq_true_eq]
    exact ⟨by exact_mod_cast low, by exact_mod_cast (by omega : commMsg.code.toInt ≤ 2147483647)⟩
  have code : Int32.ofInt (commMsg.toJson.valueint "code") = commMsg.code := by
    simp [CJson.valueint, item]
  have itemMsg : commMsg.toJson.getObjectItem "msg" = some (.string (cStr commMsg.msg)) := by
    simp [CommMsg.toJson, CJson.getObjectItem]
  obtain ⟨isMsg, msg⟩ := isString_of_item itemMsg fits
  simp only [CommMsg.fromJson, isCode, code, isMsg, msg, if_true]
  by_cases empty : cStr commMsg.msg = ""
  · simp [empty]
  · simp [empty]

/-- What the peer reads of a response: nothing of a list that is too long, and of each
capability the fields before the first empty string. -/
def FullCapsRsp.read (capsRsp : FullCapsRsp) : FullCapsRsp where
  networkId := cStr capsRsp.networkId
  caps :=
    if capsRsp.caps.length ≤ maxArrSize then capsRsp.caps.map (fun cap => beforeEmpty cap.cStr)
    else []

theorem FullCapsRsp.fromJson_toJson (capsRsp : FullCapsRsp)
    (fits : (cStr capsRsp.networkId).utf8ByteSize ≤ maxMessageLen)
    (capsFit : ∀ cap ∈ capsRsp.caps, ∀ s ∈ capStrings cap.cStr, s.utf8ByteSize ≤ maxMessageLen) :
    FullCapsRsp.fromJson capsRsp.toJson {} = capsRsp.read := by
  have item : capsRsp.toJson.getObjectItem "caps" =
      some (.array (capsRsp.caps.map (fun cap => cap.cStr.toJson))) := by
    simp [FullCapsRsp.toJson, CJson.getObjectItem]
  have isCaps : capsRsp.toJson.isArray "caps" = decide (capsRsp.caps.length ≤ maxArrSize) := by
    simp only [CJson.isArray, item, List.length_map]
  have caps : (capsRsp.toJson.arrayItems "caps").map (fun cap => CapabilityInfo.fromJson cap {}) =
      capsRsp.caps.map (fun cap => beforeEmpty cap.cStr) := by
    simp only [CJson.arrayItems, item, List.map_map]
    apply List.map_congr_left
    exact fun cap hcap => fromJson_toJson_cap cap.cStr (capsFit cap hcap)
  have itemId : capsRsp.toJson.getObjectItem "networkId" =
      some (.string (cStr capsRsp.networkId)) := by
    simp [FullCapsRsp.toJson, CJson.getObjectItem]
  obtain ⟨isId, networkId⟩ := isString_of_item itemId fits
  simp only [FullCapsRsp.fromJson, isId, networkId, isCaps, caps, FullCapsRsp.read,
    decide_eq_true_eq]
  by_cases empty : cStr capsRsp.networkId = ""
  · simp only [empty, ne_eq, not_true_eq_false, if_false, List.nil_append]
    split <;> rfl
  · simp only [empty, ne_eq, not_false_eq_true, if_true, List.nil_append]
    split <;> rfl

/-- A response that the peer reads as it is: no string has a NUL in it, the list is not
too long, and nothing in a capability follows an empty string. -/
structure FullCapsRsp.Survives (capsRsp : FullCapsRsp) : Prop where
  networkId : cStr capsRsp.networkId = capsRsp.networkId
  size : capsRsp.caps.length ≤ maxArrSize
  caps : ∀ cap ∈ capsRsp.caps, cap.cStr = cap ∧ beforeEmpty cap = cap

/-- What is left of a capability has no NUL in it. -/
theorem cStr_beforeEmpty (cap : CapabilityInfo) :
    (beforeEmpty cap.cStr).cStr = beforeEmpty cap.cStr := by
  unfold beforeEmpty
  split
  · rfl
  · split
    · simp [CapabilityInfo.cStr, cStr_cStr, cStr_empty]
    · split
      · simp [CapabilityInfo.cStr, cStr_cStr, cStr_empty]
      · split
        · simp [CapabilityInfo.cStr, cStr_cStr, cStr_empty]
        · simp [CapabilityInfo.cStr, cStr_cStr]

theorem beforeEmpty_cStr_eq_iff (cap : CapabilityInfo) :
    beforeEmpty cap.cStr = cap ↔ cap.cStr = cap ∧ beforeEmpty cap = cap := by
  constructor
  · intro h
    have plain : cap.cStr = cap := by
      rw [← h]
      exact cStr_beforeEmpty cap
    refine ⟨plain, ?_⟩
    rwa [plain] at h
  · rintro ⟨plain, kept⟩
    rw [plain, kept]

theorem FullCapsRsp.read_eq_iff (capsRsp : FullCapsRsp) :
    capsRsp.read = capsRsp ↔ capsRsp.Survives := by
  obtain ⟨networkId, caps⟩ := capsRsp
  have mapped : caps.map (fun cap => beforeEmpty cap.cStr) = caps ↔
      ∀ cap ∈ caps, cap.cStr = cap ∧ beforeEmpty cap = cap := by
    rw [← forall₂_congr (fun cap _ => beforeEmpty_cStr_eq_iff cap), ← List.map_inj_left,
      List.map_id']
  simp only [FullCapsRsp.read, FullCapsRsp.mk.injEq]
  by_cases size : caps.length ≤ maxArrSize
  · rw [if_pos size, mapped]
    exact ⟨fun h => ⟨h.1, size, h.2⟩, fun h => ⟨h.networkId, h.caps⟩⟩
  · rw [if_neg size]
    refine iff_of_false ?_ (fun h => size h.size)
    rintro ⟨-, rfl⟩
    exact size (Nat.zero_le _)

section Delivery
variable {deflated inflated : List UInt8 → List UInt8}
variable {printUnformatted : CJson → Option String} {parse : List UInt8 → Option CJson}

theorem length_utf8 (s : String) : (utf8 s).length = s.utf8ByteSize := by
  rw [utf8, Array.length_toList]
  rfl

/-- What is sent with success is the deflated payload, within the limits. -/
theorem send_eq_success_iff {sockets : Store String Int} {taken : Bool}
    {remoteNetworkId payload : String} {socketId : Int} {data : List UInt8} :
    send deflated sockets taken remoteNetworkId payload = (dhFwkSuccess, some (socketId, data)) ↔
      taken = true ∧ isIdLengthValid remoteNetworkId = true ∧
        sockets.get remoteNetworkId = some socketId ∧
        (payload ≠ "" ∧ payload.utf8ByteSize ≤ maxMessageLen) ∧
        data = deflated (utf8 payload) ∧ data ≠ [] ∧ data.length ≤ maxSendMsgLength := by
  have whole : compress deflated payload = deflated (utf8 payload) := readBuffered_eq (by decide) _
  have failure : errDhFwkComponentTransportOptFailed ≠ dhFwkSuccess := by decide
  have valid : isMessageLengthValid payload = true ↔
      payload ≠ "" ∧ payload.utf8ByteSize ≤ maxMessageLen := by
    simp [isMessageLengthValid]
  unfold send
  rw [whole, ← valid]
  cases isIdLengthValid remoteNetworkId with
  | false => simp
  | true =>
      cases isMessageLengthValid payload with
      | false => simp
      | true =>
          cases sockets.get remoteNetworkId with
          | none => simp
          | some socket =>
              simp only [Bool.not_true, Bool.or_self, Bool.false_eq_true, if_false]
              by_cases long : (deflated (utf8 payload)).length > maxSendMsgLength
              · rw [if_pos long]
                refine iff_of_false (by simp) ?_
                rintro ⟨-, -, -, -, rfl, -, fits⟩
                exact absurd long (Nat.not_lt.mpr fits)
              · by_cases empty : deflated (utf8 payload) = []
                · rw [if_neg long, if_pos empty]
                  refine iff_of_false (by simp) ?_
                  rintro ⟨-, -, -, -, rfl, nonempty, -⟩
                  exact nonempty empty
                · cases taken with
                  | false => simp [long, empty, failure]
                  | true =>
                      simp only [long, empty, if_true, if_false, Prod.mk.injEq, true_and,
                        Option.some.injEq]
                      constructor
                      · rintro ⟨rfl, rfl⟩
                        exact ⟨rfl, rfl, empty, Nat.not_lt.mp long⟩
                      · rintro ⟨rfl, rfl, -⟩
                        exact ⟨rfl, rfl⟩

/-- The receiver has the session recorded. -/
def Recorded (remoteDevSocketIds : Store String Int) (socketId : Int) : Prop :=
  0 ≤ socketId ∧ getRemoteNetworkIdBySocketId remoteDevSocketIds socketId ≠ ""

instance (remoteDevSocketIds : Store String Int) (socketId : Int) :
    Decidable (Recorded remoteDevSocketIds socketId) :=
  inferInstanceAs (Decidable (_ ∧ _))

/-- Data within the limits are inflated and parsed, on a recorded session. -/
theorem onBytesReceived_eq {sockets : Store String Int} {socketId : Int} {data : List UInt8}
    (nonempty : data ≠ []) (fits : data.length ≤ maxSendMsgLength) {msg : CommMsg} :
    onBytesReceived inflated parse sockets socketId data = some msg ↔
      Recorded sockets socketId ∧
        (parse (inflated data)).map (fun root => CommMsg.fromJson root {}) = some msg := by
  have short : ¬ data.length > maxMessageLen := by
    simp only [maxSendMsgLength, maxMessageLen] at fits ⊢
    omega
  have whole : decompress inflated data = inflated data := readBuffered_eq (by decide) _
  unfold onBytesReceived handleReceiveMessage Recorded
  rw [whole]
  simp only [nonempty, short, Nat.not_lt.mpr fits, or_false, if_false]
  by_cases negative : socketId < 0
  · simp [negative]
  · by_cases unknown : getRemoteNetworkIdBySocketId sockets socketId = ""
    · simp [negative, unknown]
    · simp [negative, unknown, Int.not_lt.mp negative]

/-- The string of a message, as it is printed, fits its payload. -/
theorem fits_of_printed (lib : Libraries deflated inflated printUnformatted parse)
    {json : CJson} {text s : String} (printed : printUnformatted json = some text)
    (contained : json.Contains s) (short : text.utf8ByteSize ≤ maxMessageLen) :
    s.utf8ByteSize ≤ maxMessageLen :=
  (lib.contained json text s printed contained).trans short

theorem contains_msg (commMsg : CommMsg) : commMsg.toJson.Contains (cStr commMsg.msg) := by
  simp [CommMsg.toJson]

theorem contains_networkId (capsRsp : FullCapsRsp) :
    capsRsp.toJson.Contains (cStr capsRsp.networkId) := by
  simp [FullCapsRsp.toJson]

theorem contains_capString {capsRsp : FullCapsRsp} {cap : CapabilityInfo} {s : String}
    (hcap : cap ∈ capsRsp.caps) (hs : s ∈ capStrings cap.cStr) : capsRsp.toJson.Contains s := by
  have inCap : cap.cStr.toJson.Contains s := by
    simpa [CapabilityInfo.toJson, capStrings] using hs
  have inCaps : (CJson.array (capsRsp.caps.map (fun cap => cap.cStr.toJson))).Contains s :=
    .array (List.mem_map_of_mem hcap) inCap
  have mem : ("caps", CJson.array (capsRsp.caps.map (fun cap => cap.cStr.toJson))) ∈
      [("networkId", CJson.string (cStr capsRsp.networkId)),
        ("caps", .array (capsRsp.caps.map (fun cap => cap.cStr.toJson)))] := by
    simp
  exact .object mem inCaps

section Sent
variable {sockets peerSockets : Store String Int} {taken : Bool} {remoteNetworkId : String}
variable {commMsg : CommMsg} {socketId peerSocketId : Int} {data : List UInt8}

/-- A message that was sent with success is received on a recorded session, with its text
as far as a C string goes. -/
theorem received_of_sent (lib : Libraries deflated inflated printUnformatted parse)
    (sent : send deflated sockets taken remoteNetworkId
      (getCommMsgString printUnformatted commMsg) = (dhFwkSuccess, some (socketId, data)))
    (received : CommMsg) :
    onBytesReceived inflated parse peerSockets peerSocketId data = some received ↔
      Recorded peerSockets peerSocketId ∧
        { commMsg with msg := cStr commMsg.msg } = received := by
  obtain ⟨-, -, -, ⟨printable, short⟩, rfl, nonempty, fits⟩ := send_eq_success_iff.mp sent
  have printed : printUnformatted commMsg.toJson =
      some (getCommMsgString printUnformatted commMsg) := by
    unfold getCommMsgString at printable ⊢
    cases htext : printUnformatted commMsg.toJson with
    | none => simp [htext] at printable
    | some text => rfl
  have msgFits := fits_of_printed lib printed (contains_msg commMsg) short
  rw [onBytesReceived_eq nonempty fits, lib.inflate, lib.parsePrinted _ _ printed,
    Option.map_some, CommMsg.fromJson_toJson commMsg msgFits, Option.some.injEq]

/-- The response that such a message carries is read as far as the peer reads it. -/
theorem read_of_sent (lib : Libraries deflated inflated printUnformatted parse)
    (sent : send deflated sockets taken remoteNetworkId
      (getCommMsgString printUnformatted commMsg) = (dhFwkSuccess, some (socketId, data)))
    {capsRsp : FullCapsRsp} (hmsg : fullCapsMsg printUnformatted capsRsp = some commMsg)
    (read : FullCapsRsp) :
    (onBytesReceived inflated parse peerSockets peerSocketId data).map
        (fun received => parseRemoteDHCaps parse received.msg) = some read ↔
      Recorded peerSockets peerSocketId ∧ capsRsp.read = read := by
  have received (msg : CommMsg) :
      onBytesReceived inflated parse peerSockets peerSocketId data = some msg ↔ _ :=
    received_of_sent lib sent msg
  obtain ⟨text, htext, rfl⟩ := Option.map_eq_some_iff.mp hmsg
  have plain : cStr text = text := lib.cString _ _ htext
  have msgFits : text.utf8ByteSize ≤ maxMessageLen := by
    obtain ⟨-, -, -, ⟨printable, short⟩, -⟩ := send_eq_success_iff.mp sent
    unfold getCommMsgString at printable short
    cases hpayload : printUnformatted
        (CommMsg.toJson { code := dhCommRspFullCaps, msg := text }) with
    | none => simp [hpayload] at printable
    | some payload =>
        rw [hpayload] at short
        have contains := contains_msg { code := dhCommRspFullCaps, msg := text }
        rw [plain] at contains
        exact fits_of_printed lib hpayload contains short
  have parsed : parseRemoteDHCaps parse text = capsRsp.read := by
    unfold parseRemoteDHCaps
    rw [lib.parsePrinted _ _ htext]
    apply FullCapsRsp.fromJson_toJson
    · exact fits_of_printed lib htext (contains_networkId capsRsp) msgFits
    · exact fun cap hcap s hs => fits_of_printed lib htext (contains_capString hcap hs) msgFits
  rw [plain] at received
  rw [Option.map_eq_some_iff, ← parsed]
  constructor
  · rintro ⟨msg, hreceived, hread⟩
    obtain ⟨recorded, rfl⟩ := (received msg).mp hreceived
    exact ⟨recorded, hread⟩
  · rintro ⟨recorded, hread⟩
    exact ⟨_, (received _).mpr ⟨recorded, rfl⟩, hread⟩

end Sent
end Delivery

section Example

/-- Libraries that print two given trees, and nothing else. -/
theorem exists_libraries {tree₁ tree₂ : CJson} {text₁ text₂ : String} (trees : tree₁ ≠ tree₂)
    (texts : text₁.utf8ByteSize ≠ text₂.utf8ByteSize)
    (cString₁ : cStr text₁ = text₁) (cString₂ : cStr text₂ = text₂)
    (contained₁ : ∀ s, tree₁.Contains s → s.utf8ByteSize ≤ text₁.utf8ByteSize)
    (contained₂ : ∀ s, tree₂.Contains s → s.utf8ByteSize ≤ text₂.utf8ByteSize) :
    ∃ printUnformatted parse, Libraries id id printUnformatted parse ∧
      printUnformatted tree₁ = some text₁ ∧ printUnformatted tree₂ = some text₂ := by
  classical
  have apart : utf8 text₂ ≠ utf8 text₁ := by
    intro h
    have h := congrArg List.length h
    rw [length_utf8, length_utf8] at h
    exact texts h.symm
  refine ⟨fun json => if json = tree₁ then some text₁
      else if json = tree₂ then some text₂ else none,
    fun bytes => if bytes = utf8 text₁ then some tree₁
      else if bytes = utf8 text₂ then some tree₂ else none, ?_, ?_, ?_⟩
  · have cases_of {json : CJson} {text : String}
        (h : (if json = tree₁ then some text₁ else if json = tree₂ then some text₂ else none) =
          some text) : json = tree₁ ∧ text = text₁ ∨ json = tree₂ ∧ text = text₂ := by
      split at h
      case isTrue first => exact .inl ⟨first, (Option.some.inj h).symm⟩
      case isFalse =>
        split at h
        case isTrue second => exact .inr ⟨second, (Option.some.inj h).symm⟩
        case isFalse => cases h
    constructor
    case inflate => exact fun _ => rfl
    case parsePrinted =>
      intro json text h
      obtain ⟨rfl, rfl⟩ | ⟨rfl, rfl⟩ := cases_of h
      · exact if_pos rfl
      · rw [if_neg apart, if_pos rfl]
    case cString =>
      intro json text h
      obtain ⟨-, rfl⟩ | ⟨-, rfl⟩ := cases_of h
      · exact cString₁
      · exact cString₂
    case contained =>
      intro json text s h
      obtain ⟨rfl, rfl⟩ | ⟨rfl, rfl⟩ := cases_of h
      · exact contained₁ s
      · exact contained₂ s
  · exact if_pos rfl
  · exact (if_neg trees.symm).trans (if_pos rfl)

/-- A capability with all its fields set, but for the name. -/
def camera (deviceName : String) : CapabilityInfo where
  dhId := "h"
  deviceId := "d"
  deviceName
  deviceType := 14
  dhType := DhType.camera
  dhAttrs := "a"
  dhSubtype := "s"

/-- A text with the name of a device in it, piece by piece. -/
def textOf (before after : List String) (deviceName : String) : String :=
  String.join (before ++ deviceName :: after)

/-- A response with one capability, as it is printed. -/
def responseText : String → String :=
  textOf
    ["\x7b\"networkId\":\"n\",", "\"caps\":[\x7b", "\"dh_id\":\"h\",", "\"dev_id\":\"d\",",
      "\"dev_name\":\""]
    ["\",\"dev_type\":14,", "\"dh_type\":1,", "\"dh_attrs\":", "\"a\",", "\"dh_subtype\":\"s\"",
      "\x7d]\x7d"]

/-- The message that carries it, as it is printed. -/
def payloadText : String → String :=
  textOf
    ["\x7b\"code\":2,\"msg\":\"", "\x7b\\\"networkId\\\":\\\"n\\\",", "\\\"caps\\\":[\x7b",
      "\\\"dh_id\\\":\\\"h\\\",", "\\\"dev_id\\\":\\\"d\\\",", "\\\"dev_name\\\":\\\""]
    ["\\\",\\\"dev_type\\\":14,", "\\\"dh_type\\\":1,", "\\\"dh_attrs\\\":", "\\\"a\\\",",
      "\\\"dh_subtype\\\":\\\"s\\\"", "\x7d]\x7d", "\"\x7d"]

theorem utf8ByteSize_join (pieces : List String) :
    (String.join pieces).utf8ByteSize = (pieces.map String.utf8ByteSize).sum := by
  induction pieces with
  | nil => rfl
  | cons piece pieces ih =>
      rw [String.join_cons, String.utf8ByteSize_append, ih, List.map_cons, List.sum_cons]

theorem utf8ByteSize_textOf (before after : List String) (deviceName : String) :
    (textOf before after deviceName).utf8ByteSize =
      ((before ++ after).map String.utf8ByteSize).sum + deviceName.utf8ByteSize := by
  rw [textOf, utf8ByteSize_join, List.map_append, List.map_append, List.sum_append,
    List.sum_append, List.map_cons, List.sum_cons]
  omega

theorem cStr_textOf {before after : List String} {deviceName : String}
    (fixed : ∀ piece ∈ before ++ after, Char.ofNat 0 ∉ piece.toList)
    (plain : Char.ofNat 0 ∉ deviceName.toList) :
    cStr (textOf before after deviceName) = textOf before after deviceName := by
  rw [cStr_eq_self_iff, textOf, String.toList_join, List.mem_flatMap]
  rintro ⟨piece, hpiece, mem⟩
  rw [List.mem_append, List.mem_cons] at hpiece
  obtain inBefore | rfl | inAfter := hpiece
  · exact fixed piece (List.mem_append_left _ inBefore) mem
  · exact plain mem
  · exact fixed piece (List.mem_append_right _ inAfter) mem

theorem utf8ByteSize_responseText (deviceName : String) :
    (responseText deviceName).utf8ByteSize = 125 + deviceName.utf8ByteSize := by
  rw [responseText, utf8ByteSize_textOf]
  exact congrArg (· + deviceName.utf8ByteSize) (by decide +kernel)

theorem utf8ByteSize_payloadText (deviceName : String) :
    (payloadText deviceName).utf8ByteSize = 174 + deviceName.utf8ByteSize := by
  rw [payloadText, utf8ByteSize_textOf]
  exact congrArg (· + deviceName.utf8ByteSize) (by decide +kernel)

/-- No string of the response is longer than its text. -/
theorem utf8ByteSize_le_responseText {deviceName s : String}
    (contained :
      (FullCapsRsp.toJson { networkId := "n", caps := [camera deviceName] }).Contains s) :
    s.utf8ByteSize ≤ (responseText deviceName).utf8ByteSize := by
  have small : s.utf8ByteSize ≤ deviceName.utf8ByteSize + 1 := by
    have ofC (u : String) (fits : u.utf8ByteSize ≤ 1) :
        (cStr u).utf8ByteSize ≤ deviceName.utf8ByteSize + 1 :=
      utf8ByteSize_cStr_le.trans (fits.trans (Nat.le_add_left _ _))
    simp only [FullCapsRsp.toJson, CapabilityInfo.toJson, CapabilityInfo.cStr, camera,
      List.map_cons, List.map_nil, CJson.contains_object, CJson.contains_array,
      List.exists_mem_cons_iff, List.not_mem_nil, false_and, exists_false, or_false,
      CJson.contains_string, CJson.not_contains_number, false_or] at contained
    obtain rfl | rfl | rfl | rfl | rfl | rfl := contained
    · exact ofC "n" (by decide)
    · exact ofC "h" (by decide)
    · exact ofC "d" (by decide)
    · exact utf8ByteSize_cStr_le.trans (Nat.le_succ _)
    · exact ofC "a" (by decide)
    · exact ofC "s" (by decide)
  rw [utf8ByteSize_responseText]
  omega

/-- Such a response, printed and sent. -/
theorem exists_sent (deviceName : String) (plain : Char.ofNat 0 ∉ deviceName.toList)
    (short : deviceName.utf8ByteSize ≤ maxIdLen) :
    ∃ printUnformatted parse, Libraries id id printUnformatted parse ∧
      fullCapsMsg printUnformatted { networkId := "n", caps := [camera deviceName] } =
        some { code := dhCommRspFullCaps, msg := responseText deviceName } ∧
      send id (Store.set ∅ "peer" 1) true "peer"
        (getCommMsgString printUnformatted
          { code := dhCommRspFullCaps, msg := responseText deviceName }) =
            (dhFwkSuccess, some (1, utf8 (payloadText deviceName))) := by
  have size := utf8ByteSize_responseText deviceName
  have payloadSize := utf8ByteSize_payloadText deviceName
  have plainText : cStr (responseText deviceName) = responseText deviceName :=
    cStr_textOf (by decide +kernel) plain
  have plainPayload : cStr (payloadText deviceName) = payloadText deviceName :=
    cStr_textOf (by decide +kernel) plain
  have trees : FullCapsRsp.toJson { networkId := "n", caps := [camera deviceName] } ≠
      CommMsg.toJson { code := dhCommRspFullCaps, msg := responseText deviceName } := by
    simp [FullCapsRsp.toJson, CommMsg.toJson]
  have contained (s : String)
      (hs : (CommMsg.toJson
        { code := dhCommRspFullCaps, msg := responseText deviceName }).Contains s) :
      s.utf8ByteSize ≤ (payloadText deviceName).utf8ByteSize := by
    obtain rfl : s = cStr (responseText deviceName) := by simpa [CommMsg.toJson] using hs
    rw [plainText]
    omega
  obtain ⟨printUnformatted, parse, lib, response, payload⟩ :=
    exists_libraries trees (by omega) plainText plainPayload
      (fun _ => utf8ByteSize_le_responseText) contained
  have printed : getCommMsgString printUnformatted
      { code := dhCommRspFullCaps, msg := responseText deviceName } = payloadText deviceName := by
    rw [getCommMsgString, payload, Option.getD_some]
  refine ⟨printUnformatted, parse, lib, ?_, ?_⟩
  · rw [fullCapsMsg, response, Option.map_some]
  · have length : (utf8 (payloadText deviceName)).length = 174 + deviceName.utf8ByteSize :=
      (length_utf8 _).trans payloadSize
    have small : 174 + deviceName.utf8ByteSize ≤ 430 := Nat.add_le_add_left short 174
    rw [printed, send_eq_success_iff]
    refine ⟨rfl, by decide +kernel, by decide +kernel, ⟨?_, ?_⟩, rfl, ?_, ?_⟩
    · intro empty
      rw [empty, String.utf8ByteSize_empty] at payloadSize
      omega
    · rw [payloadSize]
      exact small.trans (by decide)
    · apply List.ne_nil_of_length_pos
      rw [length]
      omega
    · rw [length]
      exact small.trans (by decide)

end Example

end DhTransport
end DistributedHardware
