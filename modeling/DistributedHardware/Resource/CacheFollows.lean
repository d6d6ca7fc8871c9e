import DistributedHardware.Resource.ChangeHandlers

/-!
The capability cache against the notifications of its store.

Inserted records always reach the cache. Updated records pass by while their
hardware is enabled, and updated and deleted ones while the framework is being
uninitialised; under each key the cache holds the last write that was taken.
-/

namespace DistributedHardware
variable {parse : String → Option CJson}

/-- A record as its writer put it: it parses, it is stored under its own key, and its
device is online when its turn comes. -/
def WellFormed (parse : String → Option CJson) (turn : Turn) : Prop :=
  ∃ cap, getCapabilityByValue parse turn.2.value = .ok cap ∧ cap.getKey = turn.2.key ∧
    (peerOf turn.1 cap).isSome

def Changes.turns (c : Changes) : List Turn := c.insertEntries ++ c.updateEntries ++ c.deleteEntries

/-- What a notification of an inserted or updated record says about the store. -/
def saved (parse : String → Option CJson) (turn : Turn) : String × Option CapabilityInfo :=
  (turn.2.key, (getCapabilityByValue parse turn.2.value).toOption)

def deleted (turn : Turn) : String × Option CapabilityInfo := (turn.2.key, none)

def isEnabledTurn (turn : Turn) : Bool := turn.1.isEnabledDevice turn.2.key

/-- All that a notification says about the store. -/
def notified (parse : String → Option CJson) (c : Changes) :
    List (String × Option CapabilityInfo) :=
  c.insertEntries.map (saved parse) ++ c.updateEntries.map (saved parse) ++
    c.deleteEntries.map deleted

/-- The part that the handlers take: lists of the sizes they accept, updates of hardware
that is not enabled, and updates and deletes outside `UnInit`. -/
def taken (parse : String → Option CJson) (c : Changes) : List (String × Option CapabilityInfo) :=
  (if isHandledSize c.insertEntries then c.insertEntries.map (saved parse) else []) ++
  (if isHandledSize c.updateEntries && !c.atUpdate.flagUnInit then
    (c.updateEntries.filter (fun turn => !isEnabledTurn turn)).map (saved parse) else []) ++
  (if isHandledSize c.deleteEntries && !c.atDelete.flagUnInit then
    c.deleteEntries.map deleted else [])

def cacheOf (out : Outcome CapabilityInfo) (key : String) : Option CapabilityInfo := out.map[key]?

theorem cacheOf_saveRecord {skip : Shared → CapabilityInfo → Bool} {turn : Turn}
    {cap : CapabilityInfo} {peer : String × String}
    (hcap : getCapabilityByValue parse turn.2.value = .ok cap)
    (hpeer : peerOf turn.1 cap = some peer) (hskip : skip turn.1 cap = false)
    (out : Outcome CapabilityInfo) :
    cacheOf (saveRecord (getCapabilityByValue parse) id CapabilityInfo.getKey skip out turn) =
      Function.update (cacheOf out) cap.getKey (some cap) := by
  simp only [saveRecord, hcap, id, hpeer, hskip]
  exact Writes.getElem?_insert _ _ _

theorem cacheOf_deleteRecord {turn : Turn} {cap : CapabilityInfo} {peer : String × String}
    (hcap : getCapabilityByValue parse turn.2.value = .ok cap)
    (hpeer : peerOf turn.1 cap = some peer) (out : Outcome CapabilityInfo) :
    cacheOf (deleteRecord parse out turn) =
      Function.update (cacheOf out) cap.getKey none := by
  simp only [deleteRecord, hcap, hpeer]
  exact Writes.getElem?_erase _ _

theorem cacheOf_foldl_saveRecord (skip : Shared → CapabilityInfo → Bool) (skipTurn : Turn → Bool)
    (hskip : ∀ turn : Turn, ∀ cap : CapabilityInfo, cap.getKey = turn.2.key →
      skip turn.1 cap = skipTurn turn)
    {turns : List Turn} (wf : ∀ turn ∈ turns, WellFormed parse turn)
    (out : Outcome CapabilityInfo) :
    cacheOf (turns.foldl
        (saveRecord (getCapabilityByValue parse) id CapabilityInfo.getKey skip) out) =
      Writes.written (cacheOf out)
        ((turns.filter (fun turn => !skipTurn turn)).map (saved parse)) := by
  induction turns generalizing out with
  | nil => rfl
  | cons turn turns ih =>
      obtain ⟨cap, hcap, hkey, hpeer⟩ := wf turn List.mem_cons_self
      obtain ⟨peer, hpeer⟩ := Option.isSome_iff_exists.mp hpeer
      rw [List.foldl_cons, ih (fun t ht => wf t (List.mem_cons_of_mem _ ht))]
      by_cases hs : skipTurn turn = true
      · have same : saveRecord (getCapabilityByValue parse) id CapabilityInfo.getKey skip out turn =
            out := by
          simp [saveRecord, hcap, hpeer, hskip turn cap hkey, hs]
        rw [same, List.filter_cons_of_neg (by simp [hs])]
      · rw [List.filter_cons_of_pos (by simp [hs]), List.map_cons, Writes.written_cons]
        have taken : skip turn.1 cap = false := by simpa [hskip turn cap hkey] using hs
        rw [cacheOf_saveRecord hcap hpeer taken, hkey, saved, hcap]
        rfl

theorem cacheOf_foldl_deleteRecord {turns : List Turn} (wf : ∀ turn ∈ turns, WellFormed parse turn)
    (out : Outcome CapabilityInfo) :
    cacheOf (turns.foldl (deleteRecord parse) out) =
      Writes.written (cacheOf out) (turns.map deleted) := by
  induction turns generalizing out with
  | nil => rfl
  | cons turn turns ih =>
      obtain ⟨cap, hcap, hkey, hpeer⟩ := wf turn List.mem_cons_self
      obtain ⟨peer, hpeer⟩ := Option.isSome_iff_exists.mp hpeer
      rw [List.foldl_cons, ih (fun t ht => wf t (List.mem_cons_of_mem _ ht)),
        cacheOf_deleteRecord hcap hpeer, hkey]
      rfl

/-- One notification leaves the writes it takes. -/
theorem cacheOf_capabilityOnChange {c : Changes} (wf : ∀ turn ∈ c.turns, WellFormed parse turn)
    (out : Outcome CapabilityInfo) :
    cacheOf (capabilityOnChange parse c out) = Writes.written (cacheOf out) (taken parse c) := by
  have wfInsert : ∀ turn ∈ c.insertEntries, WellFormed parse turn :=
    fun t ht => wf t (by simp [Changes.turns, ht])
  have wfUpdate : ∀ turn ∈ c.updateEntries, WellFormed parse turn :=
    fun t ht => wf t (by simp [Changes.turns, ht])
  have wfDelete : ∀ turn ∈ c.deleteEntries, WellFormed parse turn :=
    fun t ht => wf t (by simp [Changes.turns, ht])
  have add (out : Outcome CapabilityInfo) :
      cacheOf (handleCapabilityAddChange parse c.insertEntries out) =
        Writes.written (cacheOf out) (c.insertEntries.map (saved parse)) := by
    have := cacheOf_foldl_saveRecord (fun _ _ => false) (fun _ => false) (fun _ _ _ => rfl)
      wfInsert out
    simpa [handleCapabilityAddChange] using this
  have update (out : Outcome CapabilityInfo) :
      cacheOf (handleCapabilityUpdateChange parse c.atUpdate c.updateEntries out) =
        Writes.written (cacheOf out) (if !c.atUpdate.flagUnInit then
          (c.updateEntries.filter (fun turn => !isEnabledTurn turn)).map (saved parse)
          else []) := by
    unfold handleCapabilityUpdateChange
    cases c.atUpdate.flagUnInit with
    | true => rfl
    | false =>
        exact cacheOf_foldl_saveRecord isEnabledRecord isEnabledTurn
          (fun turn cap hkey => by rw [isEnabledTurn, ← hkey]; rfl) wfUpdate out
  have delete (out : Outcome CapabilityInfo) :
      cacheOf (handleCapabilityDeleteChange parse c.atDelete c.deleteEntries out) =
        Writes.written (cacheOf out)
          (if !c.atDelete.flagUnInit then c.deleteEntries.map deleted else []) := by
    unfold handleCapabilityDeleteChange
    cases c.atDelete.flagUnInit with
    | true => rfl
    | false => exact cacheOf_foldl_deleteRecord wfDelete out
  simp only [capabilityOnChange, onChange, taken, Writes.written_append]
  cases isHandledSize c.insertEntries <;> cases isHandledSize c.updateEntries <;>
    cases isHandledSize c.deleteEntries <;>
    simp [add, update, delete]

/-- After any notifications each key holds the record of its last write that was taken,
or nothing after a removal. -/
theorem capabilityCache_follows_taken {changes : List Changes}
    (wf : ∀ c ∈ changes, ∀ turn ∈ c.turns, WellFormed parse turn) (out : Outcome CapabilityInfo)
    (key : String) :
    cacheOf (changes.foldl (fun out c => capabilityOnChange parse c out) out) key =
      (Writes.lastWrite (changes.flatMap (taken parse)) key).getD (cacheOf out key) := by
  rw [← Writes.written_eq_lastWrite]
  refine congrFun ?_ key
  induction changes generalizing out with
  | nil => rfl
  | cons c changes ih =>
      rw [List.foldl_cons, ih (fun c' hc' => wf c' (List.mem_cons_of_mem _ hc')),
        cacheOf_capabilityOnChange (wf c List.mem_cons_self), List.flatMap_cons,
        Writes.written_append]

section Camera

/-- The text of device A's camera record. -/
def cameraJson (attrs : String) : String :=
  "\x7b\"dh_id\":\"camera\",\"dev_id\":\"" ++ sampleSha256 "uA" ++
    "\",\"dev_name\":\"A\",\"dev_type\":14,\"dh_type\":1,\"dh_attrs\":\"" ++ attrs ++
    "\",\"dh_subtype\":\"camera\"\x7d"

def cameraTree (attrs : String) : CJson :=
  .object [("dh_id", .string "camera"), ("dev_id", .string (sampleSha256 "uA")),
    ("dev_name", .string "A"), ("dev_type", .number 14), ("dh_type", .number 1),
    ("dh_attrs", .string attrs), ("dh_subtype", .string "camera")]

def sampleParse (value : String) : Option CJson :=
  if value = cameraJson "hd" then some (cameraTree "hd")
  else if value = cameraJson "uhd" then some (cameraTree "uhd")
  else none

def cameraRecord (attrs : String) : CapabilityInfo :=
  { dhId := "camera", deviceId := sampleSha256 "uA", deviceName := "A", deviceType := 14,
    dhType := DhType.camera, dhAttrs := attrs, dhSubtype := "camera" }

def cameraKey : String := getCapabilityKey (sampleSha256 "uA") "camera"

def cameraEntry (attrs : String) : Entry := { key := cameraKey, value := cameraJson attrs }

def deviceAOnline : Shared :=
  { devIdEntrySet := addOnlineDevice sampleSha256 "dA" "uA" "nA" ∅ }

def deviceAEnabled : Shared := deviceAOnline.saveEnabledDevice cameraKey deviceA

theorem wellFormed_camera {sh : Shared} {attrs : String}
    (hsh : sh = deviceAOnline ∨ sh = deviceAEnabled) (hattrs : attrs = "hd" ∨ attrs = "uhd") :
    WellFormed sampleParse (sh, cameraEntry attrs) := by
  have parses : getCapabilityByValue sampleParse (cameraJson attrs) = .ok (cameraRecord attrs) := by
    obtain rfl | rfl := hattrs <;> decide +kernel
  have online : (peerOf sh (cameraRecord attrs)).isSome := by
    obtain rfl | rfl := hsh <;> obtain rfl | rfl := hattrs <;> decide +kernel
  exact ⟨cameraRecord attrs, parses, rfl, online⟩

theorem capabilityCache_follows_taken_camera :
    cacheOf ([{ insertEntries := [(deviceAOnline, cameraEntry "hd")] },
        { updateEntries := [(deviceAOnline, cameraEntry "uhd")] }].foldl
      (fun out c => capabilityOnChange sampleParse c out) { map := ∅ }) cameraKey =
      some (cameraRecord "uhd") := by
  rw [capabilityCache_follows_taken]
  · decide +kernel
  · simp [Changes.turns, wellFormed_camera]

/-- The camera's record changes while it is enabled, or is deleted while the framework
is being uninitialised: the cache keeps the record it had. -/
theorem exists_cache_behind_store :
    (∃ changes : List Changes,
      (∀ c ∈ changes, ∀ turn ∈ c.turns, WellFormed sampleParse turn) ∧
      (∀ c ∈ changes, c.atUpdate.flagUnInit = false ∧ c.atDelete.flagUnInit = false) ∧
      cacheOf (changes.foldl (fun out c => capabilityOnChange sampleParse c out) { map := ∅ })
        cameraKey = some (cameraRecord "hd") ∧
      Writes.lastWrite (changes.flatMap (notified sampleParse)) cameraKey =
        some (some (cameraRecord "uhd"))) ∧
    ∃ changes : List Changes,
      (∀ c ∈ changes, ∀ turn ∈ c.turns, WellFormed sampleParse turn) ∧
      cacheOf (changes.foldl (fun out c => capabilityOnChange sampleParse c out) { map := ∅ })
        cameraKey = some (cameraRecord "hd") ∧
      Writes.lastWrite (changes.flatMap (notified sampleParse)) cameraKey = some none := by
  constructor
  · refine ⟨[{ insertEntries := [(deviceAOnline, cameraEntry "hd")] },
      { updateEntries := [(deviceAEnabled, cameraEntry "uhd")] }], ?_, ?_, ?_⟩
    · simp [Changes.turns, wellFormed_camera]
    · simp
    · decide +kernel
  · refine ⟨[{ insertEntries := [(deviceAOnline, cameraEntry "hd")] },
      { deleteEntries := [(deviceAOnline, cameraEntry "hd")]
        atDelete := { deviceAOnline with flagUnInit := true } }], ?_, ?_⟩
    · simp [Changes.turns, wellFormed_camera]
    · decide +kernel

end Camera
end DistributedHardware
