import DistributedHardware.Task.OfflineBarrier

/-!
The online table of one device against its events.

`SendOnLineEvent` decides on the table as it finds it, while the entry of the last
session goes only when the `OffLineTask` has waited for its children. The table
follows the events as long as no online event meets such an entry, the `UnInit`
flag or a full table.
-/

namespace DistributedHardware
variable {sha256 : String → String}

/-- An `OffLineTask` past the removal of its device's entry. -/
def TaskPoint.removed : TaskPoint → Bool
  | .clearOffLineInfo | .offLineRemoveTask => true
  | pt => pt.stage = 3

def Pc.removed : Pc → Bool
  | .returned _ => true
  | c => c.point.any TaskPoint.removed

theorem taskBody_removed {sh sh' : Shared} {ch : Choice} {id : TaskId} {param : TaskParam}
    {pt : TaskPoint} {c' : Pc} (h : taskBody sha256 id param sh ch pt = some (sh', c'))
    (hk : .offLine ∈ pt.kinds) :
    c'.removed = pt.removed ∨ pt = .removeOnlineEntry ∧ c'.removed = true := by
  cases pt with
  | removeOnlineEntry =>
      obtain ⟨-, rfl⟩ := h
      exact .inr ⟨rfl, rfl⟩
  | createDisable infos =>
      cases infos with
      | nil =>
          obtain ⟨-, rfl⟩ := h
          exact .inl rfl
      | cons info infos =>
          obtain ⟨-, rfl⟩ := createThen_eq_some h
          exact .inl rfl
  | createMetaDisable =>
      obtain ⟨-, rfl⟩ := createThen_eq_some h
      exact .inl rfl
  | waitDisable =>
      simp only [taskBody] at h
      split at h
      · obtain ⟨-, rfl⟩ := h
        exact .inl rfl
      · cases h
  | offLineReadCaps | realTimeCount | isomerismCount | allTaskFinish | checkExitSa =>
      obtain ⟨-, rfl⟩ := h
      split <;> exact .inl rfl
  | offLineUdidHash | offLineReadMeta _ | clearOffLineInfo | offLineRemoveTask | release
  | storeIsInit | storeFlagUnInit | managerInitialize | storeIsInitAgain =>
      obtain ⟨-, rfl⟩ := h
      exact .inl rfl
  | _ => simp [TaskPoint.kinds] at hk

theorem removed_step {s t : Sys} {a : Act} {f : TaskId} (life : Lifecycle s) (fam : Family s)
    (hs : step sha256 s a = some t) (hk : s.sh.typeOf f = some .offLine) :
    (t.pc (.task f)).removed = (s.pc (.task f)).removed ∨
      ∃ ch, a = .run (.task f) ch ∧ s.pc (.task f) = .body .removeOnlineEntry := by
  cases thread_step life hs (.task f) with
  | stays hpc => exact .inl (by rw [hpc])
  | called hq => cases hq
  | @started _ id kind hq hidle hpc hkind =>
      cases hq
      rw [hk] at hkind
      cases hkind
      exact .inl (by rw [hpc, hidle]; rfl)
  | @runs ch sh' c' he ht =>
      subst ht
      rw [Sys.pc_setPc_self]
      obtain ⟨kind, hkind, hfits⟩ := fam.fits f (fun hidle => by rw [hidle] at he; cases he)
      rw [hk] at hkind
      cases hkind
      cases hpc : s.pc (.task f) with
      | body pt =>
          rw [hpc] at he hfits
          obtain ⟨param, -, he⟩ := exec_body he
          obtain h | ⟨rfl, -⟩ := taskBody_removed he hfits
          · exact .inl h
          · exact .inr ⟨ch, rfl, rfl⟩
      | addChildrenTask id next | addTask id next =>
          rw [hpc] at he
          obtain ⟨-, rfl⟩ := he
          exact .inl (by cases next <;> rfl)
      | pushTask id next =>
          rw [hpc] at he hfits
          obtain ⟨-, rfl⟩ := he
          cases next with
          | returned ret => exact hfits.2.elim
          | body pt => exact .inl rfl
      | _ => rw [hpc] at he; cases he

/-- The event a thread is inside, up to its `CreateTask`. -/
def Pc.event : Pc → Option TaskParam
  | .sendOnLine _ param | .sendOffLine _ param => some param
  | _ => none

/-- A thread leaves its event or goes on in it. -/
theorem exec_event {sh sh' : Shared} {ch : Choice} {p : ProcId} {c c' : Pc}
    (h : exec sha256 sh ch p c = some (sh', c')) : c'.event = none ∨ c'.event = c.event := by
  cases exec_effect h with
  | call =>
      cases c with
      | sendOnLine pt param =>
          cases pt with
          | loadFlagUnInit | isDeviceOnline =>
              simp only [exec, sendOnLineEvent] at h
              split at h <;> obtain ⟨-, rfl⟩ := h
              · exact .inl rfl
              · exact .inr rfl
          | createTask =>
              obtain ⟨-, rfl⟩ := createThen_eq_some h
              exact .inl rfl
          | _ =>
              obtain ⟨-, rfl⟩ := h
              exact .inr rfl
      | sendOffLine pt param =>
          cases pt with
          | isDeviceOnline =>
              simp only [exec, sendOffLineEvent] at h
              split at h <;> obtain ⟨-, rfl⟩ := h
              · exact .inr rfl
              · exact .inl rfl
          | createTask =>
              obtain ⟨-, rfl⟩ := createThen_eq_some h
              exact .inl rfl
          | _ =>
              obtain ⟨-, rfl⟩ := h
              exact .inr rfl
      | createTask kind param =>
          obtain ⟨-, rfl⟩ := createThen_eq_some h
          exact .inl rfl
      | addChildrenTask id next | addTask id next =>
          obtain ⟨-, rfl⟩ := h
          exact .inl rfl
      | pushTask id next =>
          obtain ⟨-, rfl⟩ := h
          exact .inl (by cases next <;> rfl)
      | _ => cases h
  | @pushTask _ _ next => exact .inl (by cases next <;> rfl)
  | @leaveBoard _ pt _ _ _ _ _ _ fits =>
      obtain ⟨kind, hkind⟩ : ∃ kind, kind ∈ pt.kinds := by
        cases pt <;> exact ⟨_, List.mem_cons_self⟩
      have := fits kind hkind
      cases c' with
      | sendOnLine _ _ | sendOffLine _ _ => exact this.elim
      | _ => exact .inl rfl
  | _ => exact .inl rfl

section Device
variable (sha256) (dev : TaskParam)

/-- An event that names the device. -/
def names (param : TaskParam) : Bool := eventParam param = eventParam dev

def Listed (s : Sys) : Prop :=
  onlineEntry sha256 dev.udid dev.uuid dev.networkId ∈ s.sh.devIdEntrySet

def realTime (s : Sys) : Bool := dev.networkId ∈ s.sh.realTimeOnLineNetworkIdSet

def offLineTaskOf (s : Sys) (f : TaskId) : Bool :=
  s.sh.typeOf f = some .offLine &&
    (s.sh.paramOf f).any (fun param => param.networkId = dev.networkId)

/-- An `OffLineTask` of the device has still to remove its entry. -/
def stillToRemove (s : Sys) : Bool :=
  s.sh.objects.keys.any (fun f => offLineTaskOf dev s f && !(s.pc (.task f)).removed)

def eventPc (c : Pc) : Bool := c.event.any (names dev)

/-- An event of the device has not got its task onto the board yet. -/
def eventInProgress (s : Sys) : Bool :=
  s.pcs.keys.any (fun p => eventPc dev (s.pc p) || (s.pc p).adding.any (offLineTaskOf dev s))

/-- The events of one device come one at a time, and no other device shares an id
with it. -/
def deliveredInTurn (s : Sys) : Act → Bool
  | .call _ (.sendOnLineEvent param) | .call _ (.sendOffLineEvent param) =>
      if names dev param then !eventInProgress dev s
      else param.networkId ≠ dev.networkId && param.uuid ≠ dev.uuid
  | _ => true

/-- Where an online event of the device is refused, the device is online already;
where it is taken, no entry is about to be removed and the table has room. -/
def takesAt (s : Sys) : SendOnLinePoint → Bool
  | .loadFlagUnInit => !s.sh.flagUnInit || realTime dev s
  | .isDeviceOnline =>
      if isDeviceOnline dev.uuid s.sh.devIdEntrySet then realTime dev s else !stillToRemove dev s
  | .addOnlineDevice => s.sh.devIdEntrySet.size ≤ maxOnlineDeviceSize
  | _ => true

def takesOnLine (s : Sys) : Act → Bool
  | .run p _ =>
      match s.pc p with
      | .sendOnLine pt param => !names dev param || takesAt dev s pt
      | _ => true
  | _ => true

/-- The last event of the device, in the actions of a run, was `SendOnLineEvent`. -/
def lastIsOnLine : List Act → Bool
  | [] => false
  | .call _ (.sendOnLineEvent param) :: acts => names dev param || lastIsOnLine acts
  | .call _ (.sendOffLineEvent param) :: acts => !names dev param && lastIsOnLine acts
  | _ :: acts => lastIsOnLine acts

/-- The device is in both tables, and stays there. -/
def Recorded (s : Sys) : Prop :=
  Listed sha256 dev s ∧ realTime dev s = true ∧ stillToRemove dev s = false

/-- The device is out of the real-time table; its entry, if there is one, is on its
way out. -/
def Gone (s : Sys) : Prop :=
  realTime dev s = false ∧ (Listed sha256 dev s → stillToRemove dev s = true)

def onLinePhase (s : Sys) : SendOnLinePoint → Prop
  | .loadFlagUnInit | .isDeviceOnline => Recorded sha256 dev s ∨ Gone sha256 dev s
  | .addOnlineDevice => stillToRemove dev s = false
  | .addRealTime => Listed sha256 dev s ∧ stillToRemove dev s = false
  | _ => Recorded sha256 dev s

def offLinePhase (s : Sys) : SendOffLinePoint → Prop
  | .loadIsInit | .managerInitialize | .storeIsInit | .isDeviceOnline =>
      Recorded sha256 dev s ∨ Gone sha256 dev s
  | .deleteRealTime => True
  | _ => realTime dev s = false

/-- What holds of the device while an event of it is at a program point, or, at any
other point, while there is none. -/
def Phase (last : Bool) (s : Sys) : Pc → Prop
  | .sendOnLine pt _ => last = true ∧ onLinePhase sha256 dev s pt
  | .sendOffLine pt _ => last = false ∧ offLinePhase sha256 dev s pt
  | _ => if last = true then Recorded sha256 dev s else Gone sha256 dev s

/-- The ids of an event are the device's or have nothing in common with them. -/
def Apart (param : TaskParam) : Prop :=
  names dev param = true ∨ param.networkId ≠ dev.networkId ∧ param.uuid ≠ dev.uuid

structure OwnEntries (s : Sys) : Prop where
  entries : ∀ e ∈ s.sh.devIdEntrySet, e.networkId = dev.networkId ∨ e.uuid = dev.uuid →
    e = onlineEntry sha256 dev.udid dev.uuid dev.networkId
  events : ∀ p param, (s.pc p).event = some param → Apart dev param

structure Follows (last : Bool) (s : Sys) : Prop where
  single : ∀ p q, eventPc dev (s.pc p) = true → eventPc dev (s.pc q) = true → p = q
  phase : ∀ p, eventPc dev (s.pc p) = true → Phase sha256 dev last s (s.pc p)
  settled : (∀ p, eventPc dev (s.pc p) = false) → Phase sha256 dev last s .idle

variable {sha256} {dev}

theorem names_iff {param : TaskParam} :
    names dev param = true ↔ param.networkId = dev.networkId ∧ param.uuid = dev.uuid ∧
      param.udid = dev.udid := by
  simp [names, eventParam]

theorem stillToRemove_iff {s : Sys} :
    stillToRemove dev s = true ↔
      ∃ f, offLineTaskOf dev s f = true ∧ (s.pc (.task f)).removed = false := by
  simp only [stillToRemove, List.any_eq_true, Bool.and_eq_true, Bool.not_eq_true']
  constructor
  · rintro ⟨f, -, h⟩
    exact ⟨f, h⟩
  · rintro ⟨f, h, hpc⟩
    refine ⟨f, ?_, h, hpc⟩
    simp only [offLineTaskOf, Bool.and_eq_true, decide_eq_true_eq] at h
    obtain ⟨o, ho⟩ := Option.isSome_iff_exists.mp (Shared.allocated_of_typeOf h.1)
    exact (Store.mem_keys_iff _ f).mpr ⟨o, ho⟩

theorem offLineTaskOf_iff {s : Sys} {f : TaskId} :
    offLineTaskOf dev s f = true ↔ s.sh.typeOf f = some .offLine ∧
      ∃ param, s.sh.paramOf f = some param ∧ param.networkId = dev.networkId := by
  simp [offLineTaskOf, Option.any_eq_true]

theorem offLineTaskOf_step {s t : Sys} {a : Act} (hs : step sha256 s a = some t) {f : TaskId}
    (ha : s.sh.allocated f) : offLineTaskOf dev t f = offLineTaskOf dev s f := by
  have keeps := step_keepsTask hs ha
  simp only [offLineTaskOf, keeps.typeOf, keeps.paramOf]

/-- A removal is added by an offline event of the device only. -/
theorem stillToRemove_of_step {s t : Sys} {a : Act} (life : Lifecycle s) (fam : Family s)
    (hs : step sha256 s a = some t) (h : stillToRemove dev t = true) :
    stillToRemove dev s = true ∨ ∃ n ch param, a = .run (.call n) ch ∧
      s.pc (.call n) = .sendOffLine .createTask param ∧ param.networkId = dev.networkId := by
  obtain ⟨f, hf, hpc⟩ := stillToRemove_iff.mp h
  by_cases ha : s.sh.allocated f
  · rw [offLineTaskOf_step hs ha] at hf
    refine .inl (stillToRemove_iff.mpr ⟨f, hf, ?_⟩)
    obtain heq | ⟨ch, -, hremove⟩ := removed_step life fam hs (offLineTaskOf_iff.mp hf).1
    · exact heq ▸ hpc
    · rw [hremove]
      rfl
  · obtain ⟨hk, param, hp, hn⟩ := offLineTaskOf_iff.mp hf
    cases step_creates hs ha (Shared.allocated_of_typeOf hk) with
    | byCall hk' hp' _ _ hoff =>
        rw [hk] at hk'
        rw [hp] at hp'
        cases hk'
        cases hp'
        obtain ⟨event, hevent, rfl⟩ := hoff rfl
        exact .inr ⟨_, _, event, rfl, hevent, hn⟩
    | byTask hk' _ _ _ child =>
        rw [hk] at hk'
        cases hk'
        exact absurd rfl child.spec.2.1

/-- A removal is done by the step that takes the entry out. -/
theorem stillToRemove_step {s t : Sys} {a : Act} (life : Lifecycle s) (fam : Family s)
    (hs : step sha256 s a = some t) (h : stillToRemove dev s = true) :
    stillToRemove dev t = true ∨ ∃ f ch, a = .run (.task f) ch ∧
      s.pc (.task f) = .body .removeOnlineEntry ∧ offLineTaskOf dev s f = true := by
  obtain ⟨f, hf, hpc⟩ := stillToRemove_iff.mp h
  have hk := (offLineTaskOf_iff.mp hf).1
  obtain heq | ⟨ch, ha, hremove⟩ := removed_step life fam hs hk
  · refine .inl (stillToRemove_iff.mpr ⟨f, ?_, heq ▸ hpc⟩)
    rw [offLineTaskOf_step hs (Shared.allocated_of_typeOf hk)]
    exact hf
  · exact .inr ⟨f, ch, ha, hremove, hf⟩

theorem OwnEntries.step {s t : Sys} {a : Act} (h : OwnEntries sha256 dev s) (life : Lifecycle s)
    (inTurn : deliveredInTurn dev s a = true) (hs : step sha256 s a = some t) :
    OwnEntries sha256 dev t := by
  constructor
  case entries =>
    intro e he hid
    by_cases hrun : ∃ p ch, a = .run p ch
    · obtain ⟨p, ch, rfl⟩ := hrun
      obtain ⟨sh', c', hexec, rfl⟩ := step_run hs
      rw [Sys.sh_setPc] at he
      generalize hc : s.pc p = c at hexec
      cases exec_devices hexec with
      | same same => exact h.entries e (same.devIdEntrySet ▸ he) hid
      | @addOnlineDevice n param =>
          obtain rfl | he := mem_of_mem_addOnlineDevice he
          · obtain hname | ⟨hn, hu⟩ := h.events (.call n) param (by rw [hc]; rfl)
            · obtain ⟨hn, hu, hd⟩ := names_iff.mp hname
              rw [hn, hu, hd]
            · obtain hid | hid := hid
              · exact absurd hid hn
              · exact absurd hid hu
          · exact h.entries e he hid
      | removeOnlineEntry => exact h.entries e (mem_of_mem_removeOnline he) hid
      | addRealTime | deleteRealTime | storeFlagUnInit | clearFlagUnInit | registerHardware
      | unRegisterHardware => exact h.entries e he hid
    · push Not at hrun
      exact h.entries e ((step_devices hs hrun).devIdEntrySet ▸ he) hid
  case events =>
    intro p param hp
    cases thread_step life hs p with
    | stays hpc => exact h.events p param (hpc ▸ hp)
    | started _ _ hpc => rw [hpc] at hp; cases hp
    | runs he ht =>
        rw [ht, Sys.pc_setPc_self] at hp
        obtain hnone | hsame := exec_event he
        · rw [hnone] at hp
          cases hp
        · exact h.events p param (hsame ▸ hp)
    | @called n c hq _ ht =>
        rw [ht, Sys.pc_setPc_self] at hp
        cases c with
        | createTask kind param' => cases hp
        | sendOnLineEvent param' | sendOffLineEvent param' =>
            simp only [entryOfCall] at hp
            split at hp <;> cases hp
            by_cases hname : names dev param = true
            · exact .inl hname
            · refine .inr ?_
              simpa [deliveredInTurn, hname] using inTurn

/-- What a step that is not a section of an event of the device leaves of the device. -/
structure DeviceKept (sha256 : String → String) (dev : TaskParam) (s t : Sys) : Prop where
  realTime : realTime dev t = realTime dev s
  listed : Listed sha256 dev t → Listed sha256 dev s
  kept : Listed sha256 dev s → Listed sha256 dev t ∨ stillToRemove dev s = true
  still : stillToRemove dev t = true → stillToRemove dev s = true
  stillKept : Listed sha256 dev t → stillToRemove dev s = true → stillToRemove dev t = true

theorem DeviceKept.recorded {s t : Sys} (h : DeviceKept sha256 dev s t)
    (recorded : Recorded sha256 dev s) : Recorded sha256 dev t := by
  obtain ⟨hlisted, hrt, hstill⟩ := recorded
  refine ⟨(h.kept hlisted).resolve_right (by simp [hstill]), h.realTime ▸ hrt, ?_⟩
  rw [← Bool.not_eq_true] at hstill ⊢
  exact fun h' => hstill (h.still h')

theorem DeviceKept.gone {s t : Sys} (h : DeviceKept sha256 dev s t)
    (gone : Gone sha256 dev s) : Gone sha256 dev t :=
  ⟨h.realTime ▸ gone.1, fun hlisted => h.stillKept hlisted (gone.2 (h.listed hlisted))⟩

theorem DeviceKept.notStill {s t : Sys} (h : DeviceKept sha256 dev s t)
    (hstill : stillToRemove dev s = false) : stillToRemove dev t = false := by
  rw [← Bool.not_eq_true] at hstill ⊢
  exact fun h' => hstill (h.still h')

theorem DeviceKept.phase {s t : Sys} {last : Bool} {c : Pc} (h : DeviceKept sha256 dev s t)
    (phase : Phase sha256 dev last s c) : Phase sha256 dev last t c := by
  have either : Recorded sha256 dev s ∨ Gone sha256 dev s →
      Recorded sha256 dev t ∨ Gone sha256 dev t := Or.imp h.recorded h.gone
  cases c with
  | sendOnLine pt param =>
      refine ⟨phase.1, ?_⟩
      cases pt with
      | loadFlagUnInit | isDeviceOnline => exact either phase.2
      | addOnlineDevice => exact h.notStill phase.2
      | addRealTime =>
          have hstill : stillToRemove dev s = false := phase.2.2
          exact ⟨(h.kept phase.2.1).resolve_right (by simp [hstill]), h.notStill hstill⟩
      | _ => exact h.recorded phase.2
  | sendOffLine pt param =>
      refine ⟨phase.1, ?_⟩
      cases pt with
      | loadIsInit | managerInitialize | storeIsInit | isDeviceOnline => exact either phase.2
      | deleteRealTime => trivial
      | _ => exact h.realTime.trans phase.2
  | _ =>
      cases last with
      | true => exact h.recorded phase
      | false => exact h.gone phase

theorem not_listed_of_removeOnlineEntry {s t : Sys} {f : TaskId} {ch : Choice}
    (own : OwnEntries sha256 dev s) (valid : validIds dev = true)
    (hpc : s.pc (.task f) = .body .removeOnlineEntry) (hf : offLineTaskOf dev s f = true)
    (hs : step sha256 s (.run (.task f) ch) = some t) : ¬ Listed sha256 dev t := by
  obtain ⟨-, param, hp, hn⟩ := offLineTaskOf_iff.mp hf
  obtain ⟨o, ho, rfl⟩ := Option.map_eq_some_iff.mp hp
  obtain ⟨sh', c', he, rfl⟩ := step_run hs
  rw [hpc] at he
  simp only [exec, ho, Option.bind_some, taskBody, Option.some.injEq, Prod.mk.injEq] at he
  obtain ⟨rfl, rfl⟩ := he
  have hvalid : isIdLengthValid o.param.networkId = true := by
    simp only [validIds, Bool.and_eq_true] at valid
    rw [hn]
    exact valid.1.1
  exact not_mem_removeOnline hvalid (by rw [hn]; rfl)
    (fun x hx hid => own.entries x hx (.inl (hid.trans hn)))

theorem deviceKept_of_step {s t : Sys} {a : Act} (own : OwnEntries sha256 dev s)
    (valid : validIds dev = true) (life : Lifecycle s) (fam : Family s)
    (hs : step sha256 s a = some t)
    (elsewhere : ∀ p ch, a = .run p ch → eventPc dev (s.pc p) = false) :
    DeviceKept sha256 dev s t := by
  -- no event of the device is at its `CreateTask`, so no removal is added
  have still : stillToRemove dev t = true → stillToRemove dev s = true := by
    intro h
    obtain h | ⟨n, ch, param, rfl, hpc, hn⟩ := stillToRemove_of_step life fam hs h
    · exact h
    · have hevent := elsewhere _ ch rfl
      obtain hname | ⟨hne, -⟩ := own.events (.call n) param (by rw [hpc]; rfl)
      · simp [eventPc, hpc, Pc.event, hname] at hevent
      · exact absurd hn hne
  have stillKept : Listed sha256 dev t → stillToRemove dev s = true →
      stillToRemove dev t = true := by
    intro hlisted h
    obtain h | ⟨f, ch, rfl, hpc, hf⟩ := stillToRemove_step life fam hs h
    · exact h
    · exact absurd hlisted (not_listed_of_removeOnlineEntry own valid hpc hf hs)
  have same (h : SameDevices s.sh t.sh) : DeviceKept sha256 dev s t :=
    ⟨by rw [realTime, h.realTime]; rfl, fun hl => by rwa [Listed, h.devIdEntrySet] at hl,
      fun hl => .inl (by rwa [Listed, h.devIdEntrySet]), still, stillKept⟩
  by_cases hrun : ∃ p ch, a = .run p ch
  case neg =>
    push Not at hrun
    exact same (step_devices hs hrun)
  case pos =>
    obtain ⟨p, ch, rfl⟩ := hrun
    have hevent := elsewhere p ch rfl
    -- an event of another device has other ids
    have other {param : TaskParam} (hp : (s.pc p).event = some param) :
        param.networkId ≠ dev.networkId := by
      obtain hname | ⟨hne, -⟩ := own.events p param hp
      · simp [eventPc, hp, hname] at hevent
      · exact hne
    obtain ⟨sh', c', he, rfl⟩ := step_run hs
    generalize hc : s.pc p = c at he
    cases exec_devices he with
    | same same' => exact same same'
    | storeFlagUnInit | clearFlagUnInit | registerHardware | unRegisterHardware =>
        exact ⟨rfl, id, .inl, still, stillKept⟩
    | @addOnlineDevice n param =>
        have hne := other (by rw [hc]; rfl)
        refine ⟨rfl, fun hl => ?_, fun hl => .inl (mem_addOnlineDevice_of_mem hl), still, stillKept⟩
        refine (mem_of_mem_addOnlineDevice hl).resolve_left fun heq => hne ?_
        exact (congrArg DeviceIdEntry.networkId heq).symm
    | @addRealTime n param =>
        have hne := other (by rw [hc]; rfl)
        refine ⟨?_, id, .inl, still, stillKept⟩
        simp [realTime, Shared.addRealTimeOnlineDeviceNetworkId, hne.symm]
    | @deleteRealTime n param =>
        have hne := other (by rw [hc]; rfl)
        refine ⟨?_, id, .inl, still, stillKept⟩
        simp [realTime, Shared.deleteRealTimeOnlineDeviceNetworkId, hne.symm]
    | @removeOnlineEntry f param hp =>
        refine ⟨rfl, mem_of_mem_removeOnline, fun hl => ?_, still, stillKept⟩
        by_cases hn : param.networkId = dev.networkId
        · refine .inr (stillToRemove_iff.mpr ⟨f, ?_, by rw [hc]; rfl⟩)
          obtain ⟨kind, hmem, hk⟩ := fam.kind_of_body hc
          obtain rfl : kind = .offLine := by simpa [TaskPoint.kinds] using hmem
          exact offLineTaskOf_iff.mpr ⟨hk, param, hp, hn⟩
        · exact .inl (mem_removeOnline_of_ne (fun heq => hn heq.symm) hl)

/-- The device as a section of one of its events finds it, where the section leaves
the tables alone. -/
theorem deviceKept_of_same {s t : Sys} (same : SameDevices s.sh t.sh)
    (still : stillToRemove dev t = stillToRemove dev s) : DeviceKept sha256 dev s t :=
  ⟨by rw [realTime, same.realTime]; rfl, fun hl => by rwa [Listed, same.devIdEntrySet] at hl,
    fun hl => .inl (by rwa [Listed, same.devIdEntrySet]), fun h => still ▸ h,
    fun _ h => still ▸ h⟩

theorem isDeviceOnline_iff_listed {s : Sys} (own : OwnEntries sha256 dev s)
    (valid : validIds dev = true) :
    isDeviceOnline dev.uuid s.sh.devIdEntrySet = true ↔ Listed sha256 dev s := by
  simp only [validIds, Bool.and_eq_true] at valid
  rw [isDeviceOnline_iff valid.1.2]
  constructor
  · rintro ⟨e, he, hu⟩
    rw [Listed, ← own.entries e he (.inr hu)]
    exact he
  · intro hl
    exact ⟨_, hl, rfl⟩

theorem stillToRemove_section {s t : Sys} {n : Nat} {ch : Choice} (life : Lifecycle s)
    (fam : Family s) (hs : step sha256 s (.run (.call n) ch) = some t)
    (notCreate : ∀ param, s.pc (.call n) ≠ .sendOffLine .createTask param) :
    stillToRemove dev t = stillToRemove dev s := by
  refine Bool.eq_iff_iff.mpr ⟨fun h => ?_, fun h => ?_⟩
  · obtain h | ⟨m, ch', param, heq, hpc, -⟩ := stillToRemove_of_step life fam hs h
    · exact h
    · cases heq
      exact absurd hpc (notCreate param)
  · obtain h | ⟨f, ch', heq, -⟩ := stillToRemove_step life fam hs h
    · exact h
    · cases heq

theorem onLine_section {s t : Sys} {n : Nat} {ch : Choice} {pt : SendOnLinePoint}
    {param : TaskParam} (valid : validIds dev = true)
    (life : Lifecycle s) (fam : Family s) (hpc : s.pc (.call n) = .sendOnLine pt param)
    (hname : names dev param = true) (takes : takesAt dev s pt = true)
    (phase : onLinePhase sha256 dev s pt) (hs : step sha256 s (.run (.call n) ch) = some t) :
    Phase sha256 dev true t (t.pc (.call n)) := by
  have still : stillToRemove dev t = stillToRemove dev s :=
    stillToRemove_section life fam hs (fun _ h => by rw [hpc] at h; cases h)
  have kept (same : SameDevices s.sh t.sh) : DeviceKept sha256 dev s t :=
    deviceKept_of_same same still
  obtain ⟨hn, hu, hd⟩ := names_iff.mp hname
  obtain ⟨sh', c', he, rfl⟩ := step_run hs
  rw [Sys.pc_setPc_self]
  rw [hpc] at he
  cases pt with
  | loadFlagUnInit =>
      simp only [exec, sendOnLineEvent] at he
      split at he
      case isTrue hflag =>
        obtain ⟨rfl, rfl⟩ := he
        have hrt : realTime dev s = true := by simpa [takesAt, hflag] using takes
        obtain recorded | gone := phase
        · exact (kept ⟨rfl, rfl, rfl, rfl⟩).recorded recorded
        · exact absurd (gone.1.symm.trans hrt) Bool.false_ne_true
      case isFalse =>
        obtain ⟨rfl, rfl⟩ := he
        have kept := kept ⟨rfl, rfl, rfl, rfl⟩
        exact ⟨rfl, phase.imp kept.recorded kept.gone⟩
  | isDeviceOnline =>
      simp only [exec, sendOnLineEvent, hu] at he
      split at he
      case isTrue honline =>
        obtain ⟨rfl, rfl⟩ := he
        have hrt : realTime dev s = true := by simpa [takesAt, honline] using takes
        obtain recorded | gone := phase
        · exact (kept ⟨rfl, rfl, rfl, rfl⟩).recorded recorded
        · exact absurd (gone.1.symm.trans hrt) Bool.false_ne_true
      case isFalse honline =>
        obtain ⟨rfl, rfl⟩ := he
        have hnone : stillToRemove dev s = false := by simpa [takesAt, honline] using takes
        exact ⟨rfl, still.trans hnone⟩
  | addOnlineDevice =>
      obtain ⟨rfl, rfl⟩ := he
      simp only [validIds, Bool.and_eq_true] at valid
      refine ⟨rfl, ?_, still.trans phase⟩
      rw [Listed, Sys.sh_setPc, hn, hu, hd]
      exact (mem_addOnlineDevice valid.2 valid.1.2 valid.1.1 (of_decide_eq_true takes) _).mpr
        (.inl rfl)
  | addRealTime =>
      obtain ⟨rfl, rfl⟩ := he
      refine ⟨rfl, phase.1, ?_, still.trans phase.2⟩
      simp [realTime, Shared.addRealTimeOnlineDeviceNetworkId, hn]
  | loadIsInit =>
      obtain ⟨rfl, rfl⟩ := he
      have recorded := (kept ⟨rfl, rfl, rfl, rfl⟩).recorded phase
      exact ⟨rfl, by split <;> exact recorded⟩
  | managerInitialize | storeIsInit =>
      obtain ⟨rfl, rfl⟩ := he
      exact ⟨rfl, (kept ⟨rfl, rfl, rfl, rfl⟩).recorded phase⟩
  | createTask =>
      obtain ⟨hnew, rfl⟩ := createThen_eq_some he
      exact (kept (sameDevices_newTask hnew)).recorded phase

theorem offLine_section {s t : Sys} {n : Nat} {ch : Choice} {pt : SendOffLinePoint}
    {param : TaskParam} (own : OwnEntries sha256 dev s) (valid : validIds dev = true)
    (life : Lifecycle s) (fam : Family s) (hpc : s.pc (.call n) = .sendOffLine pt param)
    (hname : names dev param = true) (phase : offLinePhase sha256 dev s pt)
    (hs : step sha256 s (.run (.call n) ch) = some t) :
    Phase sha256 dev false t (t.pc (.call n)) := by
  have kept (hne : pt ≠ .createTask) (same : SameDevices s.sh t.sh) : DeviceKept sha256 dev s t :=
    deviceKept_of_same same (stillToRemove_section life fam hs
      (fun _ h => by rw [hpc] at h; cases h; exact hne rfl))
  obtain ⟨hn, hu, hd⟩ := names_iff.mp hname
  obtain ⟨sh', c', he, rfl⟩ := step_run hs
  rw [Sys.pc_setPc_self]
  rw [hpc] at he
  cases pt with
  | loadIsInit =>
      obtain ⟨rfl, rfl⟩ := he
      have kept := kept (by decide) ⟨rfl, rfl, rfl, rfl⟩
      have either := Or.imp kept.recorded kept.gone phase
      exact ⟨rfl, by split <;> exact either⟩
  | managerInitialize | storeIsInit =>
      obtain ⟨rfl, rfl⟩ := he
      have kept := kept (by decide) ⟨rfl, rfl, rfl, rfl⟩
      exact ⟨rfl, Or.imp kept.recorded kept.gone phase⟩
  | isDeviceOnline =>
      simp only [exec, sendOffLineEvent, hu] at he
      split at he
      case isTrue =>
        obtain ⟨rfl, rfl⟩ := he
        exact ⟨rfl, trivial⟩
      case isFalse honline =>
        obtain ⟨rfl, rfl⟩ := he
        rw [isDeviceOnline_iff_listed own valid] at honline
        obtain recorded | gone := phase
        · exact absurd recorded.1 honline
        · exact (kept (by decide) ⟨rfl, rfl, rfl, rfl⟩).gone gone
  | deleteRealTime =>
      obtain ⟨rfl, rfl⟩ := he
      refine ⟨rfl, ?_⟩
      simp [offLinePhase, realTime, Shared.deleteRealTimeOnlineDeviceNetworkId, hn]
  | realTimeCount | isomerismCount =>
      obtain ⟨rfl, rfl⟩ := he
      exact ⟨rfl, by split <;> exact phase⟩
  | storeFlagUnInit =>
      obtain ⟨rfl, rfl⟩ := he
      exact ⟨rfl, phase⟩
  | createTask =>
      -- the new `OffLineTask` is the one that has the entry to remove
      obtain ⟨hnew, rfl⟩ := createThen_eq_some he
      have hrt : realTime dev s = false := phase
      refine ⟨by rw [← hrt, realTime, Sys.sh_setPc, (sameDevices_newTask hnew).realTime]; rfl,
        fun _ => stillToRemove_iff.mpr ⟨ch.newId,
          offLineTaskOf_iff.mpr ⟨?_, eventParam param, ?_, hn⟩, ?_⟩⟩
      · exact (Shared.typeOf_newTask hnew _).trans (if_pos rfl)
      · exact (Shared.paramOf_newTask hnew _).trans (if_pos rfl)
      · have hidle : s.pc (.task ch.newId) = .idle := by
          by_contra hne
          exact (Shared.newTask_eq_some hnew).1 (life.started _ hne)
        rw [Sys.pc_setPc, if_neg (by simp), Sys.pc_with_sh, hidle]
        rfl

theorem eventPc_of_step {s t : Sys} {a : Act} (life : Lifecycle s)
    (hs : step sha256 s a = some t) {q : ProcId} (hq : eventPc dev (t.pc q) = true) :
    eventPc dev (s.pc q) = true ∨
      ∃ n c, a = .call n c ∧ q = .call n ∧ t = s.setPc (.call n) (entryOfCall c) := by
  cases thread_step life hs q with
  | stays hpc => exact .inl (hpc ▸ hq)
  | started _ _ hpc => rw [hpc] at hq; cases hq
  | called heq _ ht => exact .inr ⟨_, _, rfl, heq, heq ▸ ht⟩
  | runs he ht =>
      rw [ht, Sys.pc_setPc_self] at hq
      obtain hnone | hsame := exec_event he
      · simp [eventPc, hnone] at hq
      · rw [eventPc, hsame] at hq
        exact .inl hq

theorem phase_of_not_event {last : Bool} {s : Sys} {c c' : Pc} (hc : c.event = none)
    (hc' : c'.event = none) (h : Phase sha256 dev last s c) : Phase sha256 dev last s c' := by
  cases c with
  | sendOnLine _ _ | sendOffLine _ _ => cases hc
  | _ =>
      cases c' with
      | sendOnLine _ _ | sendOffLine _ _ => cases hc'
      | _ => exact h

theorem event_eq_none_of_settled {c c' : Pc} (h : c'.event = none ∨ c'.event = c.event)
    (hc : eventPc dev c = true) (hc' : eventPc dev c' = false) : c'.event = none := by
  obtain hnone | hsame := h
  · exact hnone
  · rw [eventPc, hsame] at hc'
    exact absurd (hc'.symm.trans hc) Bool.false_ne_true

theorem Follows.section {s t : Sys} {last : Bool} {p : ProcId} {ch : Choice}
    (h : Follows sha256 dev last s) (life : Lifecycle s) (hp : eventPc dev (s.pc p) = true)
    (hs : step sha256 s (.run p ch) = some t) (phase : Phase sha256 dev last t (t.pc p)) :
    Follows sha256 dev last t := by
  have only {q : ProcId} (hq : eventPc dev (t.pc q) = true) : q = p := by
    obtain hq | ⟨n, c, heq, -⟩ := eventPc_of_step life hs hq
    · exact h.single q p hq hp
    · cases heq
  constructor
  case single => exact fun q q' hq hq' => (only hq).trans (only hq').symm
  case phase =>
    intro q hq
    rw [only hq]
    exact phase
  case settled =>
    intro hnone
    obtain ⟨sh', c', he, rfl⟩ := step_run hs
    have hc' := hnone p
    rw [Sys.pc_setPc_self] at hc' phase
    exact phase_of_not_event (event_eq_none_of_settled (exec_event he) hp hc') rfl phase

/-- A step elsewhere, where no event of the device begins. -/
theorem Follows.elsewhere {s t : Sys} {a : Act} {last : Bool} (h : Follows sha256 dev last s)
    (life : Lifecycle s) (hs : step sha256 s a = some t) (kept : DeviceKept sha256 dev s t)
    (notSection : ∀ p ch, a = .run p ch → eventPc dev (s.pc p) = false)
    (notCall : ∀ n c, a = .call n c → eventPc dev (entryOfCall c) = false) :
    Follows sha256 dev last t := by
  have only {q : ProcId} (hq : eventPc dev (t.pc q) = true) : eventPc dev (s.pc q) = true := by
    obtain hq | ⟨n, c, ha, rfl, ht⟩ := eventPc_of_step life hs hq
    · exact hq
    · rw [ht, Sys.pc_setPc_self, notCall n c ha] at hq
      cases hq
  have same {q : ProcId} (hq : eventPc dev (s.pc q) = true) : t.pc q = s.pc q := by
    cases thread_step life hs q with
    | stays hpc => exact hpc
    | called _ hidle | started _ hidle => rw [hidle] at hq; cases hq
    | runs => exact absurd ((notSection _ _ rfl).symm.trans hq) Bool.false_ne_true
  constructor
  case single => exact fun q q' hq hq' => h.single q q' (only hq) (only hq')
  case phase =>
    intro q hq
    rw [same (only hq)]
    exact kept.phase (h.phase q (only hq))
  case settled =>
    intro hnone
    refine kept.phase (h.settled fun q => ?_)
    by_contra hq
    rw [Bool.not_eq_false] at hq
    have := hnone q
    rw [same hq, hq] at this
    cases this

theorem not_eventPc_of_inProgress {s : Sys} (h : eventInProgress dev s = false) (p : ProcId) :
    eventPc dev (s.pc p) = false ∧ (s.pc p).adding.any (offLineTaskOf dev s) = false := by
  by_cases hp : p ∈ s.pcs.keys
  · have := List.any_eq_false.mp h p hp
    simpa using this
  · rw [Sys.pc_of_notMem_keys hp]
    exact ⟨rfl, rfl⟩

/-- An event of the device that begins while none is in progress. -/
theorem Follows.called {s t : Sys} {n : Nat} {c : Call} {last last' : Bool}
    (h : Follows sha256 dev last s) (life : Lifecycle s)
    (hs : step sha256 s (.call n c) = some t) (kept : DeviceKept sha256 dev s t)
    (idle : eventInProgress dev s = false) (hname : eventPc dev (entryOfCall c) = true)
    (phase : Recorded sha256 dev t ∨ Gone sha256 dev t →
      Phase sha256 dev last' t (entryOfCall c)) : Follows sha256 dev last' t := by
  have hpc : t.pc (.call n) = entryOfCall c := by
    simp only [step] at hs
    split at hs
    · cases hs
      exact Sys.pc_setPc_self _ _ _
    · cases hs
  have only {q : ProcId} (hq : eventPc dev (t.pc q) = true) : q = .call n := by
    obtain hq | ⟨m, c', heq, rfl, -⟩ := eventPc_of_step life hs hq
    · exact absurd ((not_eventPc_of_inProgress idle q).1.symm.trans hq) Bool.false_ne_true
    · cases heq
      rfl
  constructor
  case single => exact fun q q' hq hq' => (only hq).trans (only hq').symm
  case phase =>
    intro q hq
    rw [only hq, hpc]
    refine phase ?_
    have settled := kept.phase (h.settled fun p => (not_eventPc_of_inProgress idle p).1)
    cases last with
    | true => exact .inl settled
    | false => exact .inr settled
  case settled =>
    intro hnone
    have := hnone (.call n)
    rw [hpc, hname] at this
    cases this

/-- An event of another device. -/
theorem Follows.otherDevice {s t : Sys} {acts : List Act} {n : Nat} {c : Call}
    {param : TaskParam} (h : Follows sha256 dev (lastIsOnLine dev acts) s) (life : Lifecycle s)
    (hs : step sha256 s (.call n c) = some t) (kept : DeviceKept sha256 dev s t)
    (hname : ¬ names dev param = true)
    (hc : c = .sendOnLineEvent param ∨ c = .sendOffLineEvent param) :
    Follows sha256 dev (lastIsOnLine dev (.call n c :: acts)) t := by
  have entry : eventPc dev (entryOfCall c) = false := by
    obtain rfl | rfl := hc <;> simp only [entryOfCall] <;> split
    · simpa [eventPc, Pc.event] using hname
    · rfl
    · simpa [eventPc, Pc.event] using hname
    · rfl
  have hlast : lastIsOnLine dev (.call n c :: acts) = lastIsOnLine dev acts := by
    obtain rfl | rfl := hc <;> simp [lastIsOnLine, hname]
  rw [hlast]
  refine h.elsewhere life hs kept (fun _ _ heq => by cases heq) ?_
  rintro _ _ ⟨⟩
  exact entry

theorem Follows.step {s t : Sys} {a : Act} {acts : List Act}
    (h : Follows sha256 dev (lastIsOnLine dev acts) s) (own : OwnEntries sha256 dev s)
    (valid : validIds dev = true) (life : Lifecycle s) (fam : Family s)
    (inTurn : deliveredInTurn dev s a = true) (takes : takesOnLine dev s a = true)
    (hs : step sha256 s a = some t) : Follows sha256 dev (lastIsOnLine dev (a :: acts)) t := by
  cases a with
  | run p ch =>
      by_cases hp : eventPc dev (s.pc p) = true
      case neg =>
        have notSection : ∀ q ch', Act.run p ch = .run q ch' → eventPc dev (s.pc q) = false := by
          rintro q ch' ⟨⟩
          simpa using hp
        exact h.elsewhere life hs (deviceKept_of_step own valid life fam hs notSection) notSection
          (fun _ _ heq => by cases heq)
      case pos =>
        have before := h.phase p hp
        refine h.section life hp hs ?_
        cases p with
        | task id =>
            obtain ⟨sh', c', he, -⟩ := step_run hs
            cases hpc : s.pc (.task id) with
            | sendOnLine _ _ | sendOffLine _ _ => rw [hpc] at he; cases he
            | _ => rw [hpc] at hp; cases hp
        | call n =>
            cases hpc : s.pc (.call n) with
            | sendOnLine pt param =>
                rw [hpc] at before hp
                have hname : names dev param = true := hp
                have htakes : takesAt dev s pt = true := by
                  simpa [takesOnLine, hpc, hname] using takes
                rw [before.1]
                exact onLine_section valid life fam hpc hname htakes before.2 hs
            | sendOffLine pt param =>
                rw [hpc] at before hp
                rw [before.1]
                exact offLine_section own valid life fam hpc hp before.2 hs
            | _ => rw [hpc] at hp; cases hp
  | call n c =>
      have kept := deviceKept_of_step own valid life fam hs (fun _ _ heq => by cases heq)
      have entry {param : TaskParam} (hname : names dev param = true) : validIds param = true := by
        obtain ⟨hn, hu, hd⟩ := names_iff.mp hname
        simpa [validIds, hn, hu, hd] using valid
      cases c with
      | createTask kind param =>
          exact h.elsewhere life hs kept (fun _ _ heq => by cases heq) (by rintro _ _ ⟨⟩; rfl)
      | sendOnLineEvent param =>
          by_cases hname : names dev param = true
          · have idle : eventInProgress dev s = false := by
              simpa [deliveredInTurn, hname] using inTurn
            refine h.called life hs kept idle ?_ ?_
            · simp only [entryOfCall, entry hname, if_true]
              exact hname
            · simp only [entryOfCall, entry hname, if_true, lastIsOnLine, hname, Bool.true_or]
              exact fun either => ⟨rfl, either⟩
          · exact h.otherDevice life hs kept hname (.inl rfl)
      | sendOffLineEvent param =>
          by_cases hname : names dev param = true
          · have idle : eventInProgress dev s = false := by
              simpa [deliveredInTurn, hname] using inTurn
            refine h.called life hs kept idle ?_ ?_
            · simp only [entryOfCall, entry hname, if_true]
              exact hname
            · simp only [entryOfCall, entry hname, if_true, lastIsOnLine, hname, Bool.not_true,
                Bool.false_and]
              exact fun either => ⟨rfl, either⟩
          · exact h.otherDevice life hs kept hname (.inr rfl)
  | popTask | postTask _ | runPosted | startSubmitted _ | isomerism _ _ | registries _ _ _ =>
      exact h.elsewhere life hs
        (deviceKept_of_step own valid life fam hs (fun _ _ heq => by cases heq))
        (fun _ _ heq => by cases heq) (fun _ _ heq => by cases heq)

theorem follows_of_run (valid : validIds dev = true) {acts : List Act} {s : Sys}
    (run : (taskSystem sha256).Run
      (fun s a => (deliveredInTurn dev s a && takesOnLine dev s a) = true) acts s) :
    OwnEntries sha256 dev s ∧ Follows sha256 dev (lastIsOnLine dev acts) s := by
  refine run.invariant (I := fun acts s =>
    OwnEntries sha256 dev s ∧ Follows sha256 dev (lastIsOnLine dev acts) s) ?_ ?_
  · rintro _ rfl
    refine ⟨⟨fun e he => ?_, fun p param hp => (nomatch hp)⟩, ⟨fun p q hp => (nomatch hp),
      fun p hp => (nomatch hp), fun _ => ⟨rfl, fun hl => ?_⟩⟩⟩
    · exact absurd he Std.TreeSet.not_mem_emptyc
    · exact absurd hl Std.TreeSet.not_mem_emptyc
  · intro acts s a t reach hi ok hs
    obtain ⟨inTurn, takes⟩ := Bool.and_eq_true_iff.mp ok
    exact ⟨hi.1.step (lifecycle reach) inTurn hs,
      hi.2.step hi.1 valid (lifecycle reach) (family reach) inTurn takes hs⟩

theorem Family.removed_of_stage {s : Sys} (fam : Family s) {f : TaskId}
    (hstage : (s.pc (.task f)).stage = 3) : (s.pc (.task f)).removed = true := by
  obtain ⟨kind, -, hfits⟩ := fam.fits f (fun hidle => by simp [hidle] at hstage)
  cases hpc : s.pc (.task f) with
  | returned ret => rfl
  | body pt =>
      rw [hpc, Pc.stage_body] at hstage
      cases pt <;> first | rfl | cases hstage
  | addChildrenTask _ next | addTask _ next | pushTask _ next =>
      rw [hpc] at hstage hfits
      cases next with
      | returned ret => exact hfits.2.elim
      | body pt => exact absurd hstage hfits.2.2
  | _ => rw [hpc] at hstage; cases hstage

/-- With the board empty and no event of the device under way, no removal is left. -/
theorem stillToRemove_eq_false {s : Sys} (fam : Family s) (board : OnBoard s)
    (empty : s.sh.tasks = ∅) (idle : eventInProgress dev s = false) :
    stillToRemove dev s = false := by
  by_contra h
  obtain ⟨f, hf, hpc⟩ := stillToRemove_iff.mp (by simpa using h)
  have hk := (offLineTaskOf_iff.mp hf).1
  obtain ⟨p, hp⟩ | hmem | hstage := board.added f (Shared.allocated_of_typeOf hk)
  · have := (not_eventPc_of_inProgress idle p).2
    rw [hp, Option.any_some, hf] at this
    cases this
  · rw [empty] at hmem
    exact absurd hmem (Finset.notMem_empty f)
  · exact absurd (hpc.symm.trans (fam.removed_of_stage hstage)) Bool.false_ne_true

/-- In every run whose events the device manager delivers in turn and in which every
online event is taken, both tables follow the events. -/
theorem onlineTable_follows_events (valid : validIds dev = true) {acts : List Act} {s : Sys}
    (run : (taskSystem sha256).Run
      (fun s a => (deliveredInTurn dev s a && takesOnLine dev s a) = true) acts s)
    (empty : s.sh.tasks = ∅) (idle : eventInProgress dev s = false) :
    (Listed sha256 dev s ↔ lastIsOnLine dev acts = true) ∧
      (realTime dev s = true ↔ lastIsOnLine dev acts = true) := by
  have settled := (follows_of_run valid run).2.settled
    (fun p => (not_eventPc_of_inProgress idle p).1)
  have hnone := stillToRemove_eq_false (family run.reachable) (onBoard run.reachable) empty idle
  cases hlast : lastIsOnLine dev acts with
  | true =>
      rw [hlast] at settled
      exact ⟨iff_of_true settled.1 rfl, iff_of_true settled.2.1 rfl⟩
  | false =>
      rw [hlast] at settled
      refine ⟨iff_of_false (fun hl => ?_) (by simp), iff_of_false ?_ (by simp)⟩
      · exact absurd (hnone.symm.trans (settled.2 hl)) Bool.false_ne_true
      · simpa using settled.1

end Device

section Sessions

instance (dev : TaskParam) (s : Sys) : Decidable (Listed sha256 dev s) :=
  inferInstanceAs (Decidable (_ ∈ _))

/-- Device A goes offline and comes back once its `OffLineTask` has ended. -/
private def backOnLine : List Act :=
  .call 0 (.sendOnLineEvent deviceA) :: runs (.call 0) 10 { newId := 1 } ++
  .call 1 (.sendOffLineEvent deviceA) :: runs (.call 1) 9 { newId := 2 } ++
  dispatch ++ runs (.task 1) 11 { newId := 3 } ++
  dispatch ++ .startSubmitted 2 :: runs (.task 2) 8 { newId := 4 } ++
  dispatch ++ dispatch ++ .startSubmitted 3 :: runs (.task 3) 2 {} ++
  .startSubmitted 4 :: runs (.task 4) 3 {} ++ runs (.task 2) 11 {} ++
  .call 2 (.sendOnLineEvent deviceA) :: runs (.call 2) 10 { newId := 5 } ++
  dispatch ++ runs (.task 5) 11 { newId := 6 } ++
  dispatch ++ .startSubmitted 6 :: runs (.task 6) 2 {}

theorem onlineTable_follows_events_deviceA :
    ∃ s ∈ (taskSystem sampleSha256).replay
        (fun s a => (deliveredInTurn deviceA s a && takesOnLine deviceA s a) = true) {} backOnLine,
      s.sh.tasks = ∅ ∧ Listed sampleSha256 deviceA s ∧ realTime deviceA s = true := by
  have run : ∃ s ∈ (taskSystem sampleSha256).replay
        (fun s a => (deliveredInTurn deviceA s a && takesOnLine deviceA s a) = true) {} backOnLine,
      s.sh.tasks = ∅ ∧ eventInProgress deviceA s = false := by
    decide +kernel
  obtain ⟨s, hs, empty, idle⟩ := run
  have last : lastIsOnLine deviceA backOnLine.reverse = true := by decide +kernel
  obtain ⟨listed, hrt⟩ := onlineTable_follows_events (by decide)
    (TransitionSystem.run_of_replay rfl hs) empty idle
  exact ⟨s, hs, empty, listed.mpr last, hrt.mpr last⟩

/-- Device A comes back while its `OffLineTask`, task 5, still waits for its children;
device B stays online. -/
private def repeatOnLine : List Act :=
  .call 0 (.sendOnLineEvent deviceA) :: runs (.call 0) 10 { newId := 1 } ++
  .call 1 (.sendOnLineEvent deviceB) :: runs (.call 1) 8 { newId := 2 } ++
  dispatch ++ runs (.task 1) 11 { newId := 3 } ++ dispatch ++ runs (.task 2) 11 { newId := 4 } ++
  .call 2 (.sendOffLineEvent deviceA) :: runs (.call 2) 7 { newId := 5 } ++
  dispatch ++ dispatch ++ dispatch ++
  .startSubmitted 3 :: runs (.task 3) 2 {} ++ .startSubmitted 4 :: runs (.task 4) 2 {} ++
  .startSubmitted 5 :: runs (.task 5) 8 { newId := 6 } ++
  .call 3 (.sendOnLineEvent deviceA) :: runs (.call 3) 2 {} ++
  dispatch ++ .startSubmitted 6 :: runs (.task 6) 3 {} ++ runs (.task 5) 5 {}

/-- Offline and then online, and the device is absent in the end. -/
theorem exists_absent_after_onLine :
    ∃ acts s, (taskSystem sampleSha256).Run
        (fun s a => deliveredInTurn deviceA s a = true) acts s ∧
      s.sh.tasks = ∅ ∧ eventInProgress deviceA s = false ∧ lastIsOnLine deviceA acts = true ∧
      ¬ Listed sampleSha256 deviceA s ∧ realTime deviceA s = false := by
  have run : ∃ s ∈ (taskSystem sampleSha256).replay
        (fun s a => deliveredInTurn deviceA s a = true) {} repeatOnLine,
      s.sh.tasks = ∅ ∧ eventInProgress deviceA s = false ∧
      ¬ Listed sampleSha256 deviceA s ∧ realTime deviceA s = false := by
    decide +kernel
  obtain ⟨s, hs, empty, idle, absent⟩ := run
  exact ⟨_, s, TransitionSystem.run_of_replay rfl hs, empty, idle, by decide +kernel, absent⟩

end Sessions
end DistributedHardware
