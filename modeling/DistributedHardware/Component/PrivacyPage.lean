import DistributedHardware.Library.DelayQueue
import DistributedHardware.Library.Transition
import DistributedHardware.Transport.Messages

/-!
The privacy page of `ComponentPrivacy` under the messages of one resource.

A message to pull the page up queues a start event that is due at once, a message to
close it a stop event that is due `COMP_PRIVACY_DELAY_TIME` later. Nothing takes a
queued event back.
-/

namespace DistributedHardware

def compStartPage : UInt32 := 1
def compStopPage : UInt32 := 2
def compPrivacyDelayTime : Nat := 1000

/-- The messages that act on the page. -/
inductive PageMessage
  | pullUpPage (networkId : String)
  | closePage
  deriving DecidableEq

structure StampedMessage where
  time : Nat
  message : PageMessage
  deriving DecidableEq

inductive PageAction
  | start
  | stop
  deriving DecidableEq

structure PageState where
  lastAction : Option PageAction := none
  isPrivacePageOpen : Bool := false
  deriving DecidableEq

structure PageEvent where
  eventId : UInt32
  dataMsg : CJson

/-- The state of the page and of its event handler, and the messages received so far. -/
structure PrivacyState where
  now : Nat := 0
  queue : List (Timed PageEvent) := []
  page : PageState := {}
  received : List StampedMessage := []

section Handling
variable (subtype : String)

def startJson (networkId : String) : CJson :=
  .object [("subtype", .string (cStr subtype)), ("networkId", .string (cStr networkId))]

def stopJson : CJson := .object [("subtype", .string (cStr subtype))]

def startPageEvent (networkId : String) : PageEvent where
  eventId := compStartPage
  dataMsg := .array [startJson subtype networkId]

def stopPageEvent : PageEvent where
  eventId := compStopPage
  dataMsg := .array [stopJson subtype]

def sendEvent (e : PageEvent) (delay : Nat) (s : PrivacyState) : PrivacyState :=
  { s with queue := DelayQueue.insert { due := s.now + delay, item := e } s.queue }

def handlePullUpPage (networkId : String) (s : PrivacyState) : PrivacyState :=
  if !isIdLengthValid networkId then s
  else sendEvent (startPageEvent subtype networkId) 0 s

def handleClosePage (s : PrivacyState) : PrivacyState :=
  sendEvent (stopPageEvent subtype) compPrivacyDelayTime s

def onPrivaceResourceMessage (message : PageMessage) (s : PrivacyState) : PrivacyState :=
  let s := { s with received := s.received ++ [{ time := s.now, message }] }
  match message with
  | .pullUpPage networkId => handlePullUpPage subtype networkId s
  | .closePage => handleClosePage subtype s

/-- `client`: the ability manager's client is there. What `StartAbility` returns is
only logged. -/
def startPrivacePage (client : Bool) (networkId : String) (page : PageState) : PageState :=
  if !isIdLengthValid networkId then page
  else if !client then page
  else { lastAction := some .start, isPrivacePageOpen := true }

def stopPrivacePage (client : Bool) (page : PageState) : PageState :=
  if !client then page else { lastAction := some .stop, isPrivacePageOpen := false }

def processStartPage (client : Bool) (dataMsg : CJson) (page : PageState) : PageState :=
  let innerMsg := dataMsg.children[0]?.getD .null
  if !innerMsg.isString "subtype" then page
  else if !innerMsg.isString "networkId" then page
  else startPrivacePage client (innerMsg.valuestring "networkId") page

def processStopPage (client : Bool) (dataMsg : CJson) (page : PageState) : PageState :=
  let innerMsg := dataMsg.children[0]?.getD .null
  if !innerMsg.isString "subtype" then page else stopPrivacePage client page

def processPageEvent (client : Bool) (page : PageState) (e : PageEvent) : PageState :=
  if e.eventId = compStartPage then processStartPage client e.dataMsg page
  else if e.eventId = compStopPage then processStopPage client e.dataMsg page
  else page

/-- Time passes, a message arrives, or the first event that is due is handled. -/
inductive PrivacyStep
  | wait (ms : Nat)
  | message (m : PageMessage)
  | handle (client : Bool)

def privacyStep (s : PrivacyState) : PrivacyStep → Option PrivacyState
  | .wait ms => some { s with now := s.now + ms }
  | .message m => some (onPrivaceResourceMessage subtype m s)
  | .handle client =>
      match s.queue with
      | [] => none
      | e :: queue =>
          if e.due ≤ s.now then
            some { s with queue, page := processPageEvent client s.page e.item }
          else none

def privacySystem : TransitionSystem PrivacyState PrivacyStep where
  init := fun s => s = {}
  step := privacyStep subtype

/-- The ability manager's client is a singleton that creates itself. -/
def PrivacyStep.FindsClient : PrivacyStep → Prop
  | .handle client => client = true
  | _ => True

abbrev PrivacyRun (steps : List PrivacyStep) (s : PrivacyState) : Prop :=
  (privacySystem subtype).Run (fun _ step => step.FindsClient) steps s

/-- The message is one to pull the page up that makes it to the page. -/
structure PullsUp (m : PageMessage) : Prop where
  subtype : minMessageLen < (cStr subtype).utf8ByteSize ∧
    (cStr subtype).utf8ByteSize ≤ maxMessageLen
  networkId : ∃ networkId, m = .pullUpPage networkId ∧ isIdLengthValid networkId = true ∧
    isIdLengthValid (cStr networkId) = true

/-- Some message pulls the page up, every close by the delay or more before it. -/
def PulledUpClear (received : List StampedMessage) : Prop :=
  ∃ m ∈ received, PullsUp subtype m.message ∧
    ∀ c ∈ received, c.message = .closePage → c.time + compPrivacyDelayTime ≤ m.time

end Handling

def LastPullsUp (received : List StampedMessage) : Prop :=
  ∃ m networkId, received.getLast? = some m ∧ m.message = .pullUpPage networkId

/-- The page is as the last message asks. -/
structure FollowsLast (s : PrivacyState) : Prop where
  action : s.page.lastAction = some .start ↔ LastPullsUp s.received
  flag : s.page.isPrivacePageOpen = true ↔ LastPullsUp s.received

section Events
variable {subtype networkId : String} {page : PageState}

theorem isString_of_string {json : CJson} {key s : String}
    (item : json.getObjectItem key = some (.string s)) :
    json.isString key = true ↔ minMessageLen < s.utf8ByteSize ∧ s.utf8ByteSize ≤ maxMessageLen := by
  simp [CJson.isString, item]

/-- What the members of a start event are read as. -/
theorem startPageEvent_members :
    (startJson subtype networkId).getObjectItem "subtype" = some (.string (cStr subtype)) ∧
      (startJson subtype networkId).getObjectItem "networkId" =
        some (.string (cStr networkId)) := by
  simp [startJson, CJson.getObjectItem]

theorem stopPageEvent_member :
    (stopJson subtype).getObjectItem "subtype" = some (.string (cStr subtype)) := by
  simp [stopJson, CJson.getObjectItem]

theorem fits_of_isIdLengthValid {id : String} (valid : isIdLengthValid id = true) :
    minMessageLen < id.utf8ByteSize ∧ id.utf8ByteSize ≤ maxMessageLen := by
  have ne := ne_empty_of_isIdLengthValid valid
  rw [Ne, ← String.utf8ByteSize_eq_zero_iff] at ne
  have short : id.utf8ByteSize ≤ maxIdLen := by
    simp only [isIdLengthValid, Bool.and_eq_true] at valid
    exact of_decide_eq_true valid.2
  simp only [minMessageLen, maxMessageLen, maxIdLen] at short ⊢
  omega

theorem process_startPageEvent :
    processPageEvent true page (startPageEvent subtype networkId) =
      if (startJson subtype networkId).isString "subtype" = true ∧
          isIdLengthValid (cStr networkId) = true then
        { lastAction := some .start, isPrivacePageOpen := true }
      else page := by
  have value : (startJson subtype networkId).valuestring "networkId" = cStr networkId := by
    simp [CJson.valuestring, startPageEvent_members.2]
  have read : processPageEvent true page (startPageEvent subtype networkId) =
      if !(startJson subtype networkId).isString "subtype" then page
      else if !(startJson subtype networkId).isString "networkId" then page
      else startPrivacePage true (cStr networkId) page := by
    rw [← value]
    rfl
  rw [read]
  cases hsub : (startJson subtype networkId).isString "subtype" with
  | false => simp
  | true =>
      cases hid : isIdLengthValid (cStr networkId) with
      | false => simp [startPrivacePage, hid]
      | true =>
          have fits : (startJson subtype networkId).isString "networkId" = true :=
            (isString_of_string startPageEvent_members.2).mpr (fits_of_isIdLengthValid hid)
          simp [startPrivacePage, hid, fits]

theorem process_stopPageEvent :
    processPageEvent true page (stopPageEvent subtype) =
      if (stopJson subtype).isString "subtype" = true then
        { lastAction := some .stop, isPrivacePageOpen := false }
      else page := by
  have read : processPageEvent true page (stopPageEvent subtype) =
      if !(stopJson subtype).isString "subtype" then page else stopPrivacePage true page := rfl
  rw [read]
  cases (stopJson subtype).isString "subtype" <;> rfl

/-- A start event that is queued opens the page exactly if its message pulls it up. -/
theorem process_startPageEvent_eq (valid : isIdLengthValid networkId = true) :
    (PullsUp subtype (.pullUpPage networkId) →
      processPageEvent true page (startPageEvent subtype networkId) =
        { lastAction := some .start, isPrivacePageOpen := true }) ∧
    (¬ PullsUp subtype (.pullUpPage networkId) →
      processPageEvent true page (startPageEvent subtype networkId) = page) := by
  have fits := isString_of_string (@startPageEvent_members subtype networkId).1
  rw [process_startPageEvent]
  constructor
  · intro pulls
    obtain ⟨_, same, -, hid⟩ := pulls.networkId
    cases same
    exact if_pos ⟨fits.mpr pulls.subtype, hid⟩
  · intro idle
    refine if_neg (fun read => idle ?_)
    exact ⟨fits.mp read.1, networkId, rfl, valid, read.2⟩

end Events

section Invariant
variable {subtype : String} {s t : PrivacyState}

/-- The page once all that is queued is handled. -/
def PrivacyState.settled (s : PrivacyState) : PageState :=
  DelayQueue.settle (processPageEvent true) s.page s.queue

def PageState.Opened (page : PageState) (cond : Prop) : Prop :=
  (page.lastAction = some .start ↔ cond) ∧ (page.isPrivacePageOpen = true ↔ cond)

/-- The stop events that are not due yet are those of the closes of the last
`COMP_PRIVACY_DELAY_TIME`, and they are all that can still overtake. -/
structure PrivacyInv (subtype : String) (s : PrivacyState) : Prop where
  order : DelayQueue.InOrder s.queue
  soon : ∀ d ∈ s.queue, d.due ≤ s.now + compPrivacyDelayTime
  later : ∀ d ∈ s.queue, s.now < d.due → d.item = stopPageEvent subtype
  pending : ∀ time, s.now ≤ time → ((∃ d ∈ s.queue, time < d.due) ↔
    ∃ c ∈ s.received, c.message = .closePage ∧ time < c.time + compPrivacyDelayTime)
  past : ∀ m ∈ s.received, m.time ≤ s.now
  last : ∀ l, s.received.getLast? = some l → ∀ m ∈ s.received, m.time ≤ l.time
  opened : s.settled.Opened (PulledUpClear subtype s.received)

theorem PrivacyInv.initial : PrivacyInv subtype {} where
  order := .nil
  soon := fun _ mem => absurd mem List.not_mem_nil
  later := fun _ mem => absurd mem List.not_mem_nil
  pending := by simp
  past := fun _ mem => absurd mem List.not_mem_nil
  last := fun _ _ _ mem => absurd mem List.not_mem_nil
  opened := by simp [PrivacyState.settled, DelayQueue.settle, PageState.Opened, PulledUpClear]

theorem PrivacyInv.wait (h : PrivacyInv subtype s) (ms : Nat) :
    PrivacyInv subtype { s with now := s.now + ms } where
  order := h.order
  soon := by
    intro d mem
    have := h.soon d mem
    simp only
    omega
  later := fun d mem lt => h.later d mem (Nat.lt_of_le_of_lt (Nat.le_add_right _ _) lt)
  pending := fun time le => h.pending time (Nat.le_trans (Nat.le_add_right _ _) le)
  past := fun m mem => Nat.le_trans (h.past m mem) (Nat.le_add_right _ _)
  last := h.last
  opened := h.opened

/-- Handling an event that is due changes nothing of what all will have led to. -/
theorem PrivacyInv.handle (h : PrivacyInv subtype s) {e : Timed PageEvent}
    {queue : List (Timed PageEvent)} (front : s.queue = e :: queue) (due : e.due ≤ s.now) :
    PrivacyInv subtype { s with queue, page := processPageEvent true s.page e.item } where
  order := by
    have order := h.order
    rw [front] at order
    exact order.of_cons
  soon := fun d mem => h.soon d (front ▸ List.mem_cons_of_mem _ mem)
  later := fun d mem => h.later d (front ▸ List.mem_cons_of_mem _ mem)
  pending := by
    intro time (le : s.now ≤ time)
    rw [← h.pending time le, front]
    constructor
    · intro ⟨d, mem, lt⟩
      exact ⟨d, List.mem_cons_of_mem _ mem, lt⟩
    · intro ⟨d, mem, lt⟩
      cases List.mem_cons.mp mem with
      | inl same =>
          rw [same] at lt
          omega
      | inr mem => exact ⟨d, mem, lt⟩
  past := h.past
  last := h.last
  opened := by
    have opened := h.opened
    rw [PrivacyState.settled, front] at opened
    exact opened

theorem exists_mem_concat {received : List StampedMessage} {m : StampedMessage}
    {P : StampedMessage → Prop} :
    (∃ c ∈ received ++ [m], P c) ↔ (∃ c ∈ received, P c) ∨ P m := by
  simp only [List.mem_append, List.mem_singleton, or_and_right, exists_or, exists_eq_left]

theorem past_received {received : List StampedMessage} {m : StampedMessage} {now : Nat}
    (past : ∀ m ∈ received, m.time ≤ now) (time : m.time = now) :
    ∀ r ∈ received ++ [m], r.time ≤ now := by
  rw [List.forall_mem_append, List.forall_mem_singleton]
  exact ⟨past, Nat.le_of_eq time⟩

/-- The time of the last message is now. -/
theorem last_received {received : List StampedMessage} {m : StampedMessage} {now : Nat}
    (past : ∀ m ∈ received, m.time ≤ now) (time : m.time = now) (l : StampedMessage)
    (hl : (received ++ [m]).getLast? = some l) : ∀ r ∈ received ++ [m], r.time ≤ l.time := by
  rw [List.getLast?_concat, Option.some.injEq] at hl
  rw [← hl, time]
  exact past_received past time

/-- A message that does not get to the page leaves the answer. -/
theorem pulledUpClear_append_of_not {received : List StampedMessage} {m : StampedMessage}
    (idle : ¬ PullsUp subtype m.message) (keeps : m.message ≠ .closePage) :
    PulledUpClear subtype (received ++ [m]) ↔ PulledUpClear subtype received := by
  constructor
  · intro ⟨r, mem, pulls, clear⟩
    cases List.mem_append.mp mem with
    | inl mem => exact ⟨r, mem, pulls, fun c hc => clear c (List.mem_append_left _ hc)⟩
    | inr mem => exact absurd (List.mem_singleton.mp mem ▸ pulls) idle
  · intro ⟨r, mem, pulls, clear⟩
    refine ⟨r, List.mem_append_left _ mem, pulls, ?_⟩
    intro c hc close
    cases List.mem_append.mp hc with
    | inl hc => exact clear c hc close
    | inr hc => exact absurd (List.mem_singleton.mp hc ▸ close) keeps

/-- No message is clear of a close that is less than the delay ago. -/
theorem not_pulledUpClear {received : List StampedMessage} {now : Nat} {c : StampedMessage}
    (past : ∀ m ∈ received, m.time ≤ now) (mem : c ∈ received) (close : c.message = .closePage)
    (recent : now < c.time + compPrivacyDelayTime) : ¬ PulledUpClear subtype received := by
  intro ⟨m, hm, _, clear⟩
  have := clear c mem close
  have := past m hm
  omega

theorem PrivacyInv.closePage (h : PrivacyInv subtype s) :
    PrivacyInv subtype (onPrivaceResourceMessage subtype .closePage s) where
  order := h.order.insert
  soon := DelayQueue.forall_mem_insert.mpr ⟨Nat.le_refl _, h.soon⟩
  later := DelayQueue.forall_mem_insert.mpr ⟨fun _ => rfl, h.later⟩
  pending := by
    intro time le
    refine Iff.trans DelayQueue.exists_mem_insert ?_
    refine Iff.trans ?_ exists_mem_concat.symm
    rw [h.pending time le, or_comm]
    exact or_congr_right (and_iff_right rfl).symm
  past := past_received h.past rfl
  last := last_received h.past rfl
  opened := by
    have closed :
        ¬ PulledUpClear subtype (s.received ++ [{ time := s.now, message := .closePage }]) :=
      not_pulledUpClear (past_received h.past rfl)
        (List.mem_append_right _ (List.mem_singleton_self _)) rfl (by simp [compPrivacyDelayTime])
    have settled : (onPrivaceResourceMessage subtype .closePage s).settled =
        processPageEvent true s.settled (stopPageEvent subtype) :=
      DelayQueue.settle_insert_last (fun d mem => h.soon d mem)
    rw [settled, process_stopPageEvent]
    by_cases fits : (stopJson subtype).isString "subtype" = true
    · rw [if_pos fits]
      exact ⟨iff_of_false (by decide) closed, iff_of_false (by decide) closed⟩
    · -- no event of this resource gets to the page, so it was not open before either
      have before : ¬ PulledUpClear subtype s.received := fun ⟨m, _, pulls, _⟩ =>
        fits ((isString_of_string stopPageEvent_member).mpr pulls.subtype)
      rw [if_neg fits]
      exact ⟨iff_of_false (fun ha => before (h.opened.1.mp ha)) closed,
        iff_of_false (fun ho => before (h.opened.2.mp ho)) closed⟩

theorem onPrivaceResourceMessage_unsent {networkId : String}
    (invalid : isIdLengthValid networkId = false) :
    onPrivaceResourceMessage subtype (.pullUpPage networkId) s =
      { s with
        received := s.received ++ [{ time := s.now, message := .pullUpPage networkId }] } := by
  simp [onPrivaceResourceMessage, handlePullUpPage, invalid]

theorem onPrivaceResourceMessage_sent {networkId : String}
    (valid : isIdLengthValid networkId = true) :
    onPrivaceResourceMessage subtype (.pullUpPage networkId) s =
      { s with
        received := s.received ++ [{ time := s.now, message := .pullUpPage networkId }]
        queue := DelayQueue.insert
          { due := s.now, item := startPageEvent subtype networkId } s.queue } := by
  simp only [onPrivaceResourceMessage, handlePullUpPage, valid, Bool.not_true, Bool.false_eq_true,
    if_false]
  rfl

/-- A start event comes before the stop events that are not due yet. -/
theorem PrivacyInv.opened_pullUp (h : PrivacyInv subtype s) {networkId : String}
    (pulls : PullsUp subtype (.pullUpPage networkId)) :
    (onPrivaceResourceMessage subtype (.pullUpPage networkId) s).settled.Opened
      (PulledUpClear subtype
        (s.received ++ [{ time := s.now, message := .pullUpPage networkId }])) := by
  obtain ⟨_, same, valid, -⟩ := pulls.networkId
  cases same
  have sent : (onPrivaceResourceMessage subtype (.pullUpPage networkId) s).settled =
      DelayQueue.settle (processPageEvent true) s.page
        (DelayQueue.insert { due := s.now, item := startPageEvent subtype networkId } s.queue) :=
    congrArg PrivacyState.settled (onPrivaceResourceMessage_sent valid)
  rw [sent]
  by_cases overtaken : ∃ d ∈ s.queue, s.now < d.due
  · obtain ⟨c, hc, close, recent⟩ := (h.pending s.now (Nat.le_refl _)).mp overtaken
    have closed : ¬ PulledUpClear subtype
        (s.received ++ [{ time := s.now, message := .pullUpPage networkId }]) :=
      not_pulledUpClear (past_received h.past rfl) (List.mem_append_left _ hc) close recent
    have stops : ∀ d ∈ s.queue, s.now < d.due → ∀ page, processPageEvent true page d.item =
        { lastAction := some .stop, isPrivacePageOpen := false } := by
      intro d mem lt page
      rw [h.later d mem lt, process_stopPageEvent]
      exact if_pos ((isString_of_string stopPageEvent_member).mpr pulls.subtype)
    rw [(DelayQueue.settle_insert_overtaken h.order stops overtaken).1]
    exact ⟨iff_of_false (by decide) closed, iff_of_false (by decide) closed⟩
  · have last : ∀ d ∈ s.queue, d.due ≤ s.now := by
      intro d mem
      exact Nat.le_of_not_lt (fun lt => overtaken ⟨d, mem, lt⟩)
    have clear : PulledUpClear subtype
        (s.received ++ [{ time := s.now, message := .pullUpPage networkId }]) := by
      refine ⟨_, List.mem_append_right _ (List.mem_singleton_self _), pulls, ?_⟩
      intro c hc close
      cases List.mem_append.mp hc with
      | inl hc =>
          by_contra recent
          exact overtaken ((h.pending s.now (Nat.le_refl _)).mpr
            ⟨c, hc, close, Nat.lt_of_not_le recent⟩)
      | inr hc =>
          rw [List.mem_singleton.mp hc] at close
          cases close
    rw [DelayQueue.settle_insert_last last, (process_startPageEvent_eq valid).1 pulls]
    exact ⟨iff_of_true rfl clear, iff_of_true rfl clear⟩

/-- A message to pull the page up queues no stop event. -/
theorem pending_pullUp {received : List StampedMessage} {now time : Nat} {networkId : String} :
    (∃ c ∈ received ++ [{ time := now, message := .pullUpPage networkId }],
        c.message = .closePage ∧ time < c.time + compPrivacyDelayTime) ↔
      ∃ c ∈ received, c.message = .closePage ∧ time < c.time + compPrivacyDelayTime := by
  rw [exists_mem_concat]
  refine or_iff_left ?_
  intro ⟨close, _⟩
  cases close

/-- The message is not handled at all, or its event does nothing. -/
theorem PrivacyInv.opened_idle (h : PrivacyInv subtype s) {networkId : String}
    (idle : ¬ PullsUp subtype (.pullUpPage networkId)) :
    (onPrivaceResourceMessage subtype (.pullUpPage networkId) s).settled.Opened
      (PulledUpClear subtype
        (s.received ++ [{ time := s.now, message := .pullUpPage networkId }])) := by
  have same : (onPrivaceResourceMessage subtype (.pullUpPage networkId) s).settled =
      s.settled := by
    cases valid : isIdLengthValid networkId with
    | false =>
        rw [onPrivaceResourceMessage_unsent valid]
        rfl
    | true =>
        rw [onPrivaceResourceMessage_sent valid]
        exact DelayQueue.settle_insert_idle (fun _ => (process_startPageEvent_eq valid).2 idle)
  have clear : PulledUpClear subtype
      (s.received ++ [{ time := s.now, message := .pullUpPage networkId }]) ↔
        PulledUpClear subtype s.received :=
    pulledUpClear_append_of_not idle (by simp)
  rw [same]
  exact ⟨h.opened.1.trans clear.symm, h.opened.2.trans clear.symm⟩

theorem PrivacyInv.pullUpPage (h : PrivacyInv subtype s) (networkId : String) :
    PrivacyInv subtype (onPrivaceResourceMessage subtype (.pullUpPage networkId) s) := by
  have opened : (onPrivaceResourceMessage subtype (.pullUpPage networkId) s).settled.Opened
      (PulledUpClear subtype
        (s.received ++ [{ time := s.now, message := .pullUpPage networkId }])) := by
    by_cases pulls : PullsUp subtype (.pullUpPage networkId)
    · exact h.opened_pullUp pulls
    · exact h.opened_idle pulls
  cases valid : isIdLengthValid networkId with
  | false =>
      rw [onPrivaceResourceMessage_unsent valid] at opened ⊢
      exact ⟨h.order, h.soon, h.later, fun time le => (h.pending time le).trans pending_pullUp.symm,
        past_received h.past rfl, last_received h.past rfl, opened⟩
  | true =>
      rw [onPrivaceResourceMessage_sent valid] at opened ⊢
      refine ⟨h.order.insert, ?_, ?_, ?_, past_received h.past rfl, last_received h.past rfl,
        opened⟩
      · exact DelayQueue.forall_mem_insert.mpr ⟨Nat.le_add_right _ _, h.soon⟩
      · exact DelayQueue.forall_mem_insert.mpr ⟨fun lt => absurd lt (Nat.lt_irrefl _), h.later⟩
      · intro time le
        refine Iff.trans DelayQueue.exists_mem_insert ?_
        refine Iff.trans (or_iff_right (Nat.not_lt_of_le le)) ?_
        exact (h.pending time le).trans pending_pullUp.symm

theorem PrivacyInv.step (h : PrivacyInv subtype s) {a : PrivacyStep} (client : a.FindsClient)
    (hs : privacyStep subtype s a = some t) : PrivacyInv subtype t := by
  cases a with
  | wait ms =>
      cases hs
      exact h.wait ms
  | message m =>
      cases hs
      cases m with
      | pullUpPage networkId => exact h.pullUpPage networkId
      | closePage => exact h.closePage
  | handle found =>
      have client : found = true := client
      subst client
      cases front : s.queue with
      | nil => simp [privacyStep, front] at hs
      | cons e queue =>
          by_cases due : e.due ≤ s.now
          · simp only [privacyStep, front, if_pos due, Option.some.injEq] at hs
            exact hs ▸ h.handle front due
          · simp [privacyStep, front, due] at hs

theorem privacyInv_of_run {steps : List PrivacyStep} (run : PrivacyRun subtype steps s) :
    PrivacyInv subtype s :=
  run.invariant (I := fun _ => PrivacyInv subtype)
    (fun s (hi : s = {}) => hi ▸ PrivacyInv.initial)
    (fun _ _ _ _ _ h client hs => h.step client hs)

/-- Where the last message closes the page, no message pulls it up clear of that. -/
theorem PrivacyInv.lastPullsUp (h : PrivacyInv subtype s)
    (clear : PulledUpClear subtype s.received) : LastPullsUp s.received := by
  obtain ⟨m, mem, -, hclear⟩ := clear
  cases hl : s.received.getLast? with
  | none => exact absurd mem (List.getLast?_eq_none_iff.mp hl ▸ List.not_mem_nil)
  | some l =>
      cases hm : l.message with
      | pullUpPage networkId => exact ⟨l, networkId, hl, hm⟩
      | closePage =>
          have far := hclear l (List.mem_of_getLast? hl) hm
          have near := h.last l hl m mem
          simp only [compPrivacyDelayTime] at far
          omega

end Invariant

/-- Once all events are handled the page is as the last message asks exactly if, where
that message is to pull it up, some message pulls it up the delay or more after every
close. -/
theorem privacyPage_followsLast_iff {subtype : String} {steps : List PrivacyStep}
    {s : PrivacyState} (run : PrivacyRun subtype steps s) (handled : s.queue = []) :
    FollowsLast s ↔ (LastPullsUp s.received → PulledUpClear subtype s.received) := by
  have inv := privacyInv_of_run run
  have opened : s.page.Opened (PulledUpClear subtype s.received) := by
    have settled := inv.opened
    rwa [PrivacyState.settled, handled] at settled
  constructor
  · intro follows last
    exact opened.1.mp (follows.action.mpr last)
  · intro clear
    have same : PulledUpClear subtype s.received ↔ LastPullsUp s.received :=
      ⟨inv.lastPullsUp, clear⟩
    exact ⟨opened.1.trans same, opened.2.trans same⟩

section Overtaken

instance (step : PrivacyStep) : Decidable step.FindsClient := by
  cases step <;> unfold PrivacyStep.FindsClient <;> infer_instance

private def replayPage (steps : List PrivacyStep) : Option PrivacyState :=
  (privacySystem "mic").replay (fun _ step => step.FindsClient) {} steps

private theorem run_of_replayPage {steps : List PrivacyStep}
    (h : (replayPage steps).isSome = true) :
    PrivacyRun "mic" steps.reverse ((replayPage steps).get h) :=
  TransitionSystem.run_of_replay rfl (Option.some_get h).symm

/-- The page is closed and pulled up again within the delay. -/
private def overtakenSteps : List PrivacyStep :=
  [.message (.pullUpPage "n"), .handle true, .wait 5000, .message .closePage, .wait 500,
    .message (.pullUpPage "n"), .handle true, .wait 500, .handle true]

/-- The stop event of the close is handled last: the page is closed though the last
message pulls it up. -/
theorem exists_page_closed_in_use :
    ∃ s, PrivacyRun "mic" overtakenSteps.reverse s ∧ s.queue = [] ∧ ¬ FollowsLast s := by
  have replays : (replayPage overtakenSteps).isSome = true := by decide
  refine ⟨_, run_of_replayPage replays, rfl, ?_⟩
  intro follows
  have last : LastPullsUp ((replayPage overtakenSteps).get replays).received :=
    ⟨{ time := 5500, message := .pullUpPage "n" }, "n", rfl, rfl⟩
  exact Bool.false_ne_true (follows.flag.mpr last)

private def clearSteps : List PrivacyStep :=
  [.message .closePage, .wait 1000, .message (.pullUpPage "n"), .handle true, .handle true]

/-- Exactly the delay after the close, the page is opened. -/
theorem privacyPage_followsLast_iff_clear : ∃ s, PrivacyRun "mic" clearSteps.reverse s ∧
    s.queue = [] ∧
      (FollowsLast s ↔ (LastPullsUp s.received → PulledUpClear "mic" s.received)) := by
  have replays : (replayPage clearSteps).isSome = true := by decide
  exact ⟨_, run_of_replayPage replays, rfl,
    privacyPage_followsLast_iff (run_of_replayPage replays) rfl⟩

end Overtaken
end DistributedHardware
