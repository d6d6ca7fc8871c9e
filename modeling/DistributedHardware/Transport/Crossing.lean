import DistributedHardware.Transport.CapsSync

/-!
Crossing exchanges of full capabilities.

Where both sides have sessions, each overwrites the socket that the other's data comes
on. As long as a side takes up a session only while it has no other, nothing is lost and
nobody's session is closed by the peer.
-/

namespace DistributedHardware

/-- The capabilities that a message brings. -/
def CommMsg.caps : CommMsg → List CapabilityInfo
  | .reqFullCaps => []
  | .rspFullCaps caps => caps

/-- What a side has been handed, in order. -/
def CapsSyncState.handedTo (s : CapsSyncState) (side : Side) : List CommMsg :=
  s.handed.filterMap (fun (receiver, _, msg) => if receiver = side then some msg else none)

/-- What a side was handed first is processed, with its capabilities saved in the map; the
rest waits in the queue. -/
def CapsSyncState.Saved (s : CapsSyncState) (side : Side) : Prop :=
  ∃ processed, s.handedTo side = processed ++ s.events side ∧
    s.globalCapInfoMap side = saveRecords CapabilityInfo.getKey ∅ (processed.flatMap CommMsg.caps)

/-- What was sent to an open end is still to come or has been handed over; what has been
handed over is saved, unless it waits in the queue; a side stops only sessions that it
has opened. -/
structure CrossingSafe (s : CapsSyncState) : Prop where
  handed : ∀ side socketId msg, (side, socketId, msg) ∈ s.sent → (side, socketId) ∈ s.openAt →
    msg ∈ s.inbox (side, socketId) ∨ (side, socketId, msg) ∈ s.handed
  saved : ∀ side, s.Saved side
  own : ∀ side socketId, (side, socketId) ∈ s.stopped → s.openers[socketId]? = some side

/-- The end is open, or still to be opened when the session is accepted. -/
def CapsSyncState.Live (s : CapsSyncState) (side : Side) (socketId : Nat) : Prop :=
  socketId ∈ s.unbound ∨ (side, socketId) ∈ s.openAt

instance (s : CapsSyncState) (side : Side) (socketId : Nat) : Decidable (s.Live side socketId) :=
  inferInstanceAs (Decidable (_ ∨ _))

/-- A side starts a session while it has none and no request to answer, or goes on with
one of its own or one that the peer has closed. It accepts a session while it has none, or
one that the peer has closed and that nothing is to come on, and has no response to
process; a call that is about to send its request finds the session closed. A response
fits into the records of a map. -/
def keepsApart (s : CapsSyncState) : CapsSyncEvent → Prop
  | .startSocket side =>
      (s.remoteDevSocketIds side = none → .reqFullCaps ∉ s.events side) ∧
      ∀ current ∈ s.remoteDevSocketIds side,
        s.openers[current]? = some side ∨ ¬ s.Live side.peer current
  | .onBind side socketId =>
      (∀ current ∈ s.remoteDevSocketIds side,
        ¬ s.Live side.peer current ∧ s.inbox (side, current) = []) ∧
      (s.starting side = 0 ∨ (side.peer, socketId) ∉ s.openAt) ∧
      ∀ msg ∈ s.events side, msg.caps = []
  | .processEvent side taken resInfos =>
      (s.events side).head? = some .reqFullCaps → taken = true → resInfos.length ≤ maxDbRecordSize
  | _ => True

instance (s : CapsSyncState) : (event : CapsSyncEvent) → Decidable (keepsApart s event)
  | .startSocket _ => inferInstanceAs (Decidable ((_ → _) ∧ _))
  | .onBind _ _ => inferInstanceAs (Decidable (_ ∧ _ ∧ _))
  | .processEvent side _ _ => inferInstanceAs (Decidable ((s.events side).head? = _ → _))
  | .sendRequest _ _ | .onBytes _ _ | .onShutdown _ _ => .isTrue trivial

/-- The opener of the sessions on which a message comes to a side. -/
def CommMsg.opener (side : Side) : CommMsg → Side
  | .reqFullCaps => side.peer
  | .rspFullCaps _ => side

def CommMsg.Fits (msg : CommMsg) : Prop := msg.caps.length ≤ maxDbRecordSize

/-- The recorded socket is the side's only open end that anything can come on. What is in
flight, waits to be processed or is about to be sent belongs to it, and what was sent to
a live end is not lost. -/
structure SessionsApart (s : CapsSyncState) : Prop where
  recorded : ∀ side socketId, (side, socketId) ∈ s.openAt →
    s.remoteDevSocketIds side = some socketId ∨
      (¬ s.Live side.peer socketId ∧ s.inbox (side, socketId) = [])
  isOpen : ∀ side socketId, s.remoteDevSocketIds side = some socketId →
    (side, socketId) ∈ s.openAt
  openKnown : ∀ side socketId, (side, socketId) ∈ s.openAt → socketId < s.openers.length
  sentKnown : ∀ side socketId msg, (side, socketId, msg) ∈ s.sent → socketId < s.openers.length
  inboxSent : ∀ side socketId, ∀ msg ∈ s.inbox (side, socketId), (side, socketId, msg) ∈ s.sent
  inFlight : ∀ side socketId, s.Live side socketId → ∀ msg ∈ s.inbox (side, socketId),
    s.openers[socketId]? = some (msg.opener side) ∧ msg.Fits
  queued : ∀ side, ∀ msg ∈ s.events side, msg.Fits ∧ (msg ≠ .rspFullCaps [] → ∀ socketId,
    s.remoteDevSocketIds side = some socketId → s.openers[socketId]? = some (msg.opener side))
  starting : ∀ side socketId, 0 < s.starting side →
    s.remoteDevSocketIds side = some socketId →
      s.openers[socketId]? = some side ∨ ¬ s.Live side.peer socketId
  pending : ∀ side socketId msg, (side, socketId, msg) ∈ s.sent → s.Live side socketId →
    msg ∈ s.inbox (side, socketId) ∨ (side, socketId, msg) ∈ s.handed

section Steps
variable {s : CapsSyncState} {side : Side} {socketId : Nat}

theorem opener_append {openers added : List Side} {opener : Side}
    (h : openers[socketId]? = some opener) : (openers ++ added)[socketId]? = some opener := by
  rw [List.getElem?_append_left (List.getElem?_eq_some_iff.mp h).1]
  exact h

/-- What holds of an updated function holds of the new value or of an old one. -/
theorem update_cases {α β : Type} [DecidableEq α] {f : α → β} {x y : α} {value : β}
    (P : β → Prop) (h : P (Function.update f x value y)) :
    (y = x ∧ P value) ∨ (y ≠ x ∧ P (f y)) := by
  by_cases heq : y = x
  · subst heq
    rw [Function.update_self] at h
    exact .inl ⟨rfl, h⟩
  · rw [Function.update_of_ne heq] at h
    exact .inr ⟨heq, h⟩

/-- Events that are processed and calls that end give nothing away. -/
theorem apart_mono (h : SessionsApart s) {starting : Side → Nat} {events : Side → List CommMsg}
    (hstarting : ∀ side, starting side ≤ s.starting side)
    (hevents : ∀ side, ∀ msg ∈ events side, msg ∈ s.events side) :
    SessionsApart { s with starting := starting, events := events } :=
  { h with
    queued := fun side msg hmsg => h.queued side msg (hevents side msg hmsg)
    starting := fun side socketId hstart =>
      h.starting side socketId (Nat.lt_of_lt_of_le hstart (hstarting side)) }

theorem apart_pop (h : SessionsApart s) {msg : CommMsg} {rest : List CommMsg}
    (hhead : s.events side = msg :: rest) :
    SessionsApart { s with events := Function.update s.events side rest } := by
  apply apart_mono h (fun _ => Nat.le_refl _)
  intro other msg' hmsg
  obtain ⟨rfl, hin⟩ | ⟨_, hin⟩ := update_cases (msg' ∈ ·) hmsg
  · rw [hhead]
    exact List.mem_cons_of_mem _ hin
  · exact hin

/-- A call that goes on with the recorded session. -/
theorem apart_calling (h : SessionsApart s)
    (usable : ∀ socketId, s.remoteDevSocketIds side = some socketId →
      s.openers[socketId]? = some side ∨ ¬ s.Live side.peer socketId) :
    SessionsApart { s with starting := Function.update s.starting side (s.starting side + 1) } := by
  refine { h with starting := fun other found hstart hslot => ?_ }
  by_cases heq : other = side
  · subst heq
    exact usable found hslot
  · apply h.starting other found _ hslot
    simpa only [Function.update_of_ne heq] using hstart

/-- An end is opened and recorded, of a new session or of one that was waiting: the side has
no other in use, and what it is still to answer, process or send belongs to this one. -/
theorem apart_socketOpened (h : SessionsApart s) {added : List Side} {unbound : Finset Nat}
    (known : socketId < (s.openers ++ added).length)
    (live : ∀ other found, found < s.openers.length →
      (found ∈ unbound ∨ (other, found) ∈ insert (side, socketId) s.openAt) → s.Live other found)
    (unused : ∀ current, s.remoteDevSocketIds side = some current →
      ¬ s.Live side.peer current ∧ s.inbox (side, current) = [])
    (queued : ∀ msg ∈ s.events side, msg ≠ .rspFullCaps [] →
      (s.openers ++ added)[socketId]? = some (msg.opener side))
    (calls : 0 < s.starting side → (s.openers ++ added)[socketId]? = some side ∨
      ¬ (socketId ∈ unbound ∨ (side.peer, socketId) ∈ s.openAt)) : SessionsApart
      { s with
        openers := s.openers ++ added
        unbound := unbound
        openAt := insert (side, socketId) s.openAt
        remoteDevSocketIds := Function.update s.remoteDevSocketIds side (some socketId) } := by
  have longer {found : Nat} (hlt : found < s.openers.length) :
      found < (s.openers ++ added).length := by
    rw [List.length_append]
    omega
  constructor
  case recorded =>
    intro other found (hopen : (other, found) ∈ insert (side, socketId) s.openAt)
    show Function.update s.remoteDevSocketIds side (some socketId) other = some found ∨ _
    obtain heq | hopen := Finset.mem_insert.mp hopen
    · cases heq
      exact .inl (Function.update_self _ _ _)
    · have hlt := h.openKnown other found hopen
      obtain hrec | ⟨dead, hinbox⟩ := h.recorded other found hopen
      · by_cases heq : other = side
        · subst heq
          obtain ⟨dead, hinbox⟩ := unused found hrec
          exact .inr ⟨fun hlive => dead (live _ found hlt hlive), hinbox⟩
        · rw [Function.update_of_ne heq]
          exact .inl hrec
      · exact .inr ⟨fun hlive => dead (live _ found hlt hlive), hinbox⟩
  case isOpen =>
    intro other found hslot
    obtain ⟨rfl, heq⟩ | ⟨_, hslot⟩ := update_cases (· = some found) hslot
    · cases heq
      exact Finset.mem_insert_self _ _
    · exact Finset.mem_insert_of_mem (h.isOpen other found hslot)
  case openKnown =>
    intro other found hopen
    obtain heq | hopen := Finset.mem_insert.mp hopen
    · cases heq
      exact known
    · exact longer (h.openKnown other found hopen)
  case sentKnown =>
    intro other found msg hsent
    exact longer (h.sentKnown other found msg hsent)
  case inboxSent => exact h.inboxSent
  case inFlight =>
    intro other found hlive msg hmsg
    have hlt := h.sentKnown other found msg (h.inboxSent other found msg hmsg)
    obtain ⟨hopener, fits⟩ := h.inFlight other found (live other found hlt hlive) msg hmsg
    exact ⟨opener_append hopener, fits⟩
  case queued =>
    intro other msg hmsg
    obtain ⟨fits, hopener⟩ := h.queued other msg hmsg
    refine ⟨fits, fun full found hslot => ?_⟩
    obtain ⟨rfl, heq⟩ | ⟨_, hslot⟩ := update_cases (· = some found) hslot
    · cases heq
      exact queued msg hmsg full
    · exact opener_append (hopener full found hslot)
  case starting =>
    intro other found hstart hslot
    obtain ⟨rfl, heq⟩ | ⟨_, hslot⟩ := update_cases (· = some found) hslot
    · cases heq
      refine (calls hstart).imp_right (fun dead hlive => dead ?_)
      refine hlive.imp_right (fun hopen => Finset.mem_of_mem_insert_of_ne hopen ?_)
      cases other <;> intro heq <;> cases heq
    · obtain hopener | dead := h.starting other found hstart hslot
      · exact .inl (opener_append hopener)
      · have hlt := h.openKnown other found (h.isOpen other found hslot)
        exact .inr (fun hlive => dead (live _ found hlt hlive))
  case pending =>
    intro other found msg hsent hlive
    have hlt := h.sentKnown other found msg hsent
    exact h.pending other found msg hsent (live other found hlt hlive)

/-- A new session of a side that has none and no request to answer. -/
theorem apart_opened (h : SessionsApart s) (free : s.remoteDevSocketIds side = none)
    (unasked : .reqFullCaps ∉ s.events side) : SessionsApart
      { s with
        openers := s.openers ++ [side]
        unbound := insert s.openers.length s.unbound
        openAt := insert (side, s.openers.length) s.openAt
        remoteDevSocketIds :=
          Function.update s.remoteDevSocketIds side (some s.openers.length) } := by
  have fresh : (s.openers ++ [side])[s.openers.length]? = some side :=
    List.getElem?_concat_length
  apply apart_socketOpened h
  case known => exact (List.getElem?_eq_some_iff.mp fresh).1
  case live =>
    intro other found hlt hlive
    have hne : found ≠ s.openers.length := Nat.ne_of_lt hlt
    refine hlive.imp (fun hunbound => ?_) (fun hopen => ?_)
    · exact Finset.mem_of_mem_insert_of_ne hunbound hne
    · exact Finset.mem_of_mem_insert_of_ne hopen (fun heq => hne (congrArg Prod.snd heq))
  case unused =>
    intro current hslot
    rw [free] at hslot
    cases hslot
  case queued =>
    intro msg hmsg _
    cases msg with
    | reqFullCaps => exact absurd hmsg unasked
    | rspFullCaps caps => exact fresh
  case calls => exact fun _ => .inl fresh

theorem apart_startSocket (h : SessionsApart s) (ok : keepsApart s (.startSocket side)) :
    SessionsApart { s.startSocket side with
      starting := Function.update s.starting side (s.starting side + 1) } := by
  obtain ⟨unasked, usable⟩ := ok
  obtain ⟨_, _, same⟩ | ⟨hslot, opened⟩ := s.startSocket_cases side
  · rw [same]
    exact apart_calling h usable
  · rw [opened]
    apply apart_calling (apart_opened h hslot (unasked hslot))
    intro found hfound
    obtain ⟨_, heq⟩ | ⟨hne, _⟩ := update_cases (· = some found) hfound
    · cases heq
      exact .inl List.getElem?_concat_length
    · exact absurd rfl hne

/-- A session of the peer, accepted by a side that has none in use. -/
theorem apart_onBind (h : SessionsApart s) (opened : s.openers[socketId]? = some side.peer)
    (waiting : socketId ∈ s.unbound) (ok : keepsApart s (.onBind side socketId)) :
    SessionsApart ({ s with
      unbound := s.unbound.erase socketId
      openAt := insert (side, socketId) s.openAt }.onSocketOpened side socketId) := by
  obtain ⟨unused, idle, unanswered⟩ := ok
  have same : s.openers = s.openers ++ [] := (List.append_nil _).symm
  rw [CapsSyncState.onSocketOpened]
  rw [same] at opened ⊢
  apply apart_socketOpened h
  case known => exact (List.getElem?_eq_some_iff.mp opened).1
  case live =>
    intro other found _ hlive
    obtain hunbound | hopen := hlive
    · exact .inl (Finset.mem_of_mem_erase hunbound)
    · obtain heq | hopen := Finset.mem_insert.mp hopen
      · cases heq
        exact .inl waiting
      · exact .inr hopen
  case unused => exact unused
  case queued =>
    intro msg hmsg full
    cases msg with
    | reqFullCaps => exact opened
    | rspFullCaps caps =>
        have empty : caps = [] := unanswered _ hmsg
        exact absurd (congrArg CommMsg.rspFullCaps empty) full
  case calls =>
    intro hstart
    obtain idle | closed := idle
    · rw [idle] at hstart
      exact absurd hstart (Nat.lt_irrefl 0)
    · refine .inr (fun hlive => ?_)
      obtain hunbound | hopen := hlive
      · exact Finset.notMem_erase _ _ hunbound
      · exact closed hopen

/-- An end is closed and no longer recorded. -/
theorem apart_closed (h : SessionsApart s) {slots : Side → Option Nat}
    (hslots : ∀ other found, slots other = some found ↔
      s.remoteDevSocketIds other = some found ∧ (other, found) ≠ (side, socketId))
    (stopped : List (Side × Nat)) : SessionsApart
      { s with
        openAt := s.openAt.erase (side, socketId)
        remoteDevSocketIds := slots
        stopped := stopped } := by
  have live {other : Side} {found : Nat} (hlive : found ∈ s.unbound ∨
      (other, found) ∈ s.openAt.erase (side, socketId)) : s.Live other found :=
    hlive.imp_right Finset.mem_of_mem_erase
  constructor
  case recorded =>
    intro other found hopen
    obtain ⟨hne, hopen⟩ := Finset.mem_erase.mp hopen
    obtain hrec | ⟨dead, hinbox⟩ := h.recorded other found hopen
    · exact .inl ((hslots other found).mpr ⟨hrec, hne⟩)
    · exact .inr ⟨fun hlive => dead (live hlive), hinbox⟩
  case isOpen =>
    intro other found hslot
    obtain ⟨hslot, hne⟩ := (hslots other found).mp hslot
    exact Finset.mem_erase.mpr ⟨hne, h.isOpen other found hslot⟩
  case openKnown =>
    exact fun other found hopen => h.openKnown other found (Finset.mem_of_mem_erase hopen)
  case sentKnown => exact h.sentKnown
  case inboxSent => exact h.inboxSent
  case inFlight => exact fun other found hlive => h.inFlight other found (live hlive)
  case queued =>
    intro other msg hmsg
    obtain ⟨fits, hopener⟩ := h.queued other msg hmsg
    exact ⟨fits, fun full found hslot => hopener full found ((hslots other found).mp hslot).1⟩
  case starting =>
    intro other found hstart hslot
    exact (h.starting other found hstart ((hslots other found).mp hslot).1).imp_right
      (fun dead hlive => dead (live hlive))
  case pending =>
    exact fun other found msg hsent hlive => h.pending other found msg hsent (live hlive)

/-- The recorded socket, forgotten. -/
theorem slot_forgotten {slots : Side → Option Nat} (hslot : slots side = some socketId)
    (other : Side) (found : Nat) : Function.update slots side none other = some found ↔
      slots other = some found ∧ (other, found) ≠ (side, socketId) := by
  by_cases heq : other = side
  · subst heq
    rw [Function.update_self, hslot]
    constructor
    · intro hnone
      cases hnone
    · intro ⟨hsame, hne⟩
      cases hsame
      exact absurd rfl hne
  · rw [Function.update_of_ne heq]
    exact ⟨fun hfound => ⟨hfound, fun hpair => heq (congrArg Prod.fst hpair)⟩, And.left⟩

theorem slot_other {slots : Side → Option Nat} (hslot : slots side ≠ some socketId)
    (other : Side) (found : Nat) : slots other = some found ↔
      slots other = some found ∧ (other, found) ≠ (side, socketId) := by
  refine ⟨fun hfound => ⟨hfound, fun heq => ?_⟩, And.left⟩
  cases heq
  exact hslot hfound

/-- A message goes out on the recorded session, if that is the right one for it or closed
at the other end. -/
theorem apart_send (h : SessionsApart s) {taken : Bool} {msg : CommMsg}
    (fits : taken = true → msg.Fits)
    (right : ∀ socketId, s.remoteDevSocketIds side = some socketId →
      s.openers[socketId]? = some (msg.opener side.peer) ∨ ¬ s.Live side.peer socketId) :
    SessionsApart (s.send side taken msg) := by
  obtain ⟨_, same⟩ | ⟨socketId, htaken, hslot, sent⟩ := s.send_cases side taken msg
  · rw [same]
    exact h
  · rw [sent]
    have hopen := h.isOpen side socketId hslot
    refine { h with
      recorded := ?recorded, sentKnown := ?sentKnown, inboxSent := ?inboxSent,
      inFlight := ?inFlight, pending := ?pending }
    case recorded =>
      intro other found hopen'
      refine (h.recorded other found hopen').imp_right (fun ⟨dead, hinbox⟩ => ⟨dead, ?_⟩)
      have hne : (other, found) ≠ (side.peer, socketId) := by
        intro heq
        cases heq
        rw [Side.peer_peer] at dead
        exact dead (.inr hopen)
      show Function.update s.inbox _ _ (other, found) = []
      rw [Function.update_of_ne hne]
      exact hinbox
    case sentKnown =>
      intro other found msg' (hsent : _ ∈ s.sent ++ [(side.peer, socketId, msg)])
      obtain hsent | hsent := List.mem_append.mp hsent
      · exact h.sentKnown other found msg' hsent
      · cases List.mem_singleton.mp hsent
        exact h.openKnown side socketId hopen
    case inboxSent =>
      intro other found msg' hmsg
      show _ ∈ s.sent ++ [(side.peer, socketId, msg)]
      obtain ⟨heq, hin⟩ | ⟨_, hin⟩ := update_cases (msg' ∈ ·) hmsg
      · cases heq
        obtain hin | hnew := List.mem_append.mp hin
        · exact List.mem_append_left _ (h.inboxSent side.peer socketId msg' hin)
        · cases List.mem_singleton.mp hnew
          exact List.mem_append_right _ (List.mem_singleton.mpr rfl)
      · exact List.mem_append_left _ (h.inboxSent other found msg' hin)
    case inFlight =>
      intro other found hlive msg' hmsg
      obtain ⟨heq, hin⟩ | ⟨_, hin⟩ := update_cases (msg' ∈ ·) hmsg
      · cases heq
        obtain hin | hnew := List.mem_append.mp hin
        · exact h.inFlight side.peer socketId hlive msg' hin
        · cases List.mem_singleton.mp hnew
          obtain hopener | dead := right socketId hslot
          · exact ⟨hopener, fits htaken⟩
          · exact absurd hlive dead
      · exact h.inFlight other found hlive msg' hin
    case pending =>
      intro other found msg' (hsent : _ ∈ s.sent ++ [(side.peer, socketId, msg)]) hlive
      show msg' ∈ Function.update s.inbox _ _ (other, found) ∨ _
      obtain hsent | hsent := List.mem_append.mp hsent
      · apply (h.pending other found msg' hsent hlive).imp_left
        intro hmsg
        by_cases heq : (other, found) = (side.peer, socketId)
        · rw [heq] at hmsg ⊢
          rw [Function.update_self]
          exact List.mem_append_left _ hmsg
        · rw [Function.update_of_ne heq]
          exact hmsg
      · cases List.mem_singleton.mp hsent
        rw [Function.update_self]
        exact .inl (List.mem_append_right _ (List.mem_singleton.mpr rfl))

/-- A call sends its request on a session of its own side, or to no one. -/
theorem apart_sendRequest (h : SessionsApart s) (taken : Bool) (calling : 0 < s.starting side) :
    SessionsApart ({ s with
      starting := Function.update s.starting side (s.starting side - 1) }.send side taken
        .reqFullCaps) := by
  apply apart_send
  case h =>
    apply apart_mono h _ (fun _ _ hmsg => hmsg)
    intro other
    by_cases heq : other = side
    · subst heq
      rw [Function.update_self]
      exact Nat.sub_le _ _
    · rw [Function.update_of_ne heq]
  case fits => exact fun _ => Nat.zero_le _
  case right =>
    intro socketId hslot
    rw [CommMsg.opener, Side.peer_peer]
    exact h.starting side socketId calling hslot

/-- What comes on an open end comes on the recorded socket. -/
theorem recorded_of_inbox (h : SessionsApart s) {msg : CommMsg} {rest : List CommMsg}
    (hopen : (side, socketId) ∈ s.openAt) (hinbox : s.inbox (side, socketId) = msg :: rest) :
    s.remoteDevSocketIds side = some socketId := by
  obtain hslot | ⟨_, hempty⟩ := h.recorded side socketId hopen
  · exact hslot
  · rw [hinbox] at hempty
    cases hempty

theorem apart_onBytes (h : SessionsApart s) {msg : CommMsg} {rest : List CommMsg}
    (hopen : (side, socketId) ∈ s.openAt) (hinbox : s.inbox (side, socketId) = msg :: rest) :
    SessionsApart ({ s with
      inbox := Function.update s.inbox (side, socketId) rest }.handleReceiveMessage side socketId
        msg) := by
  have hslot := recorded_of_inbox h hopen hinbox
  have head := h.inFlight side socketId (.inr hopen) msg (by rw [hinbox]; exact List.mem_cons_self)
  have before {other : Side} {found : Nat} {msg' : CommMsg}
      (hmsg : msg' ∈ Function.update s.inbox (side, socketId) rest (other, found)) :
      msg' ∈ s.inbox (other, found) := by
    obtain ⟨heq, hin⟩ | ⟨_, hin⟩ := update_cases (msg' ∈ ·) hmsg
    · rw [heq, hinbox]
      exact List.mem_cons_of_mem _ hin
    · exact hin
  refine { h with
    recorded := ?recorded, inboxSent := ?inboxSent, inFlight := ?inFlight, queued := ?queued,
    pending := ?pending }
  case recorded =>
    intro other found hopen'
    refine (h.recorded other found hopen').imp_right (fun ⟨dead, hempty⟩ => ⟨dead, ?_⟩)
    apply List.eq_nil_iff_forall_not_mem.mpr
    intro msg' hmsg
    have hmem := before hmsg
    rw [hempty] at hmem
    cases hmem
  case inboxSent => exact fun other found msg' hmsg => h.inboxSent other found msg' (before hmsg)
  case inFlight =>
    exact fun other found hlive msg' hmsg => h.inFlight other found hlive msg' (before hmsg)
  case queued =>
    intro other msg' hmsg
    obtain ⟨rfl, hin⟩ | ⟨_, hin⟩ := update_cases (msg' ∈ ·) hmsg
    · obtain hin | hnew := List.mem_append.mp hin
      · exact h.queued other msg' hin
      · cases List.mem_singleton.mp hnew
        refine ⟨head.2, fun _ found (hfound : s.remoteDevSocketIds other = some found) => ?_⟩
        cases hslot.symm.trans hfound
        exact head.1
    · exact h.queued other msg' hin
  case pending =>
    intro other found msg' hsent hlive
    show msg' ∈ Function.update s.inbox _ _ (other, found) ∨
      (other, found, msg') ∈ s.handed ++ [(side, socketId, msg)]
    obtain hmsg | hhanded := h.pending other found msg' hsent hlive
    · by_cases heq : (other, found) = (side, socketId)
      · cases heq
        rw [hinbox] at hmsg
        obtain rfl | hmsg := List.mem_cons.mp hmsg
        · exact .inr (List.mem_append_right _ (List.mem_singleton.mpr rfl))
        · rw [Function.update_self]
          exact .inl hmsg
      · rw [Function.update_of_ne heq]
        exact .inl hmsg
    · exact .inr (List.mem_append_left _ hhanded)

theorem SessionsApart.handed (h : SessionsApart s) (side : Side) (socketId : Nat) (msg : CommMsg)
    (hsent : (side, socketId, msg) ∈ s.sent) (hopen : (side, socketId) ∈ s.openAt) :
    msg ∈ s.inbox (side, socketId) ∨ (side, socketId, msg) ∈ s.handed :=
  h.pending side socketId msg hsent (.inr hopen)

theorem saved_congr {t : CapsSyncState} (h : s.Saved side) (hhanded : t.handed = s.handed)
    (hevents : t.events = s.events) (hmap : t.globalCapInfoMap = s.globalCapInfoMap) :
    t.Saved side := by
  unfold CapsSyncState.Saved CapsSyncState.handedTo at h ⊢
  rw [hhanded, hevents, hmap]
  exact h

theorem saved_handed (h : ∀ side, s.Saved side) (msg : CommMsg) (other : Side) :
    (s.handleReceiveMessage side socketId msg).Saved other := by
  obtain ⟨processed, hsplit, hmap⟩ := h other
  refine ⟨processed, ?_, hmap⟩
  show List.filterMap _ (s.handed ++ [(side, socketId, msg)]) =
    processed ++ Function.update s.events side (s.events side ++ [msg]) other
  rw [List.filterMap_append]
  by_cases heq : side = other
  · subst heq
    rw [Function.update_self, ← List.append_assoc, ← hsplit]
    simp only [List.filterMap_cons, if_true, List.filterMap_nil]
    rfl
  · rw [Function.update_of_ne (Ne.symm heq), ← hsplit]
    simp only [List.filterMap_cons, heq, if_false, List.filterMap_nil, List.append_nil]
    rfl

theorem saved_processed {t : CapsSyncState} {msg : CommMsg} {rest : List CommMsg}
    (h : ∀ side, s.Saved side) (hhead : s.events side = msg :: rest)
    (hhanded : t.handed = s.handed) (hevents : t.events = Function.update s.events side rest)
    (hmap : t.globalCapInfoMap = Function.update s.globalCapInfoMap side
      (saveRecords CapabilityInfo.getKey (s.globalCapInfoMap side) msg.caps)) (other : Side) :
    t.Saved other := by
  obtain ⟨processed, hsplit, hsaved⟩ := h other
  unfold CapsSyncState.Saved CapsSyncState.handedTo at *
  rw [hhanded, hevents, hmap]
  by_cases heq : other = side
  · subst heq
    refine ⟨processed ++ [msg], ?_, ?_⟩
    · rw [hsplit, hhead, Function.update_self, List.append_assoc]
      rfl
    · rw [Function.update_self, hsaved, List.flatMap_append]
      simp only [List.flatMap_cons, List.flatMap_nil, List.append_nil, saveRecords,
        List.foldl_append]
  · refine ⟨processed, ?_, ?_⟩
    · rw [Function.update_of_ne heq]
      exact hsplit
    · rw [Function.update_of_ne heq]
      exact hsaved

/-- A step that hands nothing over, processes nothing and stops nothing. -/
theorem safe_congr {t : CapsSyncState} (safe : CrossingSafe s) (apart : SessionsApart t)
    (hhanded : t.handed = s.handed) (hevents : t.events = s.events)
    (hmap : t.globalCapInfoMap = s.globalCapInfoMap) (hstopped : t.stopped = s.stopped)
    (hopeners : ∃ added, t.openers = s.openers ++ added) : CrossingSafe t where
  handed := apart.handed
  saved := fun side => saved_congr (safe.saved side) hhanded hevents hmap
  own := by
    intro side socketId hmem
    obtain ⟨added, hopeners⟩ := hopeners
    rw [hstopped] at hmem
    rw [hopeners]
    exact opener_append (safe.own side socketId hmem)

theorem safe_startSocket (h : SessionsApart s) (safe : CrossingSafe s)
    (ok : keepsApart s (.startSocket side)) : CrossingSafe { s.startSocket side with
      starting := Function.update s.starting side (s.starting side + 1) } := by
  have apart := apart_startSocket h ok
  obtain ⟨_, _, heq⟩ | ⟨_, heq⟩ := s.startSocket_cases side
  · rw [heq] at apart ⊢
    exact safe_congr safe apart rfl rfl rfl rfl ⟨[], (List.append_nil _).symm⟩
  · rw [heq] at apart ⊢
    exact safe_congr safe apart rfl rfl rfl rfl ⟨[side], rfl⟩

theorem safe_onBytes (h : SessionsApart s) (safe : CrossingSafe s) {msg : CommMsg}
    {rest : List CommMsg} (hopen : (side, socketId) ∈ s.openAt)
    (hinbox : s.inbox (side, socketId) = msg :: rest) : CrossingSafe ({ s with
      inbox := Function.update s.inbox (side, socketId) rest }.handleReceiveMessage side socketId
        msg) where
  handed := (apart_onBytes h hopen hinbox).handed
  saved := by
    apply saved_handed
    intro other
    exact saved_congr (safe.saved other) rfl rfl rfl
  own := safe.own

/-- A request is answered on the session of the peer that it came on. -/
theorem safe_request (h : SessionsApart s) (safe : CrossingSafe s) {rest : List CommMsg}
    (hhead : s.events side = .reqFullCaps :: rest) {taken : Bool} {resInfos : List CapabilityInfo}
    (hsize : taken = true → resInfos.length ≤ maxDbRecordSize) {t : CapsSyncState}
    (ht : { s with events := Function.update s.events side rest }.processEvent side taken resInfos
      .reqFullCaps = t) : SessionsApart t ∧ CrossingSafe t := by
  have asked := h.queued side .reqFullCaps (by rw [hhead]; exact List.mem_cons_self)
  have apart : SessionsApart ({ s with
      events := Function.update s.events side rest }.send side taken (.rspFullCaps resInfos)) := by
    apply apart_send (apart_pop h hhead) hsize
    intro socketId hslot
    have unlike : CommMsg.reqFullCaps ≠ .rspFullCaps [] := by simp
    exact .inl (asked.2 unlike socketId hslot)
  rw [CapsSyncState.processEvent] at ht
  subst ht
  refine ⟨apart, ?_⟩
  constructor
  case handed => exact apart.handed
  case saved =>
    apply saved_processed safe.saved hhead
    · rw [CapsSyncState.send_handed]
    · rw [CapsSyncState.send_events]
    · rw [CapsSyncState.send_globalCapInfoMap]
      exact (Function.update_eq_self _ _).symm
  case own =>
    intro other found hstopped
    rw [CapsSyncState.send_stopped] at hstopped
    rw [CapsSyncState.send_openers]
    exact safe.own other found hstopped

/-- A side closes the recorded session, which it has opened. -/
theorem safe_stopSocket (h : SessionsApart s) (safe : CrossingSafe s)
    (own : ∀ socketId, s.remoteDevSocketIds side = some socketId →
      s.openers[socketId]? = some side) :
    SessionsApart (s.stopSocket side) ∧ CrossingSafe (s.stopSocket side) := by
  obtain ⟨_, heq⟩ | ⟨socketId, hslot, heq⟩ := s.stopSocket_cases side
  · rw [heq]
    exact ⟨h, safe⟩
  · rw [heq]
    have apart := apart_closed h (slot_forgotten hslot) (s.stopped ++ [(side, socketId)])
    refine ⟨apart, ?_⟩
    constructor
    case handed => exact apart.handed
    case saved => exact fun other => saved_congr (safe.saved other) rfl rfl rfl
    case own =>
      intro other found (hstopped : _ ∈ s.stopped ++ [(side, socketId)])
      obtain hstopped | hstopped := List.mem_append.mp hstopped
      · exact safe.own other found hstopped
      · cases List.mem_singleton.mp hstopped
        exact own socketId hslot

/-- A response is saved, and the session closed that the side has opened for it. -/
theorem safe_response (h : SessionsApart s) (safe : CrossingSafe s) {rest : List CommMsg}
    {caps : List CapabilityInfo} (hhead : s.events side = .rspFullCaps caps :: rest)
    {taken : Bool} {resInfos : List CapabilityInfo} {t : CapsSyncState}
    (ht : { s with events := Function.update s.events side rest }.processEvent side taken resInfos
      (.rspFullCaps caps) = t) : SessionsApart t ∧ CrossingSafe t := by
  obtain ⟨fits, opener⟩ := h.queued side (.rspFullCaps caps)
    (by rw [hhead]; exact List.mem_cons_self)
  have fits : caps.length ≤ maxDbRecordSize := fits
  rw [CapsSyncState.processEvent, CapsSyncState.parseAndSaveRemoteDHCaps_of_fits _ _ fits,
    CapsSyncState.processFullCapsRsp] at ht
  have apart : SessionsApart { s with
      events := Function.update s.events side rest
      globalCapInfoMap := Function.update s.globalCapInfoMap side
        (saveRecords CapabilityInfo.getKey (s.globalCapInfoMap side) caps) } :=
    { apart_pop h hhead with }
  have stored : CrossingSafe { s with
      events := Function.update s.events side rest
      globalCapInfoMap := Function.update s.globalCapInfoMap side
        (saveRecords CapabilityInfo.getKey (s.globalCapInfoMap side) caps) } :=
    { safe with saved := saved_processed safe.saved hhead rfl rfl rfl }
  subst ht
  split
  case isTrue => exact ⟨apart, stored⟩
  case isFalse nonempty =>
    apply safe_stopSocket apart stored
    apply opener
    intro heq
    cases heq
    exact nonempty rfl

theorem safe_step {t : CapsSyncState} {event : CapsSyncEvent}
    (inv : SessionsApart s ∧ CrossingSafe s) (ok : keepsApart s event)
    (hs : capsSyncStep s event = some t) : SessionsApart t ∧ CrossingSafe t := by
  obtain ⟨h, safe⟩ := inv
  have unopened : ∃ added, s.openers = s.openers ++ added := ⟨[], (List.append_nil _).symm⟩
  cases event with
  | startSocket side =>
      cases hs
      exact ⟨apart_startSocket h ok, safe_startSocket h safe ok⟩
  | sendRequest side taken =>
      simp only [capsSyncStep] at hs
      split at hs
      case isTrue => cases hs
      case isFalse hcalls =>
        cases hs
        have apart := apart_sendRequest h taken (Nat.pos_of_ne_zero hcalls)
        exact ⟨apart, safe_congr safe apart (by simp) (by simp) (by simp) (by simp) (by simp)⟩
  | onBind side socketId =>
      simp only [capsSyncStep] at hs
      split at hs
      case isFalse => cases hs
      case isTrue hbind =>
        cases hs
        have apart := apart_onBind h hbind.1 hbind.2 ok
        exact ⟨apart, safe_congr safe apart rfl rfl rfl rfl unopened⟩
  | onBytes side socketId =>
      simp only [capsSyncStep] at hs
      split at hs
      case isFalse => cases hs
      case isTrue hopen =>
        cases hinbox : s.inbox (side, socketId) with
        | nil =>
            rw [hinbox] at hs
            cases hs
        | cons msg rest =>
            rw [hinbox] at hs
            have received := recorded_of_inbox h hopen hinbox
            simp only [CapsSyncState.onBytesReceived, received, if_true] at hs
            cases hs
            exact ⟨apart_onBytes h hopen hinbox, safe_onBytes h safe hopen hinbox⟩
  | onShutdown side socketId =>
      simp only [capsSyncStep] at hs
      split at hs
      case isFalse => cases hs
      case isTrue hopen =>
        cases hs
        obtain ⟨hslot, heq⟩ | ⟨hslot, heq⟩ := s.onSocketClosed_cases side socketId
        · have apart := apart_closed h (slot_forgotten hslot) s.stopped
          rw [heq]
          exact ⟨apart, safe_congr safe apart rfl rfl rfl rfl unopened⟩
        · have apart := apart_closed h (slot_other hslot) s.stopped
          rw [heq]
          exact ⟨apart, safe_congr safe apart rfl rfl rfl rfl unopened⟩
  | processEvent side taken resInfos =>
      simp only [capsSyncStep] at hs
      cases hhead : s.events side with
      | nil =>
          rw [hhead] at hs
          cases hs
      | cons msg rest =>
          rw [hhead] at hs
          cases msg with
          | reqFullCaps =>
              have hsize := ok (by rw [hhead]; rfl)
              exact safe_request h safe hhead hsize (Option.some.inj hs)
          | rspFullCaps caps => exact safe_response h safe hhead (Option.some.inj hs)

end Steps

theorem sessionsApart_empty : SessionsApart {} where
  recorded := by intro _ _ hopen; cases hopen
  isOpen := by intro _ _ hslot; cases hslot
  openKnown := by intro _ _ hopen; cases hopen
  sentKnown := by intro _ _ _ hsent; cases hsent
  inboxSent := by intro _ _ _ hmsg; cases hmsg
  inFlight := by intro _ _ _ _ hmsg; cases hmsg
  queued := by intro _ _ hmsg; cases hmsg
  starting := by intro _ _ _ hslot; cases hslot
  pending := by intro _ _ _ hsent; cases hsent

theorem crossingSafe_empty : CrossingSafe {} where
  handed := sessionsApart_empty.handed
  saved := fun _ => ⟨[], rfl, rfl⟩
  own := by intro _ _ hstopped; cases hstopped

/-- As long as the sides keep their sessions apart, what is sent to an open end arrives and
is saved, and no side closes a session of the other. -/
theorem crossingSafe_of_keepsApart {events : List CapsSyncEvent} {s : CapsSyncState}
    (run : capsSyncSystem.Run keepsApart events s) : CrossingSafe s := by
  have inv : SessionsApart s ∧ CrossingSafe s := by
    apply run.invariant (I := fun _ s => SessionsApart s ∧ CrossingSafe s)
    · intro s hinit
      cases hinit
      exact ⟨sessionsApart_empty, crossingSafe_empty⟩
    · exact fun _ _ _ _ _ before ok hs => safe_step before ok hs
  exact inv.2

section Samples

private def sentCap : CapabilityInfo :=
  { dhId := "Camera_1", deviceId := "peer", dhType := DhType.camera }

/-- Each side gets the other's records, the second once its slot is free again. -/
private def inTurn : List CapsSyncEvent :=
  [.startSocket .a, .sendRequest .a true, .onBind .b 0, .onBytes .b 0,
    .processEvent .b true [sentCap], .onBytes .a 0, .processEvent .a true [],
    .onShutdown .b 0, .startSocket .b, .sendRequest .b true, .onBind .a 1, .onBytes .a 1,
    .processEvent .a true [sentCap], .onBytes .b 1, .processEvent .b true []]

theorem crossingSafe_of_keepsApart_inTurn : ∃ s,
    capsSyncSystem.Run keepsApart inTurn.reverse s ∧ CrossingSafe s ∧
      sentCap.getKey ∈ s.globalCapInfoMap .a ∧ sentCap.getKey ∈ s.globalCapInfoMap .b := by
  have replayed : ∃ s ∈ capsSyncSystem.replay keepsApart {} inTurn,
      sentCap.getKey ∈ s.globalCapInfoMap .a ∧ sentCap.getKey ∈ s.globalCapInfoMap .b := by
    decide +kernel
  obtain ⟨s, hs, saved⟩ := replayed
  have run : capsSyncSystem.Run keepsApart inTurn.reverse s :=
    TransitionSystem.run_of_replay rfl hs
  exact ⟨s, run, crossingSafe_of_keepsApart run, saved⟩

/-- Both sides start a session before they accept the other's: the answer to the first
request comes on a socket that is no longer recorded. -/
private def bothStart : List CapsSyncEvent :=
  [.startSocket .a, .startSocket .b, .sendRequest .a true, .sendRequest .b true, .onBind .b 0,
    .onBind .a 1, .onBytes .b 0, .processEvent .b true [sentCap], .onBytes .a 0]

/-- A side sends its request on the session that it has accepted, and closes it when the
answer is there. -/
private def bothOnOne : List CapsSyncEvent :=
  [.startSocket .a, .sendRequest .a true, .onBind .b 0, .startSocket .b, .sendRequest .b true,
    .onBytes .a 0, .processEvent .a true [sentCap], .onBytes .b 0, .onBytes .b 0,
    .processEvent .b true [sentCap], .processEvent .b true []]

theorem exists_crossing_lost_and_closed :
    (∃ s socketId caps, capsSyncSystem.Reachable s ∧ (.a, socketId, .rspFullCaps caps) ∈ s.sent ∧
      (.a, socketId) ∈ s.openAt ∧ s.inbox (.a, socketId) = [] ∧
      (.a, socketId, .rspFullCaps caps) ∉ s.handed) ∧
    ∃ s socketId, capsSyncSystem.Reachable s ∧ (.b, socketId) ∈ s.stopped ∧
      s.openers[socketId]? = some .a ∧ (.a, socketId) ∈ s.openAt := by
  have lost : ∃ s ∈ capsSyncSystem.replay (fun _ _ => True) {} bothStart,
      (.a, 0, .rspFullCaps [sentCap]) ∈ s.sent ∧ (.a, 0) ∈ s.openAt ∧ s.inbox (.a, 0) = [] ∧
      (.a, 0, .rspFullCaps [sentCap]) ∉ s.handed := by
    decide +kernel
  have closed : ∃ s ∈ capsSyncSystem.replay (fun _ _ => True) {} bothOnOne,
      (.b, 0) ∈ s.stopped ∧ s.openers[0]? = some .a ∧ (.a, 0) ∈ s.openAt := by
    decide +kernel
  obtain ⟨s, hs, lost⟩ := lost
  obtain ⟨t, ht, closed⟩ := closed
  exact ⟨⟨s, 0, [sentCap], (TransitionSystem.run_of_replay rfl hs).reachable, lost⟩,
    ⟨t, 0, (TransitionSystem.run_of_replay rfl ht).reachable, closed⟩⟩

end Samples
end DistributedHardware
