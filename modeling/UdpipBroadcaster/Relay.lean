import Mathlib.Logic.Function.Basic
import UdpipBroadcaster.Startup

/-!
# The relay as a machine

What the relay is for: it receives datagrams on two sides and passes their
payloads on, each side to one destination.  The state of this machine is the
room each side offers for control records, the calls of `sendto` so far and
the standard input.  The process in relay mode takes the same steps.
-/

namespace UdpipBroadcaster

open ByteStrings Programs

/-! ## The machine -/

/-- The side a datagram is received on. -/
inductive Side where
  | net
  | app
  deriving DecidableEq

namespace Side

/-- The watcher of the side, which is also the number of its buffer. -/
def watcher : Side → Nat
  | net => 0
  | app => 1

def callback : Side → EvCb
  | net => .cbForwardRecvfrom
  | app => .cbBroadcastRecvfrom

def forwardingFd : Side → Int
  | net => 1
  | app => 3

end Side

/-- Where the payloads received on a side go. -/
def Settings.destination (settings : Settings) : Side → SockaddrIn
  | .net => lookedUp settings.cfg.appTxPort
  | .app =>
      ⟨afInet, htons (toUInt16 settings.cfg.txPort), htonl inaddrBroadcast⟩

/-- The side of an event on one of the two watchers. -/
def Event.side (event : Event) : Side :=
  if event.watcher = 0 then .net else .app

/-- The state of the machine. -/
structure Relay where
  room : Side → Nat
  sent : List Sendto
  stdin : Stdin

/-- What becomes of an event: nothing was received; the source of a received
datagram is not known; it is discarded as one of the relay's own; or its
payload is passed on.  The number is the room left for control records. -/
inductive Fate where
  | idle
  | fault
  | discard (room : Nat)
  | pass (room : Nat) (payload : List UInt8)

/-- The address the relay takes for its own is `0.0.0.0`, and only the
network side compares it. -/
def Answers.fate (answers : Answers) (side : Side) (room : Nat) : Fate :=
  match answers.received with
  | none => .idle
  | some datagram =>
      let left := (datagram.storedControl room).length
      if ¬ HasPktinfo (datagram.storedControl room) then .fault
      else if side = .net ∧ datagram.source.sAddr = inaddrAny then
        .discard left
      else .pass left (datagram.payload.take udpBufferLen)

def Event.fate (event : Event) (room : Nat) : Fate :=
  if evError &&& event.revents ≠ 0 then .idle
  else event.answers.fate event.side room

/-- The call that passes a payload on. -/
def Settings.call
    (settings : Settings) (side : Side) (payload : List UInt8)
    (answer : SendAnswer) : Sendto where
  socketFd := side.forwardingFd
  buffer := payload
  len := payload.length
  destAddr := some (settings.destination side)
  sentBytes :=
    match answer with
    | .error => none
    | .accepts limit => some (min limit payload.length)

/-- The room an event leaves on its side. -/
def Event.left (event : Event) (room : Nat) : Nat :=
  match event.fate room with
  | .idle => room
  | .fault => room
  | .discard left => left
  | .pass left _ => left

/-- The calls an event makes. -/
def Event.calls
    (settings : Settings) (event : Event) (room : Nat) : List Sendto :=
  match event.fate room with
  | .pass _ payload =>
      [settings.call event.side payload event.answers.send]
  | _ => []

/-- A received datagram is passed on: libev reports no error, packet
information is stored, and the source is not taken for the relay's own. -/
structure Event.Passes
    (event : Event) (room : Nat) (datagram : Datagram) : Prop where
  noError : evError &&& event.revents = 0
  pktinfo : HasPktinfo (datagram.storedControl room)
  foreign : ¬ (event.side = .net ∧ datagram.source.sAddr = inaddrAny)

/-- An event with a datagram makes one call if it passes the datagram on,
and none otherwise. -/
theorem Event.calls_received
    (settings : Settings) {event : Event} {datagram : Datagram}
    (received : event.answers.received = some datagram) (room : Nat) :
    (event.Passes room datagram ∧
        event.calls settings room =
          [settings.call event.side (datagram.payload.take udpBufferLen)
            event.answers.send]) ∨
      (¬ event.Passes room datagram ∧ event.calls settings room = []) := by
  by_cases noError : evError &&& event.revents = 0
  · by_cases pktinfo : HasPktinfo (datagram.storedControl room)
    · by_cases own :
          event.side = .net ∧ datagram.source.sAddr = inaddrAny
      · refine .inr ⟨fun passes => passes.foreign own, ?_⟩
        simp [Event.calls, Event.fate, Answers.fate, noError, received,
          pktinfo, own]
      · refine .inl ⟨⟨noError, pktinfo, own⟩, ?_⟩
        simp [Event.calls, Event.fate, Answers.fate, noError, received,
          pktinfo, own]
    · refine .inr ⟨fun passes => pktinfo passes.pktinfo, ?_⟩
      simp [Event.calls, Event.fate, Answers.fate, noError, received,
        pktinfo]
  · refine .inr ⟨fun passes => noError passes.noError, ?_⟩
    simp [Event.calls, Event.fate, noError]

namespace Relay

def withRoom (relay : Relay) (side : Side) (room : Nat) : Relay :=
  { relay with room := Function.update relay.room side room }

/-- The effect of a call: one that fails takes a character of the standard
input, and waits for it unless the input has ended. -/
def transmit (relay : Relay) (call : Sendto) :
    EStateM.Result Stop Relay Unit :=
  let relay := { relay with sent := relay.sent ++ [call] }
  match call.sentBytes, relay.stdin.next with
  | some _, _ => .ok () relay
  | none, none => .error .waitsForStdin relay
  | none, some rest => .ok () { relay with stdin := rest }

/-- One event. -/
def step (settings : Settings) (event : Event) :
    EStateM Stop Relay Unit := fun relay =>
  match event.fate (relay.room event.side) with
  | .idle => .ok () relay
  | .fault => .error .segmentationFault relay
  | .discard room => .ok () (relay.withRoom event.side room)
  | .pass room payload =>
      (relay.withRoom event.side room).transmit
        (settings.call event.side payload event.answers.send)

/-- The machine before the first event. -/
def initial (stdin : Stdin) : Relay :=
  ⟨fun _ => controlBufferLen, [], stdin⟩

/-! ## What one event does -/

/-- The state after an event that returns without reading the standard
input. -/
def advance (settings : Settings) (event : Event) (relay : Relay) : Relay :=
  let room := relay.room event.side
  { room := Function.update relay.room event.side (event.left room)
    sent := relay.sent ++ event.calls settings room
    stdin := relay.stdin }

variable {settings : Settings} {event : Event} {relay next : Relay}

/-- An event whose source is known and whose call, if it makes one, is
accepted. -/
theorem step_eq_advance
    (known : event.fate (relay.room event.side) ≠ .fault)
    (accepted : ∀ call ∈ event.calls settings (relay.room event.side),
      call.sentBytes ≠ none) :
    step settings event relay = .ok () (relay.advance settings event) := by
  simp only [step, advance]
  cases fate : event.fate (relay.room event.side) with
  | idle =>
      simp only [Event.left, Event.calls, fate, Function.update_eq_self,
        List.append_nil]
  | fault => exact (known fate).elim
  | discard left =>
      simp only [Event.left, Event.calls, fate, List.append_nil, withRoom]
  | pass left payload =>
      simp only [Event.left, Event.calls, fate, withRoom, transmit]
      have sent :=
        accepted (settings.call event.side payload event.answers.send)
          (by simp [Event.calls, fate])
      rcases Option.ne_none_iff_exists'.mp sent with ⟨count, counted⟩
      rw [counted]

/-- Every event, even one that stops the machine, makes its calls and no
others. -/
theorem sent_finalState_step (event : Event) (relay : Relay) :
    (finalState (step settings event relay)).sent =
      relay.sent ++ event.calls settings (relay.room event.side) := by
  simp only [step, Event.calls]
  cases event.fate (relay.room event.side) with
  | idle => simp
  | fault => simp
  | discard left => simp [withRoom]
  | pass left payload =>
      simp only [transmit, withRoom]
      cases (settings.call event.side payload
        event.answers.send).sentBytes with
      | some count => rfl
      | none => cases relay.stdin.next <;> rfl

end Relay

/-! ## Datagrams as Linux supplies them -/

/-- The length of the `IP_PKTINFO` record without padding. -/
def lenPktinfo : Nat := 28

/-- The datagram comes with a single `IP_PKTINFO` record. -/
def Datagram.IsPlain (datagram : Datagram) : Prop :=
  ∃ info, datagram.control =
    fun space => storeRecords space [pktinfoRecord info]

variable {datagram : Datagram} {room : Nat}

private theorem cmsgLen_pktinfoRecord (info : CharArray 12) :
    (pktinfoRecord info).header.cmsgLen = lenPktinfo := by
  simp [pktinfoRecord, ControlRecord.header, info.length_bytes,
    sizeofCmsghdr, lenPktinfo]

theorem storedControl_plain
    (info : CharArray 12)
    (plain : datagram.control =
      fun space => storeRecords space [pktinfoRecord info])
    (room : Nat) :
    datagram.storedControl room =
      storeRecords room [pktinfoRecord info] := by
  rw [Datagram.storedControl, plain]
  exact List.take_of_length_le (length_storeRecords_le _ _)

/-- The record is stored as long as it fits without padding. -/
theorem hasPktinfo_of_plain
    (plain : datagram.IsPlain) (enough : lenPktinfo ≤ room) :
    HasPktinfo (datagram.storedControl room) := by
  rcases plain with ⟨info, control⟩
  rw [storedControl_plain info control, HasPktinfo, cmsgs_storeRecords]
  have fits : (pktinfoRecord info).header.cmsgLen ≤ room := by
    rw [cmsgLen_pktinfoRecord]
    exact enough
  simp only [fittingRecords, if_pos fits]
  exact ⟨(pktinfoRecord info).header, by simp, rfl⟩

/-- What it leaves is enough for the next one. -/
theorem lenPktinfo_le_storedControl
    (plain : datagram.IsPlain) (enough : lenPktinfo ≤ room) :
    lenPktinfo ≤ (datagram.storedControl room).length := by
  rcases plain with ⟨info, control⟩
  rw [storedControl_plain info control]
  have fits : (pktinfoRecord info).header.cmsgLen ≤ room := by
    rw [cmsgLen_pktinfoRecord]
    exact enough
  rw [storeRecords, if_pos fits]
  simp only [List.length_append, ControlRecord.length_bytes,
    cmsgLen_pktinfoRecord]
  omega

/-- With enough room, such datagrams are always known, and leave enough. -/
theorem fate_of_plain
    {event : Event}
    (plain : ∀ datagram ∈ event.answers.received, datagram.IsPlain)
    (enough : lenPktinfo ≤ room) :
    event.fate room ≠ .fault ∧ lenPktinfo ≤ event.left room := by
  simp only [Event.left, Event.fate]
  by_cases error : evError &&& event.revents ≠ 0
  · simp [error, enough]
  · rw [if_neg error]
    simp only [Answers.fate]
    cases received : event.answers.received with
    | none => simp [enough]
    | some datagram =>
        have known := hasPktinfo_of_plain (plain datagram received) enough
        have left :=
          lenPktinfo_le_storedControl (plain datagram received) enough
        by_cases own :
            event.side = .net ∧ datagram.source.sAddr = inaddrAny
        · simp [known, own, left]
        · simp [known, own, left]

theorem lenPktinfo_le_initial (stdin : Stdin) (side : Side) :
    lenPktinfo ≤ (Relay.initial stdin).room side :=
  show 28 ≤ 256 by decide

end UdpipBroadcaster
