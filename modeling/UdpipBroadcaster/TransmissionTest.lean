import Mathlib.Data.List.Nodup
import UdpipBroadcaster.Library.Frames
import UdpipBroadcaster.Library.PrintedTexts
import UdpipBroadcaster.RelayRefinement

/-!
# The transmission test

A manager that `init_tx_udp_events` has set up for `cb_broadcast_sendto`
sends one numbered message for every event.
-/

namespace UdpipBroadcaster

open Frames PrintedTexts Programs

/-! ## Messages -/

/-- `__DATA_BUFFER_LEN` -/
def dataBufferLen : Nat := 100

/-- The message with this number. -/
def numberedMessage (number : Nat) : List UInt8 :=
  utf8 "BROADCAST-TEST#" ++ digits number

theorem testMessage_natCast (number : Nat) :
    testMessage (number : Int) = numberedMessage number := by
  rw [testMessage, toList_toUTF8, utf8_append, utf8_toString,
    signedText_natCast, numberedMessage]

theorem numberedMessage_injective : Function.Injective numberedMessage := by
  intro number other same
  exact digits_injective (List.append_cancel_left same)

/-- A number that is an `int` leaves room for the NUL in the buffer. -/
theorem length_numberedMessage_lt
    {number : Nat} (fits : number < 2 ^ 31) :
    (numberedMessage number).length < dataBufferLen := by
  have title : (utf8 "BROADCAST-TEST#").length = 15 := by decide
  have short : (digits number).length ≤ 10 :=
    (length_digits_le_iff (by decide)).mpr (by omega)
  rw [numberedMessage, List.length_append, title, dataBufferLen]
  omega

/-- The call of `sendto` for the message with this number. -/
def testCall
    (socketFd port : Int) (number : Nat) (answer : SendAnswer) : Sendto where
  socketFd := socketFd
  buffer := numberedMessage number
  len := (numberedMessage number).length
  destAddr :=
    some ⟨afInet, htons (toUInt16 port), htonl inaddrBroadcast⟩
  sentBytes :=
    match answer with
    | .error => none
    | .accepts limit => some (min limit (numberedMessage number).length)

/-- The calls for the messages from this number on. -/
def testCalls (socketFd port : Int) : Nat → List SendAnswer → List Sendto
  | _, [] => []
  | number, answer :: rest =>
      testCall socketFd port number answer ::
        testCalls socketFd port (number + 1) rest

theorem map_buffer_testCalls
    (socketFd port : Int) (number : Nat) (answers : List SendAnswer) :
    (testCalls socketFd port number answers).map Sendto.buffer =
      (List.range' number answers.length).map numberedMessage := by
  induction answers generalizing number with
  | nil => rfl
  | cons answer rest inductionHypothesis =>
      rw [testCalls, List.map_cons, inductionHypothesis, List.length_cons,
        List.range'_succ, List.map_cons]
      rfl

theorem mem_testCalls
    {socketFd port : Int} {number : Nat} {answers : List SendAnswer}
    {call : Sendto} (member : call ∈ testCalls socketFd port number answers) :
    ∃ index < number + answers.length, ∃ answer,
      call = testCall socketFd port index answer := by
  induction answers generalizing number with
  | nil => cases member
  | cons answer rest inductionHypothesis =>
      rw [List.length_cons]
      rcases List.mem_cons.mp member with here | later
      · exact ⟨number, by omega, answer, here⟩
      · rcases inductionHypothesis later with ⟨index, inside, sent⟩
        exact ⟨index, by omega, sent⟩

theorem length_testCalls
    (socketFd port : Int) (number : Nat) (answers : List SendAnswer) :
    (testCalls socketFd port number answers).length = answers.length := by
  induction answers generalizing number with
  | nil => rfl
  | cons answer rest inductionHypothesis =>
      rw [testCalls, List.length_cons, List.length_cons, inductionHypothesis]

/-! ## One event -/

/-- What `sendto` answers for the event, if a message is sent. -/
def Event.trigger (event : Event) : Option SendAnswer :=
  if evError &&& event.revents ≠ 0 then none else some event.answers.send

/-- The arguments of a transmission test that has sent `number` messages. -/
structure EvIoArg.Tests
    (arg : EvIoArg) (socketFd port : Int) (number : Nat) : Prop where
  callback : arg.cbSpecfic = some .cbBroadcastSendto
  watcherFd : arg.watcher.fd = socketFd
  socketFd : arg.publicArg.socketFd = socketFd
  port : arg.publicArg.port = port
  testNumber : arg.publicArg.testNumber = number

/-- The arguments after some more messages. -/
def EvIoArg.advance (count : Nat) (arg : EvIoArg) : EvIoArg :=
  { arg with
    publicArg :=
      { arg.publicArg with
        testNumber := arg.publicArg.testNumber + count } }

theorem EvIoArg.Tests.advance
    {arg : EvIoArg} {socketFd port : Int} {number : Nat}
    (tests : arg.Tests socketFd port number) (count : Nat) :
    (arg.advance count).Tests socketFd port (number + count) :=
  ⟨tests.callback, tests.watcherFd, tests.socketFd, tests.port, by
    rw [EvIoArg.advance, tests.testNumber, Int.natCast_add]⟩

variable {platform : Platform} {world : World} {socketFd port : Int}
  {number watcher : Nat} {arg : EvIoArg}

/-- The world in which one more call was made that can fail. -/
def World.called (world : World) : World :=
  { world with calls := world.calls + 1 }

def World.advance (world : World) (watcher count : Nat) : World :=
  { world with args := world.args.modify watcher (EvIoArg.advance count) }

private theorem mallocStructure_eq (platform : Platform) (world : World) :
    mallocStructure platform world =
      if platform.fails world.calls = true then
        .error .exitFailure world.called
      else .ok () world.called := by
  have called :
      callFails platform world =
        .ok (platform.fails world.calls) world.called :=
    rfl
  rw [mallocStructure, bind_ok _ called]
  cases platform.fails world.calls <;> rfl

private theorem initBroadcastSockaddrIn_eq
    (platform : Platform) (world : World) (port : Int) :
    initBroadcastSockaddrIn platform port world =
      if platform.fails world.calls = true then
        .error .exitFailure world.called
      else
        .ok ⟨afInet, htons (toUInt16 port), htonl inaddrBroadcast⟩
          world.called := by
  have allocated := mallocStructure_eq platform world
  cases fails : platform.fails world.calls with
  | false =>
      rw [fails] at allocated
      exact bind_ok _ (bind_ok _ allocated)
  | true =>
      rw [fails] at allocated
      exact bind_error _ (bind_error _ allocated)

private theorem frontCall_numberedMessage (answer : SendAnswer) :
    frontCall answer
        ⟨afInet, htons (toUInt16 port), htonl inaddrBroadcast⟩ socketFd
        (numberedMessage number) (numberedMessage number).length =
      testCall socketFd port number answer := by
  cases answer <;> simp only [frontCall, testCall, List.take_length]

/-- The counter as long as it does not overflow. -/
private theorem bmod_succ (short : number + 1 < 2 ^ 31) :
    ((number : Int) + 1).bmod (2 ^ 32) = number + 1 := by
  apply Int.bmod_eq_of_le <;> omega

private theorem cbBroadcastSendto_eq
    (platform : Platform) (world : World) {publicArg : PublicEvArg}
    (numbered : publicArg.testNumber = number)
    (short : number + 1 < 2 ^ 31) (answers : Answers) :
    cbBroadcastSendto platform answers publicArg world =
      if platform.fails world.calls = true then
        .error .exitFailure world.called
      else
        match world.called.transmit
            (testCall publicArg.socketFd publicArg.port number
              answers.send) with
        | .ok _ next =>
            .ok { publicArg with testNumber := number + 1 } next
        | .error reason next => .error reason next := by
  have address := initBroadcastSockaddrIn_eq platform world publicArg.port
  simp only [cbBroadcastSendto, numbered, testMessage_natCast,
    bmod_succ short]
  cases fails : platform.fails world.calls with
  | false =>
      rw [fails] at address
      rw [bind_ok _ address, sendMessage_bind _ _ _ _ le_rfl,
        frontCall_numberedMessage]
      rfl
  | true =>
      rw [fails] at address
      exact bind_error _ address

private theorem args_of_transmit
    {call : Sendto} {next : World}
    (returned : world.transmit call = .ok () next) :
    next.args = world.args := by
  simp only [World.transmit] at returned
  split at returned
  · cases returned
    rfl
  · cases returned
  · cases returned
    rfl

/-- An event of a transmission test: nothing happens in case of an error;
otherwise an address is allocated and the next message is sent. -/
theorem dispatch_test
    (found : world.args[watcher]? = some arg)
    (tests : arg.Tests socketFd port number)
    (short : number + 1 < 2 ^ 31) {event : Event}
    (watched : event.watcher = watcher) :
    dispatch platform event world =
      match event.trigger with
      | none => .ok () world
      | some answer =>
          if platform.fails world.calls = true then
            .error .exitFailure world.called
          else
            match world.called.transmit
                (testCall socketFd port number answer) with
            | .ok _ next => .ok () (next.advance watcher 1)
            | .error reason next => .error reason next := by
  rw [dispatch, cbCommon, Event.trigger, watched]
  by_cases error : evError &&& event.revents ≠ 0
  · rw [if_pos error, if_pos error]
    rfl
  · have read :
        (deref world.args[watcher]? : Program EvIoArg) world =
          .ok arg world := by
      rw [found]
      rfl
    have unchanged :
        { arg.publicArg with socketFd := socketFd } = arg.publicArg := by
      rw [← tests.socketFd]
    have sameCall :
        testCall arg.publicArg.socketFd arg.publicArg.port number
            event.answers.send =
          testCall socketFd port number event.answers.send := by
      rw [tests.socketFd, tests.port]
    have sending :=
      cbBroadcastSendto_eq platform world tests.testNumber short
        event.answers
    rw [sameCall] at sending
    rw [if_neg error, if_neg error, get_bind, bind_ok _ read]
    simp only [tests.callback, tests.watcherFd, unchanged, EvCb.call]
    by_cases fails : platform.fails world.calls = true
    · rw [if_pos fails] at sending
      rw [bind_error _ sending]
      exact (if_pos fails).symm
    · rw [if_neg fails] at sending
      simp only [if_neg fails]
      cases sent : world.called.transmit
          (testCall socketFd port number event.answers.send) with
      | error reason next =>
          rw [sent] at sending
          exact bind_error _ sending
      | ok value next =>
          rw [sent] at sending
          rw [bind_ok _ sending]
          have there : next.args[watcher]? = some arg := by
            rw [args_of_transmit sent]
            exact found
          have counted :
              { arg with
                publicArg :=
                  { arg.publicArg with testNumber := number + 1 } } =
                arg.advance 1 := by
            rw [EvIoArg.advance, tests.testNumber]
            rfl
          have advanced :
              next.args.modify watcher (fun other =>
                  { other with
                    publicArg :=
                      { arg.publicArg with testNumber := number + 1 } }) =
                next.args.modify watcher (EvIoArg.advance 1) :=
            modify_eq_modify there counted
          exact congrArg (fun args => EStateM.Result.ok () { next with args })
            advanced

/-! ## Runs -/

/-- The process after the messages from this number on. -/
def World.afterTest
    (world : World) (watcher : Nat) (socketFd port : Int) (number : Nat)
    (answers : List SendAnswer) : World :=
  { world with
    calls := world.calls + answers.length
    args := world.args.modify watcher (EvIoArg.advance answers.length)
    stdin := world.stdin.drop (answers.count .error)
    sent := world.sent ++ testCalls socketFd port number answers }

/-- The allocations for some messages succeed, and the standard input has a
character for each of them that is not sent, or ends. -/
structure World.Affords
    (world : World) (platform : Platform) (answers : List SendAnswer) :
    Prop where
  allocated : ∀ index < answers.length,
    platform.fails (world.calls + index) = false
  enough : world.stdin.Serves (answers.count .error)

theorem EvIoArg.advance_zero : EvIoArg.advance 0 = id := by
  funext arg
  simp [EvIoArg.advance]

theorem EvIoArg.advance_advance (count more : Nat) :
    EvIoArg.advance more ∘ EvIoArg.advance count =
      EvIoArg.advance (count + more) := by
  funext arg
  simp [EvIoArg.advance, Int.add_assoc]

theorem World.afterTest_nil :
    world.afterTest watcher socketFd port number [] = world := by
  simp [World.afterTest, EvIoArg.advance_zero, testCalls]

private theorem count_error_cons
    (answer : SendAnswer) (rest : List SendAnswer) :
    (answer :: rest).count .error =
      [answer].count .error + rest.count .error := by
  rw [← List.singleton_append, List.count_append]

theorem World.afterTest_cons (answer : SendAnswer) (rest : List SendAnswer) :
    (world.afterTest watcher socketFd port number [answer]).afterTest
        watcher socketFd port (number + 1) rest =
      world.afterTest watcher socketFd port number (answer :: rest) := by
  simp [World.afterTest, testCalls, List.modify_modify_eq,
    EvIoArg.advance_advance, count_error_cons answer rest,
    Stdin.drop_drop, Nat.add_comm, Nat.add_left_comm]

theorem World.affords_cons_iff
    (watcher : Nat) (socketFd port : Int) (number : Nat)
    {answer : SendAnswer} {rest : List SendAnswer} :
    world.Affords platform (answer :: rest) ↔
      platform.fails world.calls = false ∧
        world.stdin.Serves ([answer].count .error) ∧
        (world.afterTest watcher socketFd port number
          [answer]).Affords platform rest := by
  constructor
  · rintro ⟨allocated, enough⟩
    rw [count_error_cons answer rest, Stdin.serves_add_iff] at enough
    refine ⟨allocated 0 (by simp), enough.1, ?_, enough.2⟩
    intro index inside
    have later := allocated (index + 1) (by simpa using inside)
    rwa [Nat.add_comm index, ← Nat.add_assoc] at later
  · rintro ⟨first, served, allocated, enough⟩
    refine ⟨?_, ?_⟩
    · intro index inside
      cases index with
      | zero => exact first
      | succ index =>
          have later := allocated index (by simpa using inside)
          rwa [Nat.add_comm index, ← Nat.add_assoc]
    · rw [count_error_cons answer rest]
      exact Stdin.serves_add_iff.mpr ⟨served, enough⟩

/-- One step of a transmission test. -/
theorem dispatch_afterTest
    (platform : Platform) (found : world.args[watcher]? = some arg)
    (tests : arg.Tests socketFd port number)
    (short : number + 1 < 2 ^ 31) {event : Event}
    (watched : event.watcher = watcher) {answer : SendAnswer}
    (triggered : event.trigger = some answer) :
    dispatch platform event world =
      if platform.fails world.calls = true then
        .error .exitFailure world.called
      else if world.stdin.Serves ([answer].count .error) then
        .ok () (world.afterTest watcher socketFd port number [answer])
      else
        .error .waitsForStdin
          { world.called with
            sent := world.sent ++
              [testCall socketFd port number answer] } := by
  rw [dispatch_test found tests short watched, triggered]
  dsimp only
  congr 1
  cases answer with
  | accepts limit =>
      simp [World.transmit, World.called, World.afterTest, World.advance,
        testCalls, testCall]
  | error =>
      cases input : world.stdin.next with
      | none =>
          have waits := Stdin.next_eq_none_iff.mp input
          simp [World.transmit, World.called, testCall, input, waits]
      | some rest =>
          obtain ⟨serves, rfl⟩ := Stdin.of_next input
          simp [World.transmit, World.called, World.afterTest,
            World.advance, testCalls, testCall, input, serves]

theorem EvIoArg.Tests.afterTest
    (found : world.args[watcher]? = some arg)
    (tests : arg.Tests socketFd port number) (answer : SendAnswer) :
    (world.afterTest watcher socketFd port number [answer]).args[watcher]? =
        some (arg.advance 1) ∧
      (arg.advance 1).Tests socketFd port (number + 1) := by
  refine ⟨?_, tests.advance 1⟩
  simp [World.afterTest, found]

private theorem evLoop_test_iff
    (found : world.args[watcher]? = some arg)
    (tests : arg.Tests socketFd port number) {events : List Event}
    (watched : ∀ event ∈ events, event.watcher = watcher)
    (bounded : number + events.length < 2 ^ 31) {last : World} :
    evLoop platform events world = .ok () last ↔
      world.Affords platform (events.filterMap Event.trigger) ∧
        last = world.afterTest watcher socketFd port number
          (events.filterMap Event.trigger) := by
  induction events generalizing world number arg with
  | nil =>
      have affords : world.Affords platform [] :=
        ⟨fun index inside => absurd inside (Nat.not_lt_zero index),
          Stdin.serves_zero _⟩
      simp [evLoop, affords, World.afterTest_nil, eq_comm]
  | cons event rest inductionHypothesis =>
      have here := watched event (by simp)
      have later : ∀ event ∈ rest, event.watcher = watcher :=
        fun event member => watched event (by simp [member])
      rw [List.length_cons] at bounded
      cases triggered : event.trigger with
      | none =>
          have idle : dispatch platform event world = .ok () world := by
            rw [dispatch_test found tests (by omega) here, triggered]
          rw [evLoop, runAll_cons_ok idle,
            List.filterMap_cons_none triggered]
          exact inductionHypothesis found tests later (by omega)
      | some answer =>
          have step :=
            dispatch_afterTest platform found tests (by omega) here triggered
          rw [List.filterMap_cons_some triggered, evLoop,
            World.affords_cons_iff watcher socketFd port number,
            ← World.afterTest_cons answer (rest.filterMap Event.trigger)]
          by_cases fails : platform.fails world.calls = true
          · rw [if_pos fails] at step
            simp [runAll_cons_error step, fails]
          · rw [if_neg fails] at step
            by_cases serves : world.stdin.Serves ([answer].count .error)
            · rw [if_pos serves] at step
              rcases tests.afterTest found answer with ⟨foundNext, testsNext⟩
              have succeeded : platform.fails world.calls = false := by
                simpa using fails
              rw [runAll_cons_ok step]
              refine (inductionHypothesis foundNext testsNext later
                (by omega)).trans ?_
              simp only [succeeded, serves, true_and]
            · rw [if_neg serves] at step
              simp [runAll_cons_error step, serves]

/-- Whether a test returns or stops, it has sent the first of its
messages. -/
private theorem sent_evLoop_test
    (platform : Platform) (found : world.args[watcher]? = some arg)
    (tests : arg.Tests socketFd port number) {events : List Event}
    (watched : ∀ event ∈ events, event.watcher = watcher)
    (bounded : number + events.length < 2 ^ 31) :
    ∃ answers : List SendAnswer, answers.length ≤ events.length ∧
      (finalState (evLoop platform events world)).sent =
        world.sent ++ testCalls socketFd port number answers ∧
      (finalState (evLoop platform events world)).sockets =
        world.sockets := by
  induction events generalizing world number arg with
  | nil => exact ⟨[], le_rfl, (List.append_nil _).symm, rfl⟩
  | cons event rest inductionHypothesis =>
      have here := watched event (by simp)
      have later : ∀ event ∈ rest, event.watcher = watcher :=
        fun event member => watched event (by simp [member])
      rw [List.length_cons] at bounded
      cases triggered : event.trigger with
      | none =>
          have idle : dispatch platform event world = .ok () world := by
            rw [dispatch_test found tests (by omega) here, triggered]
          rcases inductionHypothesis found tests later (by omega) with
            ⟨answers, short, sent⟩
          rw [evLoop, runAll_cons_ok idle]
          exact ⟨answers, Nat.le_succ_of_le short, sent⟩
      | some answer =>
          have step :=
            dispatch_afterTest platform found tests (by omega) here triggered
          by_cases fails : platform.fails world.calls = true
          · rw [if_pos fails] at step
            rw [evLoop, runAll_cons_error step]
            exact ⟨[], Nat.zero_le _, (List.append_nil _).symm, rfl⟩
          · rw [if_neg fails] at step
            by_cases serves : world.stdin.Serves ([answer].count .error)
            · rw [if_pos serves] at step
              rcases tests.afterTest found answer with ⟨foundNext, testsNext⟩
              rcases inductionHypothesis foundNext testsNext later
                  (by omega) with
                ⟨answers, short, sent, sockets⟩
              rw [evLoop, runAll_cons_ok step]
              refine ⟨answer :: answers, Nat.succ_le_succ short, ?_, sockets⟩
              refine sent.trans ?_
              rw [World.afterTest, List.append_assoc]
              rfl
            · rw [if_neg serves] at step
              rw [evLoop, runAll_cons_error step]
              exact ⟨[answer], by simp, rfl, rfl⟩

/-! ## The test from its start -/

section Started

variable {ifName : CString} {before : World} {manager : UdpEvents}
  {events : List Event}

/-- What a manager for a transmission test is given. -/
private structure TestStarted
    (before : World) (ifName : CString) (port : Int) (manager : UdpEvents)
    (world : World) : Prop where
  tests : ∃ arg, world.args[before.args.length]? = some arg ∧
    arg.Tests manager.socketFd port 0
  watcher : manager.watcher = some before.args.length
  sent : world.sent = before.sent
  stdin : world.stdin = before.stdin
  socket : world.sockets[manager.socketFd.toNat]? =
    some ⟨none, true, some (deviceName ifName), false⟩

private theorem wp_startTest (before : World) (port : Int) :
    wp (fun _ => StartFault platform ifName)
      (initTxUdpEvents platform ifName port (some .cbBroadcastSendto) true)
      (TestStarted before ifName port) before := by
  apply wp_initTxUdpEvents
  intro calls
  refine ⟨⟨_, List.getElem?_concat_length, rfl, rfl, rfl, rfl, rfl⟩, rfl,
    rfl, rfl, ?_⟩
  simp only [World.toNat_handle]
  exact List.getElem?_concat_length

variable
  (started :
    initTxUdpEvents platform ifName port (some .cbBroadcastSendto) true
      before = .ok manager world)
  (watched : ∀ event ∈ events, manager.watcher = some event.watcher)
  (bounded : events.length < 2 ^ 31)
include started watched bounded

/-- A run of a transmission test returns exactly if it can afford its
messages; it has then sent one numbered message for every event without an
error, and none of them overflows the buffer. -/
theorem evLoop_transmits_iff {last : World} :
    (evLoop platform events world = .ok () last ↔
        world.Affords platform (events.filterMap Event.trigger) ∧
          last = world.afterTest before.args.length manager.socketFd port 0
            (events.filterMap Event.trigger)) ∧
      ∀ call ∈ testCalls manager.socketFd port 0
          (events.filterMap Event.trigger),
        call.buffer.length < dataBufferLen := by
  have start := post_of_returned (wp_startTest before port) started
  rcases start.tests with ⟨arg, found, tests⟩
  have onWatcher := watched_of_manager start.watcher watched
  refine ⟨evLoop_test_iff found tests onWatcher (by omega), ?_⟩
  intro call member
  rcases mem_testCalls member with ⟨index, inside, answer, rfl⟩
  have short := List.length_filterMap_le Event.trigger events
  exact length_numberedMessage_lt (by omega)

/-- Every run of a transmission test, whether it returns or stops, sends the
messages with the numbers from zero on in their order, all different and all
from a broadcast socket of the interface to the broadcast address. -/
theorem evLoop_numbers_messages :
    ∃ calls,
      (finalState (evLoop platform events world)).sent =
          before.sent ++ calls ∧
        calls.map Sendto.buffer =
          (List.range calls.length).map numberedMessage ∧
        (calls.map Sendto.buffer).Nodup ∧
        ∀ call ∈ calls,
          call.buffer.length < dataBufferLen ∧
            call.len = call.buffer.length ∧
            call.destAddr =
              some ⟨afInet, htons (toUInt16 port), htonl inaddrBroadcast⟩ ∧
            (finalState (evLoop platform events world)).sockets[
                call.socketFd.toNat]? =
              some ⟨none, true, some (deviceName ifName), false⟩ := by
  have start := post_of_returned (wp_startTest before port) started
  rcases start.tests with ⟨arg, found, tests⟩
  have onWatcher := watched_of_manager start.watcher watched
  rcases sent_evLoop_test platform found tests onWatcher (by omega) with
    ⟨answers, short, sent, sockets⟩
  have buffers :
      (testCalls manager.socketFd port 0 answers).map Sendto.buffer =
        (List.range answers.length).map numberedMessage := by
    rw [map_buffer_testCalls, List.range_eq_range']
  refine ⟨testCalls manager.socketFd port 0 answers, ?_, ?_, ?_, ?_⟩
  · rw [sent, start.sent]
  · rw [buffers, length_testCalls]
  · rw [buffers]
    exact List.Nodup.map numberedMessage_injective List.nodup_range
  · intro call member
    rcases mem_testCalls member with ⟨index, inside, answer, rfl⟩
    refine ⟨length_numberedMessage_lt (by omega), rfl, rfl, ?_⟩
    rw [sockets]
    exact start.socket

end Started

/-- Two messages, of which the second is not sent, with an invalid event in
between. -/
def testEvents : List Event :=
  [⟨0, evRead, ⟨none, .accepts 100⟩⟩, ⟨0, evError, ⟨none, .error⟩⟩,
    ⟨0, evRead, ⟨none, .error⟩⟩]

/-- A transmission test on a working host. -/
private theorem exists_transmissionTest :
    ∃ manager world,
      initTxUdpEvents workingHost relaySettings.cfg.ifName.text 5000
          (some .cbBroadcastSendto) true (World.initial ⟨[10], false⟩) =
        .ok manager world ∧
      world.stdin = ⟨[10], false⟩ ∧
      ∀ event ∈ testEvents, manager.watcher = some event.watcher := by
  have noFault :
      ¬ StartFault workingHost relaySettings.cfg.ifName.text :=
    not_startFault createConfiguration_relayOptions hasInetEntry_workingHost
      succeeds_workingHost
  obtain ⟨manager, world, started, start⟩ :=
    returns_of_wp (wp_startTest (World.initial ⟨[10], false⟩) 5000)
      fun _ => noFault
  refine ⟨manager, world, started, start.stdin, ?_⟩
  rw [start.watcher]
  decide

theorem evLoop_transmits_iff_testEvents :
    ∃ manager world last,
      initTxUdpEvents workingHost relaySettings.cfg.ifName.text 5000
          (some .cbBroadcastSendto) true (World.initial ⟨[10], false⟩) =
        .ok manager world ∧
      evLoop workingHost testEvents world = .ok () last ∧
      last.stdin = .silent := by
  obtain ⟨manager, world, started, stdin, watched⟩ :=
    exists_transmissionTest
  have affords :
      world.Affords workingHost (testEvents.filterMap Event.trigger) := by
    refine ⟨fun _ _ => rfl, ?_⟩
    rw [stdin]
    decide
  refine ⟨manager, world, _, started,
    (evLoop_transmits_iff started watched (by decide)).1.mpr
      ⟨affords, rfl⟩, ?_⟩
  rw [World.afterTest, stdin]
  rfl

theorem evLoop_numbers_messages_testEvents :
    ∃ manager world calls,
      initTxUdpEvents workingHost relaySettings.cfg.ifName.text 5000
          (some .cbBroadcastSendto) true (World.initial ⟨[10], false⟩) =
        .ok manager world ∧
      (finalState (evLoop workingHost testEvents world)).sent = calls ∧
      calls.map Sendto.buffer =
        (List.range calls.length).map numberedMessage := by
  obtain ⟨manager, world, started, -, watched⟩ := exists_transmissionTest
  obtain ⟨calls, sent, numbered, -⟩ :=
    evLoop_numbers_messages started watched (by decide)
  exact ⟨manager, world, calls, started, sent, numbered⟩

end UdpipBroadcaster
