import UdpipBroadcaster.CbUdpEvents
import UdpipBroadcaster.HexDump
import UdpipBroadcaster.Library.Outputs
import UdpipBroadcaster.Library.PrintedTexts
import UdpipBroadcaster.SourceClassification

/-!
# The console

What the callbacks and `cb_common` write to the standard output, and rules
for what they write: writing changes nothing else.
-/

namespace UdpipBroadcaster

open ByteStrings HexTexts Outputs PrintedTexts Programs

/-- Code that also writes to the standard output. -/
abbrev Session := EStateM Stop (World × List UInt8)

/-! ## The callbacks -/

/-- The head of a line for a payload that was passed on. -/
def forwardingHead
    (title : String) (port : Int) (toward : String) (forwardingPort : Int)
    (fwdBytes : Int) : List UInt8 :=
  utf8 title ++ signedText 1 port ++ utf8 toward ++
    signedText 1 forwardingPort ++ utf8 "), msg[" ++
    signedText 2 fwdBytes ++ utf8 "] = \x7b"

namespace Session

def sendMessage
    (answer : SendAnswer) (destAddr : Option SockaddrIn) (socketFd : Int)
    (buffer : List UInt8) (len : Int) : Session Int := do
  let sentBytes ← silently (sendto answer socketFd buffer len destAddr)
  if sentBytes < 0 then
    silently getchar
    pure exErr
  else if sentBytes < len then
    write (utf8 "send_message: sent " ++ signedText 1 sentBytes ++
      utf8 " bytes, requested " ++ signedText 1 len ++ utf8 ".\n")
    pure exErr
  else
    pure sentBytes

def cbPrintRecvfrom (signed : Bool) (answers : Answers) (arg : PublicEvArg) :
    Session PublicEvArg := do
  write (utf8 ">>> RECEIVED UDP MESSAGE >>>\n")
  let blocked := false
  let localAddr ← silently (deref arg.localAddr)
  let result ← silently
    (recvMsg answers.received arg.msgHeader localAddr.sAddr blocked)
  let arg := { arg with len := result.rxBytes, msgHeader := result.msg }
  if result.rxBytes < 0 then
    write (utf8
      "cb_print_recvfrom: <recv_msg> Could not receive message.\n")
    pure arg
  else
    write (utf8 ">>> RECEIVED UDP MESSAGE >>>\n")
    let data ← silently (readBlock arg.data)
    let _ ← onOutput (printHexData signed data arg.len)
    write (utf8 "\n")
    pure arg

def cbBroadcastSendto
    (platform : Platform) (answers : Answers) (arg : PublicEvArg) :
    Session PublicEvArg := do
  write (utf8 "escribo\n")
  let data := testMessage arg.testNumber
  let arg := { arg with testNumber := (arg.testNumber + 1).bmod (2 ^ 32) }
  let len := data.length
  let destAddr ← silently (initBroadcastSockaddrIn platform arg.port)
  write (utf8 ">>> BROADCAST TEST (fd = " ++
    signedText 1 (platform.descriptor arg.socketFd) ++
    utf8 "): sending test[" ++ signedText 1 len ++ utf8 "] = " ++ data ++
    utf8 "\n")
  let _ ←
    sendMessage answers.send (some destAddr) arg.socketFd data len
  pure arg

def cbForwardRecvfrom
    (signed : Bool) (answers : Answers) (arg : PublicEvArg) :
    Session PublicEvArg := do
  write (utf8 ">>> RECEIVED11111 forward UDP MESSAGE >>>\n")
  let blocked := false
  let localAddr ← silently (deref arg.localAddr)
  let result ← silently
    (recvMsg answers.received arg.msgHeader localAddr.sAddr blocked)
  let arg := { arg with len := result.rxBytes, msgHeader := result.msg }
  if result.rxBytes < 0 then
    write (utf8
      "cb_forward_recvfrom: <recv_msg> Could not receive message.\n")
    pure arg
  else
    write (utf8 ">>> esto ben >>>\n")
    if result.blocked = true then
      write (utf8 ">>>@cb_forward_recvfrom: Message blocked!\n")
      pure arg
    else
      let data ← silently (readBlock arg.data)
      let fwdBytes ←
        sendMessage answers.send arg.forwardingAddr arg.forwardingSocketFd
          data arg.len
      if arg.printForwardingMessage = true then
        write (forwardingHead ">>> fwd(net:" arg.port ">app:"
          arg.forwardingPort fwdBytes)
        let _ ← onOutput (printHexData signed data arg.len)
        write (utf8 "\x7d\n")
      write (utf8 ">>> todo ben >>>\n")
      pure arg

def cbBroadcastRecvfrom
    (signed : Bool) (answers : Answers) (arg : PublicEvArg) :
    Session PublicEvArg := do
  write (utf8 ">>> RECEIVED222222 broadcast UDP MESSAGE >>>\n")
  let blocked := false
  let localAddr ← silently (deref arg.localAddr)
  let result ← silently
    (recvMsg answers.received arg.msgHeader localAddr.sAddr blocked)
  let arg := { arg with len := result.rxBytes, msgHeader := result.msg }
  if result.rxBytes < 0 then
    write (utf8
      "cb_broadcast_recvfrom: <recv_msg> Could not receive message.\n")
    pure arg
  else
    write (utf8 ">>> esto ben >>>\n")
    let data ← silently (readBlock arg.data)
    let fwdBytes ←
      sendMessage answers.send arg.forwardingAddr arg.forwardingSocketFd
        data arg.len
    write (utf8 "aqui tamén fago un envío")
    if arg.printForwardingMessage = true then
      write (forwardingHead ">>> BROADCAST(app:" arg.port ">net:"
        arg.forwardingPort fwdBytes)
      let _ ← onOutput (printHexData signed data arg.len)
      write (utf8 "\x7d\n")
    write (utf8 ">>> todo ben >>>\n")
    pure arg

/-! ## Events -/

/-- The function behind the pointer. -/
def call
    (signed : Bool) (platform : Platform) (answers : Answers) :
    EvCb → PublicEvArg → Session PublicEvArg
  | .cbPrintRecvfrom => cbPrintRecvfrom signed answers
  | .cbBroadcastSendto => cbBroadcastSendto platform answers
  | .cbForwardRecvfrom => cbForwardRecvfrom signed answers
  | .cbBroadcastRecvfrom => cbBroadcastRecvfrom signed answers

def cbCommon
    (signed : Bool) (platform : Platform) (answers : Answers)
    (watcher : Nat) (revents : UInt32) : Session Unit := do
  write (utf8 "cb_common en udp_events\n")
  if evError &&& revents ≠ 0 then
    pure ()
  else
    let (world, _) ← get
    let arg ← silently (deref world.args[watcher]?)
    let publicArg := { arg.publicArg with socketFd := arg.watcher.fd }
    match arg.cbSpecfic with
    | none => do
        write (utf8 "cb_common (ev=" ++
          signedText 1 ((revents.toNat : Int).bmod (2 ^ 32)) ++
          utf8 ",fd=" ++ signedText 1 arg.watcher.fd ++
          utf8 "): <cb_function> NULL!\n")
        silently
          (updateArg (some watcher) fun arg => { arg with publicArg })
    | some callback => do
        let publicArg ← call signed platform answers callback publicArg
        silently
          (updateArg (some watcher) fun arg => { arg with publicArg })

def dispatch (signed : Bool) (platform : Platform) (event : Event) :
    Session Unit :=
  cbCommon signed platform event.answers event.watcher event.revents

def evLoop (signed : Bool) (platform : Platform) :
    List Event → Session Unit :=
  runAll (dispatch signed platform)

end Session

/-! ## Lines -/

/-- The text of some lines. -/
def linesText (lines : List (List UInt8)) : List UInt8 :=
  lines.flatMap (· ++ [10])

variable {platform : Platform} {world : World}

theorem linesText_cons
    (line : List UInt8) (rest : List (List UInt8)) :
    linesText (line :: rest) = line ++ [10] ++ linesText rest :=
  rfl

theorem linesText_append (lines more : List (List UInt8)) :
    linesText (lines ++ more) = linesText lines ++ linesText more :=
  List.flatMap_append

theorem linesText_flatMap
    {α : Type} (items : List α) (lines : α → List (List UInt8)) :
    linesText (items.flatMap lines) =
      items.flatMap fun item => linesText (lines item) :=
  List.flatMap_assoc

/-- A dump of at most one line holds digits and colons. -/
theorem not_mem_dumpText
    {char : UInt8} {bytes : List UInt8} (noColon : char ≠ 58)
    (noDigit : hexValue char = none) (short : bytes.length ≤ bytesPerLine) :
    char ∉ dumpText bytes := by
  intro member
  rcases mem_of_mem_intercalate member with colon | ⟨token, listed, inToken⟩
  · exact noColon colon
  · rcases List.mem_map.mp listed with ⟨i, inside, rfl⟩
    have noBreak : lineBreak i = [] := by
      rw [lineBreak, if_neg]
      rintro ⟨positive, divides⟩
      have far := Nat.le_of_dvd positive divides
      have near := List.mem_range.mp inside
      omega
    rw [dumpToken, noBreak, List.nil_append] at inToken
    rcases hexValue_of_mem_hexPair inToken with ⟨value, isDigit⟩
    rw [noDigit] at isDigit
    cases isDigit

/-! ## Sending -/

/-- What `send_message` returns for a payload of `len` bytes. -/
def SendAnswer.fwdBytes (len : Nat) : SendAnswer → Int
  | .error => exErr
  | .accepts limit => if limit < len then exErr else len

/-- The line of `send_message` for a payload of `len` bytes that was not
sent whole. -/
def SendAnswer.shortLines (len : Nat) : SendAnswer → List (List UInt8)
  | .error => []
  | .accepts limit =>
      if limit < len then
        [utf8 "send_message: sent " ++ (signedText 1 limit ++
          (utf8 " bytes, requested " ++ (signedText 1 len ++ utf8 ".")))]
      else []

/-- What `send_message` writes for the front of a buffer. -/
theorem writes_sendMessage
    {answer : SendAnswer} {dest : SockaddrIn} {socketFd : Int}
    {buffer : List UInt8} {count : Nat} (inside : count ≤ buffer.length) :
    Writes (Session.sendMessage answer (some dest) socketFd buffer count)
      (sendMessage answer (some dest) socketFd buffer count) world
      (linesText (answer.shortLines count)) := by
  apply Writes.silently
  intro sentBytes next sent
  cases answer with
  | error =>
      cases sent
      have failed : (-1 : Int) < 0 := by decide
      simp only [failed, if_true]
      exact Writes.silently fun _ _ _ => writes_pure _ _
  | accepts limit =>
      have bounds :
          (0 : Int) ≤ count ∧ (count : Int) ≤ buffer.length := by
        omega
      simp only [sendto, bounds, and_self, if_true, Int.toNat_natCast]
        at sent
      cases sent
      have counted : ¬ ((min limit count : Nat) : Int) < 0 := by omega
      simp only [counted, if_false, SendAnswer.shortLines]
      by_cases short : limit < count
      · have cut : ((min limit count : Nat) : Int) < count := by omega
        have least : min limit count = limit := by omega
        have newline : utf8 ".\n" = utf8 "." ++ [10] := by decide
        have line :
            linesText
                [utf8 "send_message: sent " ++ (signedText 1 limit ++
                  (utf8 " bytes, requested " ++
                    (signedText 1 count ++ utf8 ".")))] =
              utf8 "send_message: sent " ++ signedText 1 limit ++
                utf8 " bytes, requested " ++ signedText 1 count ++
                utf8 ".\n" := by
          simp [linesText, newline]
        rw [if_pos cut, if_pos cut, if_pos short, least, line]
        exact writes_write_pure _ _ _
      · have whole : ¬ ((min limit count : Nat) : Int) < count := by omega
        rw [if_neg whole, if_neg whole, if_neg short]
        exact writes_pure _ _

/-- What `send_message` returns for the front of a buffer. -/
theorem sendMessage_returned
    {answer : SendAnswer} {dest : SockaddrIn} {socketFd value : Int}
    {buffer : List UInt8} {count : Nat} {next : World}
    (inside : count ≤ buffer.length)
    (returned : sendMessage answer (some dest) socketFd buffer count world =
      .ok value next) :
    value = answer.fwdBytes count := by
  have run :
      wp (fun _ => True)
        (sendMessage answer (some dest) socketFd buffer count)
        (fun value _ => value = answer.fwdBytes count) world := by
    cases answer with
    | error =>
        simp only [sendMessage, sendto, wp_bind, wp_modify, wp_pure,
          wp_ite, getchar, wp_get]
        refine ⟨fun _ => ?_, fun positive => absurd positive (by decide)⟩
        cases world.stdin.next with
        | none => trivial
        | some rest => rfl
    | accepts limit =>
        have bounds :
            (0 : Int) ≤ count ∧ (count : Int) ≤ buffer.length := by
          omega
        simp only [sendMessage, sendto, wp_bind, wp_modify, wp_pure,
          wp_ite, bounds, and_self, if_true, Int.toNat_natCast,
          SendAnswer.fwdBytes]
        refine ⟨fun negative => by omega, fun _ => ⟨?_, ?_⟩⟩
        · intro short
          rw [if_pos (by omega)]
        · intro whole
          rw [if_neg (by omega)]
          omega
  have result := post_of_returned run returned
  exact result

/-! ## Receiving -/

/-- The arguments once a datagram was received. -/
def PublicEvArg.holding
    (arg : PublicEvArg) (datagram : Datagram) (msg : Msghdr) :
    PublicEvArg :=
  { arg with
    len := (datagram.payload.take udpBufferLen).length
    msgHeader := some (receivedHeader datagram udpBufferLen msg) }

/-- The front part that the callbacks share, up to the received datagram. -/
theorem writes_receive
    {arg : PublicEvArg} {addr : SockaddrIn} {msg : Msghdr} {pointer : Nat}
    (localAddr : arg.localAddr = some addr)
    (header : arg.msgHeader = some msg)
    (described : msg.Describes pointer udpBufferLen) {answers : Answers}
    {title more : List UInt8} {rest : RecvMsg → Session PublicEvArg}
    {plainRest : RecvMsg → Program PublicEvArg}
    (idle : answers.received = none →
      Writes (rest ⟨exErr, arg.msgHeader, false⟩)
        (plainRest ⟨exErr, arg.msgHeader, false⟩) world more)
    (known : ∀ datagram, answers.received = some datagram →
      let result : RecvMsg :=
        ⟨(datagram.payload.take udpBufferLen).length,
          some (receivedHeader datagram udpBufferLen msg),
          decide (addr.sAddr = datagram.source.sAddr)⟩
      Writes (rest result) (plainRest result)
        (world.fill pointer (datagram.payload.take udpBufferLen)) more) :
    Writes
      (do
        write title
        let localAddr ← silently (deref arg.localAddr)
        let result ← silently
          (recvMsg answers.received arg.msgHeader localAddr.sAddr false)
        rest result)
      (do
        let localAddr ← deref arg.localAddr
        let result ←
          recvMsg answers.received arg.msgHeader localAddr.sAddr false
        plainRest result)
      world (title ++ more) := by
  apply Writes.write
  apply Writes.silently
  intro localAddr_ next read
  rw [localAddr] at read
  cases read
  apply Writes.silently
  intro result next received
  cases answer : answers.received with
  | none =>
      rw [answer, recvMsg_none] at received
      cases received
      exact idle answer
  | some datagram =>
      have run := recvMsg_eq described datagram addr.sAddr false world
      rw [answer, header, run] at received
      by_cases classified :
          HasPktinfo (datagram.storedControl msg.msgControllen)
      · rw [if_pos classified] at received
        cases received
        exact known datagram answer
      · rw [if_neg classified] at received
        cases received

/-! ## Events -/

/-- An event on a watcher with a callback writes a line of `cb_common` and
what the callback writes. -/
theorem writes_dispatch_callback
    {signed : Bool} {event : Event} {arg : EvIoArg} {callback : EvCb}
    {lines : List (List UInt8)}
    (found : world.args[event.watcher]? = some arg)
    (specific : arg.cbSpecfic = some callback)
    (writes : ¬ (evError &&& event.revents ≠ 0) →
      Writes
        (Session.call signed platform event.answers callback
          { arg.publicArg with socketFd := arg.watcher.fd })
        (callback.call platform event.answers
          { arg.publicArg with socketFd := arg.watcher.fd })
        world (linesText lines)) :
    Writes (Session.dispatch signed platform event)
      (dispatch platform event) world
      (linesText (utf8 "cb_common en udp_events" ::
        if evError &&& event.revents ≠ 0 then [] else lines)) := by
  rw [Session.dispatch, Session.cbCommon, dispatch, cbCommon,
    linesText_cons]
  apply Writes.write
  by_cases error : evError &&& event.revents ≠ 0
  · simp only [if_pos error]
    exact writes_pure () world
  · simp only [if_neg error]
    apply writes_get
    intro out
    rw [found]
    apply Writes.silently
    intro found_ next read
    cases read
    simp only [specific]
    rw [← List.append_nil (linesText _)]
    apply (writes error).bind
    intro later last returned
    exact writes_silently _ _

end UdpipBroadcaster
