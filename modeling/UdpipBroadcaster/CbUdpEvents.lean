import UdpipBroadcaster.UdpSocket

/-!
# `cb_udp_events.c` and event dispatch

The callbacks for one event, `cb_common`, and the loop that libev runs.
What is printed is left out, and so is the pause of a transmission test:
neither has an effect on the messages.
-/

namespace UdpipBroadcaster

open Programs

/-- The answers of the kernel to the calls made for one event: what
`recvmsg` returns (`none` is an error) and what `sendto` returns. -/
structure Answers where
  received : Option Datagram
  send : SendAnswer

/-- The block behind a pointer; nothing behind `NULL`. -/
def readBlock (pointer : Option Nat) : Program (List UInt8) := do
  let world ← get
  pure ((pointer.bind (world.heap[·]?)).getD [])

def cbPrintRecvfrom (answers : Answers) (arg : PublicEvArg) :
    Program PublicEvArg := do
  let blocked := false
  let localAddr ← deref arg.localAddr
  let result ←
    recvMsg answers.received arg.msgHeader localAddr.sAddr blocked
  pure { arg with len := result.rxBytes, msgHeader := result.msg }

/-- What `sprintf` writes for a transmission test. -/
def testMessage (testNumber : Int) : List UInt8 :=
  ("BROADCAST-TEST#" ++ toString testNumber).toUTF8.toList

/-- `cb_broadcast_sendto`.  Its counter is an `int`, which wraps. -/
def cbBroadcastSendto
    (platform : Platform) (answers : Answers) (arg : PublicEvArg) :
    Program PublicEvArg := do
  let data := testMessage arg.testNumber
  let arg := { arg with testNumber := (arg.testNumber + 1).bmod (2 ^ 32) }
  let len := data.length
  let destAddr ← initBroadcastSockaddrIn platform arg.port
  let _ ← sendMessage answers.send (some destAddr) arg.socketFd data len
  pure arg

def cbForwardRecvfrom (answers : Answers) (arg : PublicEvArg) :
    Program PublicEvArg := do
  let blocked := false
  let localAddr ← deref arg.localAddr
  let result ←
    recvMsg answers.received arg.msgHeader localAddr.sAddr blocked
  let arg := { arg with len := result.rxBytes, msgHeader := result.msg }
  if result.rxBytes < 0 then
    pure arg
  else if result.blocked = true then
    pure arg
  else
    let data ← readBlock arg.data
    let _fwdBytes ←
      sendMessage answers.send arg.forwardingAddr arg.forwardingSocketFd
        data arg.len
    pure arg

/-- `cb_broadcast_recvfrom`, which does not consult `blocked` -/
def cbBroadcastRecvfrom (answers : Answers) (arg : PublicEvArg) :
    Program PublicEvArg := do
  let blocked := false
  let localAddr ← deref arg.localAddr
  let result ←
    recvMsg answers.received arg.msgHeader localAddr.sAddr blocked
  let arg := { arg with len := result.rxBytes, msgHeader := result.msg }
  if result.rxBytes < 0 then
    pure arg
  else
    let data ← readBlock arg.data
    let _fwdBytes ←
      sendMessage answers.send arg.forwardingAddr arg.forwardingSocketFd
        data arg.len
    pure arg

namespace EvCb

/-- The function behind the pointer. -/
def call
    (platform : Platform) (answers : Answers) :
    EvCb → PublicEvArg → Program PublicEvArg
  | .cbPrintRecvfrom => UdpipBroadcaster.cbPrintRecvfrom answers
  | .cbBroadcastSendto =>
      UdpipBroadcaster.cbBroadcastSendto platform answers
  | .cbForwardRecvfrom => UdpipBroadcaster.cbForwardRecvfrom answers
  | .cbBroadcastRecvfrom => UdpipBroadcaster.cbBroadcastRecvfrom answers

end EvCb

def cbCommon
    (platform : Platform) (answers : Answers) (watcher : Nat)
    (revents : UInt32) : Program Unit := do
  if evError &&& revents ≠ 0 then
    pure ()
  else
    let world ← get
    let arg ← deref world.args[watcher]?
    let publicArg := { arg.publicArg with socketFd := arg.watcher.fd }
    match arg.cbSpecfic with
    | none => updateArg (some watcher) fun arg => { arg with publicArg }
    | some callback => do
        let publicArg ← callback.call platform answers publicArg
        updateArg (some watcher) fun arg => { arg with publicArg }

/-- One event that libev reports on a started watcher. -/
structure Event where
  watcher : Nat
  revents : UInt32
  answers : Answers

def dispatch (platform : Platform) (event : Event) : Program Unit :=
  cbCommon platform event.answers event.watcher event.revents

/-- `ev_loop` on a finite sequence of events -/
def evLoop (platform : Platform) : List Event → Program Unit :=
  runAll (dispatch platform)

end UdpipBroadcaster
