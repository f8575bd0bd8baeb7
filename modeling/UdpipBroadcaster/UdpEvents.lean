import UdpipBroadcaster.UdpSocket

/-!
# `udp_events.c`: initialisation

The managers for transmission, for reception from the network and for
reception from the application.
-/

namespace UdpipBroadcaster

def newUdpEvents (platform : Platform) : Program UdpEvents := do
  mallocStructure platform
  pure ⟨0, none, none⟩

/-- `new_ev_io_arg`; the result is the pointer to the new structure. -/
def newEvIoArg (platform : Platform) : Program Nat := do
  mallocStructure platform
  let world ← get
  set { world with args := world.args ++ [EvIoArg.zero] }
  pure world.args.length

def initEvIoArg
    (platform : Platform) (m : UdpEvents) (callback : Option EvCb)
    (port : Int) (ifName : CString) : Program Nat := do
  let s ← newEvIoArg platform
  updateArg s fun arg => { arg with cbSpecfic := callback }
  let data ← mallocBuffer platform udpBufferLen
  updateArg s fun arg =>
    { arg with publicArg := { arg.publicArg with data := data } }
  let localAddr ← initIfSockaddrIn platform ifName port
  updateArg s fun arg =>
    { arg with
      publicArg :=
        { arg.publicArg with
          localAddr := localAddr
          len := 0
          socketFd := m.socketFd
          port := port } }
  let msgHeader ← initMsgHeader platform data udpBufferLen
  updateArg s fun arg =>
    { arg with publicArg := { arg.publicArg with msgHeader := msgHeader } }
  pure s

/-- `init_watcher`, with `m` as it is left behind the pointer -/
def initWatcher
    (platform : Platform) (m : UdpEvents) (callback : Option EvCb)
    (events : UInt32) (port : Int) (ifName : CString) :
    Program (Int × UdpEvents) := do
  let m := { m with loop := platform.evDefault }
  let arg ← initEvIoArg platform m callback port ifName
  let m := { m with watcher := some arg }
  -- `ev_io_init`
  updateArg m.watcher fun arg =>
    { arg with watcher := ⟨m.socketFd, events⟩ }
  -- `ev_io_start`, which reads the loop
  let _loop ← deref m.loop
  modify fun world => { world with started := world.started ++ [arg] }
  pure (exOk, m)

def initTxUdpEvents
    (platform : Platform) (ifName : CString) (port : Int)
    (callback : Option EvCb) (broadcast : Bool) : Program UdpEvents := do
  let s ← newUdpEvents platform
  let socketFd ←
    if broadcast = true then
      openBroadcastUdpSocket platform ifName port
    else
      openTransmitterUdpSocket platform port
  let s := { s with socketFd := socketFd }
  let (result, s) ← initWatcher platform s callback evRead port ifName
  if result < 0 then
    handleAppError
  updateArg s.watcher fun arg =>
    { arg with publicArg := { arg.publicArg with testNumber := 0 } }
  pure s

def initRxUdpEvents
    (platform : Platform) (port : Int) (ifName : CString)
    (callback : Option EvCb) : Program UdpEvents := do
  let s ← newUdpEvents platform
  let socketFd ← openReceiverUdpSocket platform port
  let s := { s with socketFd := socketFd }
  let (result, s) ← initWatcher platform s callback evRead port ifName
  if result < 0 then
    handleAppError
  pure s

def initNetUdpEvents
    (platform : Platform) (netRxPort : Int) (netIfName : CString)
    (appFwdAddr : Option CString) (appFwdPort : Int) (necMode : Bool)
    (callback : Option EvCb) : Program UdpEvents := do
  let s ← initRxUdpEvents platform netRxPort netIfName callback
  let localAddr ← initIfSockaddrIn platform netIfName netRxPort
  let forwardingSocketFd ← openTransmitterUdpSocket platform appFwdPort
  let forwardingAddr ← initSockaddrIn platform appFwdAddr appFwdPort
  let world ← get
  updateArg s.watcher fun arg =>
    { arg with
      publicArg :=
        { arg.publicArg with
          localAddr := localAddr
          forwardingSocketFd := forwardingSocketFd
          forwardingPort := appFwdPort
          forwardingAddr := some forwardingAddr
          printForwardingMessage := world.verbose
          necMode := necMode
          testNumber := 0 } }
  pure s

def initAppUdpEvents
    (platform : Platform) (appRxPort : Int) (ifName : CString)
    (netFwdPort : Int) (callback : Option EvCb) : Program UdpEvents := do
  let s ← initRxUdpEvents platform appRxPort ifName callback
  let localAddr ← initIfSockaddrIn platform ifName netFwdPort
  let forwardingSocketFd ←
    openBroadcastUdpSocket platform ifName netFwdPort
  let forwardingAddr ← initBroadcastSockaddrIn platform netFwdPort
  let world ← get
  updateArg s.watcher fun arg =>
    { arg with
      publicArg :=
        { arg.publicArg with
          localAddr := localAddr
          forwardingSocketFd := forwardingSocketFd
          forwardingAddr := some forwardingAddr
          forwardingPort := netFwdPort
          printForwardingMessage := world.verbose } }
  pure s

end UdpipBroadcaster
