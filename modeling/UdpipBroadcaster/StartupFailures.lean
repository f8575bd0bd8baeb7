import UdpipBroadcaster.Library.Faults
import UdpipBroadcaster.Startup

/-!
# Failing calls during start-up

Every call of start-up that can fail is checked.  The module counts the
calls of each function, so that it is known for each of them what a failure
does, and in which state the process is when none fails.
-/

namespace UdpipBroadcaster

open Faults Programs

/-! ## Calls -/

/-- What start-up must not touch: the datagrams sent and the input. -/
def World.streams (world : World) : List Sendto × Stdin :=
  (world.sent, world.stdin)

/-- The calls of a function that starts in `world`. -/
abbrev StartMakes
    (platform : Platform) {α : Type} (program : Program α) (world : World)
    (value : α) (next : World) : Prop :=
  Makes platform.fails World.calls World.streams Stop.exitFailure program
    world value next

/-- A system call, whose negative result means that it failed. -/
abbrev StartTries
    (platform : Platform) (call : Program Int) (world : World) (value : Int)
    (next : World) : Prop :=
  Tries platform.fails World.calls World.streams (· < 0) call world value
    next

section Specifications

variable {platform : Platform} {ifName : CString} {world : World}

private theorem callFails_eq :
    callFails platform world =
      .ok (platform.fails world.calls)
        { world with calls := world.calls + 1 } :=
  rfl

private theorem tries_callFails :
    Tries platform.fails World.calls World.streams (· = true)
      (callFails platform) world false
      { world with calls := world.calls + 1 } where
  counts := rfl
  keeps := rfl
  good := by simp
  succeeds := by
    intro succeeded
    rw [callFails_eq, succeeded]
  fails := by
    intro failed
    refine ⟨true, { world with calls := world.calls + 1 }, ?_, rfl, rfl,
      rfl⟩
    rw [callFails_eq, failed]

private theorem makes_mallocStructure :
    StartMakes platform (mallocStructure platform) world ()
      { world with calls := world.calls + 1 } :=
  tries_callFails.guarded (makes_pure () _)

private theorem makes_mallocBuffer (size : Nat) :
    StartMakes platform (mallocBuffer platform size) world
      world.heap.length
      { world with
        calls := world.calls + 1
        heap := world.heap ++
          [freshBlock platform world.heap.length size] } := by
  simp only [mallocBuffer, handleSysError, throw_bind]
  apply tries_callFails.guarded
  exact makes_of_returned rfl rfl rfl

/-- An update of the arguments allocated last. -/
private theorem makes_updateArg
    {args : List EvIoArg} {arg : EvIoArg} (update : EvIoArg → EvIoArg)
    (shape : world.args = args ++ [arg]) :
    StartMakes platform (updateArg (some args.length) update) world ()
      { world with args := args ++ [update arg] } := by
  apply makes_of_returned
  · simp only [updateArg, deref, pure_bind]
    rw [← modify_length_append, ← shape]
    rfl
  · rfl
  · rfl

/-! ## Addresses -/

private theorem makes_newSockaddrIn :
    StartMakes platform (newSockaddrIn platform) world SockaddrIn.zero
      { world with calls := world.calls + 1 } :=
  makes_mallocStructure.bind (makes_pure _ _)

private theorem makes_initSockaddrIn (address : Option CString) (port : Int) :
    StartMakes platform (initSockaddrIn platform address port) world
      (lookedUp port) { world with calls := world.calls + 1 } :=
  makes_newSockaddrIn.bind (makes_pure _ _)

private theorem makes_initBroadcastSockaddrIn (port : Int) :
    StartMakes platform (initBroadcastSockaddrIn platform port) world
      ⟨afInet, htons (toUInt16 port), htonl inaddrBroadcast⟩
      { world with calls := world.calls + 1 } :=
  makes_newSockaddrIn.bind (makes_pure _ _)

private theorem makes_initAnySockaddrIn (port : Int) :
    StartMakes platform (initAnySockaddrIn platform port) world
      ⟨afInet, htons (toUInt16 port), htonl inaddrAny⟩
      { world with calls := world.calls + 1 } :=
  makes_newSockaddrIn.bind (makes_pure _ _)

/-- The entry makes the lookup allocate an address. -/
def Ifaddrs.serves (ifa : Ifaddrs) (ifName : CString) : Bool :=
  ifa.ifaAddr.any fun addr => ifa.ifaName = ifName ∧ addr.sinFamily = afInet

theorem Ifaddrs.serves_iff {ifa : Ifaddrs} :
    ifa.serves ifName = true ↔ ∃ addr, ifa.IsInet ifName addr := by
  cases shape : ifa.ifaAddr with
  | none => simp [serves, IsInet, shape]
  | some addr => simp [serves, IsInet, shape]

/-- The number of IPv4 entries of the interface. -/
def Platform.inetEntries (platform : Platform) (ifName : CString) : Nat :=
  platform.ifaddrs.countP (·.serves ifName)

/-- What the loop over the interfaces ends with. -/
private def loopResult
    (port : Int) (found : Nat) (s : Option SockaddrIn) (ifFound : Bool) :
    Option SockaddrIn × Bool :=
  if found = 0 then (s, ifFound) else (some (lookedUp port), true)

private theorem loopResult_succ
    (port : Int) (found : Nat) (s : Option SockaddrIn) (ifFound : Bool) :
    loopResult port (found + 1) s ifFound = (some (lookedUp port), true) :=
  rfl

private theorem loopResult_found (port : Int) (found : Nat) :
    loopResult port found (some (lookedUp port)) true =
      (some (lookedUp port), true) := by
  rw [loopResult, ite_self]

/-- The loop makes one call for each entry of the interface. -/
private theorem makes_initIfSockaddrInLoop
    (port : Int) (entries : List Ifaddrs)
    (named : ∀ ifa ∈ entries, ∀ addr, ifa.IsInet ifName addr →
      platform.getnameinfo addr ≠ none)
    (s : Option SockaddrIn) (ifFound : Bool) :
    StartMakes platform
      (initIfSockaddrInLoop platform ifName port entries s ifFound) world
      (loopResult port (entries.countP (·.serves ifName)) s ifFound)
      { world with
        calls := world.calls + entries.countP (·.serves ifName) } := by
  induction entries generalizing s ifFound world with
  | nil => exact makes_pure _ _
  | cons ifa rest inductionHypothesis =>
      have namedRest := fun later member =>
        named later (List.mem_cons_of_mem ifa member)
      have skip (passed : ifa.serves ifName = false) :
          StartMakes platform
            (initIfSockaddrInLoop platform ifName port rest s ifFound) world
            (loopResult port ((ifa :: rest).countP (·.serves ifName)) s
              ifFound)
            { world with
              calls :=
                world.calls + (ifa :: rest).countP (·.serves ifName) } := by
        rw [List.countP_cons_of_neg (by simp [passed])]
        exact inductionHypothesis namedRest s ifFound
      rw [initIfSockaddrInLoop]
      cases shape : ifa.ifaAddr with
      | none => exact skip (by simp [Ifaddrs.serves, shape])
      | some addr =>
          by_cases entry : ifa.ifaName = ifName ∧ addr.sinFamily = afInet
          · have serves : ifa.serves ifName = true := by
              simpa [Ifaddrs.serves, shape] using entry
            have unnamed : platform.getnameinfo addr ≠ none :=
              named ifa (by simp) addr ⟨entry.1, shape, entry.2⟩
            have counted :
                (ifa :: rest).countP (·.serves ifName) =
                  rest.countP (·.serves ifName) + 1 :=
              List.countP_cons_of_pos serves
            have calls :
                world.calls + (rest.countP (·.serves ifName) + 1) =
                  world.calls + 1 + rest.countP (·.serves ifName) := by
              omega
            dsimp only
            rw [if_pos entry, if_neg unnamed, counted, calls,
              loopResult_succ,
              ← loopResult_found port (rest.countP (·.serves ifName))]
            exact (makes_initSockaddrIn _ port).bind
              (inductionHypothesis namedRest _ _)
          · have passed : ifa.serves ifName = false := by
              rw [Ifaddrs.serves, shape]
              exact decide_eq_false entry
            dsimp only
            rw [if_neg entry]
            exact skip passed

private theorem makes_initIfSockaddrIn
    (entry : HasInetEntry platform ifName) (port : Int) :
    StartMakes platform (initIfSockaddrIn platform ifName port) world
      (some (lookedUp port))
      { world with
        calls := world.calls + 1 + platform.inetEntries ifName } := by
  have found : platform.inetEntries ifName ≠ 0 := by
    rcases entry.found with ⟨ifa, member, isInet⟩
    apply Nat.ne_of_gt
    exact List.countP_pos_iff.mpr
      ⟨ifa, member, Ifaddrs.serves_iff.mpr isInet⟩
  have result :
      loopResult port (platform.inetEntries ifName) none false =
        (some (lookedUp port), true) :=
    if_neg found
  simp only [initIfSockaddrIn, handleSysError, handleAppError, throw_bind]
  apply tries_callFails.guarded
  apply Makes.bind
  · exact makes_initIfSockaddrInLoop port platform.ifaddrs entry.named none
      false
  · change StartMakes platform _ _ _ _
    rw [show platform.ifaddrs.countP (·.serves ifName) =
      platform.inetEntries ifName from rfl, result]
    exact .unless Bool.noConfusion (makes_pure _ _)

/-! ## Sockets -/

private theorem tries_socket :
    StartTries platform (socket platform) world
      (World.handle world.sockets.length)
      { world with
        calls := world.calls + 1
        sockets := world.sockets ++ [⟨none, false, none, false⟩] } where
  counts := rfl
  keeps := rfl
  good := by
    simp only [World.handle]
    omega
  succeeds := by
    intro succeeded
    rw [socket, bind_ok _ callFails_eq, succeeded]
    rfl
  fails := by
    intro failed
    refine ⟨-1, { world with calls := world.calls + 1 }, ?_, by decide, rfl,
      rfl⟩
    rw [socket, bind_ok _ callFails_eq, failed]
    rfl

/-- An update of the socket opened last. -/
private theorem updateSocket_last
    {sockets : List UdpSocket} {opened : UdpSocket}
    (update : UdpSocket → UdpSocket)
    (shape : world.sockets = sockets ++ [opened]) :
    updateSocket (World.handle sockets.length) update world =
      .ok () { world with sockets := sockets ++ [update opened] } := by
  rw [← modify_length_append, ← shape]
  simp only [updateSocket, World.toNat_handle]
  rfl

private theorem tries_setsockopt
    {sockets : List UdpSocket} {opened : UdpSocket}
    (update : UdpSocket → UdpSocket)
    (shape : world.sockets = sockets ++ [opened]) :
    StartTries platform
      (setsockopt platform (World.handle sockets.length) update) world 0
      { world with
        calls := world.calls + 1
        sockets := sockets ++ [update opened] } where
  counts := rfl
  keeps := rfl
  good := by decide
  succeeds := by
    intro succeeded
    rw [setsockopt, bind_ok _ callFails_eq, succeeded]
    exact bind_ok _ (updateSocket_last update shape)
  fails := by
    intro failed
    refine ⟨-1, { world with calls := world.calls + 1 }, ?_, by decide, rfl,
      rfl⟩
    rw [setsockopt, bind_ok _ callFails_eq, failed]
    rfl

private theorem tries_bind
    {sockets : List UdpSocket} {opened : UdpSocket} (port : Int)
    (sAddr : UInt32) (shape : world.sockets = sockets ++ [opened]) :
    StartTries platform
      (bind platform (World.handle sockets.length)
        ⟨afInet, htons (toUInt16 port), sAddr⟩)
      world 0
      { world with
        calls := world.calls + 1
        sockets := sockets ++
          [{ opened with
            port := some (receiverPort platform
              (World.handle sockets.length) port) }] } where
  counts := rfl
  keeps := rfl
  good := by decide
  succeeds := by
    intro succeeded
    rw [UdpipBroadcaster.bind, bind_ok _ callFails_eq, succeeded]
    simp only [SockaddrIn.port, ntohs_htons]
    exact bind_ok _ (updateSocket_last _ shape)
  fails := by
    intro failed
    refine ⟨-1, { world with calls := world.calls + 1 }, ?_, by decide, rfl,
      rfl⟩
    rw [UdpipBroadcaster.bind, bind_ok _ callFails_eq, failed]
    rfl

private theorem not_exOk_lt_zero : ¬ exOk < 0 := by
  decide

private theorem makes_newIfreq :
    StartMakes platform (newIfreq platform) world
      (platform.mallocAddress world.calls, ⟨CharArray.zero ifNamesize⟩)
      { world with calls := world.calls + 1 } := by
  apply Makes.get_bind
  exact makes_mallocStructure.bind (makes_pure _ _)

private theorem makes_setMsghdrsSocket
    {sockets : List UdpSocket} {opened : UdpSocket}
    (shape : world.sockets = sockets ++ [opened]) :
    StartMakes platform
      (setMsghdrsSocket platform (World.handle sockets.length)) world
      exOk
      { world with
        calls := world.calls + 2
        sockets := sockets ++
          [{ opened with
            pktinfo :=
              (platform.mallocAddress world.calls).toUInt32 ≠ 0 }] } := by
  simp only [setMsghdrsSocket, handleSysError, throw_bind]
  apply makes_newIfreq.bind
  apply (tries_setsockopt _ (by exact shape)).guarded
  exact makes_pure _ _

private theorem makes_setBroadcastSocket
    {sockets : List UdpSocket} {opened : UdpSocket}
    (shape : world.sockets = sockets ++ [opened]) :
    StartMakes platform
      (setBroadcastSocket platform (World.handle sockets.length)) world
      exOk
      { world with
        calls := world.calls + 1
        sockets := sockets ++ [{ opened with broadcast := true }] } := by
  simp only [setBroadcastSocket, handleSysError, throw_bind]
  apply (tries_setsockopt _ shape).guarded
  exact makes_pure _ _

private theorem makes_setBindtodeviceSocket
    {sockets : List UdpSocket} {opened : UdpSocket}
    (short : strlen ifName ≤ ifNamesize)
    (shape : world.sockets = sockets ++ [opened]) :
    StartMakes platform
      (setBindtodeviceSocket platform ifName
        (World.handle sockets.length))
      world exOk
      { world with
        calls := world.calls + 2
        sockets := sockets ++
          [{ opened with device := some (deviceName ifName) }] } := by
  simp only [setBindtodeviceSocket, initIfreq, handleSysError,
    handleAppError, throw_bind]
  apply Makes.bind
  · apply makes_newIfreq.bind
    exact .unless (Nat.not_lt.mpr short) (makes_pure _ _)
  · apply (tries_setsockopt _ (by exact shape)).guarded
    exact makes_pure _ _

private theorem makes_openReceiverUdpSocket (port : Int) :
    StartMakes platform (openReceiverUdpSocket platform port) world
      (World.handle world.sockets.length)
      { world with
        calls := world.calls + 5
        sockets := world.sockets ++
          [⟨some (receiverPort platform
              (World.handle world.sockets.length) port),
            false, none,
            (ifreqAddress platform world).toUInt32 ≠ 0⟩] } := by
  simp only [openReceiverUdpSocket, handleSysError, handleAppError,
    throw_bind]
  apply tries_socket.guarded
  apply (makes_initAnySockaddrIn port).bind
  apply (tries_bind port _ rfl).guarded
  apply (makes_setMsghdrsSocket rfl).bind
  exact .unless not_exOk_lt_zero (makes_pure _ _)

private theorem makes_openTransmitterUdpSocket (port : Int) :
    StartMakes platform (openTransmitterUdpSocket platform port) world
      (World.handle world.sockets.length)
      { world with
        calls := world.calls + 1
        sockets := world.sockets ++ [⟨none, false, none, false⟩] } := by
  simp only [openTransmitterUdpSocket, handleSysError, throw_bind]
  apply tries_socket.guarded
  exact makes_pure _ _

private theorem makes_openBroadcastUdpSocket
    (short : strlen ifName ≤ ifNamesize) (port : Int) :
    StartMakes platform (openBroadcastUdpSocket platform ifName port) world
      (World.handle world.sockets.length)
      { world with
        calls := world.calls + 4
        sockets := world.sockets ++
          [⟨none, true, some (deviceName ifName), false⟩] } := by
  simp only [openBroadcastUdpSocket, handleSysError, handleAppError,
    throw_bind]
  apply tries_socket.guarded
  apply (makes_setBroadcastSocket rfl).bind
  apply Makes.unless not_exOk_lt_zero
  apply (makes_setBindtodeviceSocket short rfl).bind
  exact .unless not_exOk_lt_zero (makes_pure _ _)

/-! ## Watchers -/

private theorem makes_newIovec :
    StartMakes platform (newIovec platform) world ⟨none, 0⟩
      { world with calls := world.calls + 1 } :=
  makes_mallocStructure.bind (makes_pure _ _)

private theorem makes_initMsgHeader (pointer : Nat) :
    StartMakes platform
      (initMsgHeader platform (some pointer) udpBufferLen) world
      (freshHeader pointer) { world with calls := world.calls + 4 } := by
  simp only [initMsgHeader, newMsgHeader]
  apply Makes.bind
  · apply makes_mallocStructure.bind
    apply makes_mallocStructure.bind
    apply makes_newSockaddrIn.bind
    apply makes_newIovec.bind
    exact makes_pure _ _
  · exact makes_pure _ _

private theorem makes_newEvIoArg :
    StartMakes platform (newEvIoArg platform) world world.args.length
      { world with
        calls := world.calls + 1
        args := world.args ++ [EvIoArg.zero] } := by
  rw [newEvIoArg]
  apply makes_mallocStructure.bind
  exact makes_of_returned rfl rfl rfl

private theorem makes_initEvIoArg
    (entry : HasInetEntry platform ifName) (m : UdpEvents)
    (callback : Option EvCb) (port : Int) :
    StartMakes platform (initEvIoArg platform m callback port ifName) world
      world.args.length
      { world with
        calls := world.calls + 3 + platform.inetEntries ifName + 4
        heap := world.heap ++
          [freshBlock platform world.heap.length udpBufferLen]
        args := world.args ++
          [{ watcherArg m.socketFd port callback world.heap.length with
            watcher := ⟨0, 0⟩ }] } := by
  rw [initEvIoArg]
  apply makes_newEvIoArg.bind
  apply (makes_updateArg _ rfl).bind
  apply (makes_mallocBuffer _).bind
  apply (makes_updateArg _ rfl).bind
  apply (makes_initIfSockaddrIn entry port).bind
  apply (makes_updateArg _ rfl).bind
  apply (makes_initMsgHeader _).bind
  apply (makes_updateArg _ rfl).bind
  exact makes_pure _ _

/-- libev's loop is not one of the calls that are counted. -/
private theorem makes_initWatcher
    (libev : platform.evDefault = some .evDefault)
    (entry : HasInetEntry platform ifName) (m : UdpEvents)
    (callback : Option EvCb) (port : Int) :
    StartMakes platform
      (initWatcher platform m callback evRead port ifName) world
      (exOk, ⟨m.socketFd, some .evDefault, some world.args.length⟩)
      { world with
        calls := world.calls + 3 + platform.inetEntries ifName + 4
        heap := world.heap ++
          [freshBlock platform world.heap.length udpBufferLen]
        args := world.args ++
          [watcherArg m.socketFd port callback world.heap.length]
        started := world.started ++ [world.args.length] } := by
  rw [initWatcher, libev]
  apply (makes_initEvIoArg entry _ callback port).bind
  apply (makes_updateArg _ rfl).bind
  exact makes_of_returned rfl rfl rfl

private theorem makes_initRxUdpEvents
    (libev : platform.evDefault = some .evDefault)
    (entry : HasInetEntry platform ifName) (port : Int)
    (callback : Option EvCb) :
    StartMakes platform (initRxUdpEvents platform port ifName callback) world
      ⟨World.handle world.sockets.length, some .evDefault,
        some world.args.length⟩
      { world with
        calls := world.calls + 9 + platform.inetEntries ifName + 4
        heap := world.heap ++
          [freshBlock platform world.heap.length udpBufferLen]
        sockets := world.sockets ++
          [⟨some (receiverPort platform
              (World.handle world.sockets.length) port),
            false, none,
            (platform.mallocAddress (world.calls + 4)).toUInt32 ≠ 0⟩]
        args := world.args ++
          [watcherArg (World.handle world.sockets.length) port callback
            world.heap.length]
        started := world.started ++ [world.args.length] } := by
  simp only [initRxUdpEvents, newUdpEvents, handleAppError, throw_bind]
  apply Makes.bind
  · exact makes_mallocStructure.bind (makes_pure _ _)
  · apply (makes_openReceiverUdpSocket port).bind
    apply (makes_initWatcher libev entry _ callback port).bind
    exact .unless not_exOk_lt_zero (makes_pure _ _)

/-- The calls made for a receiver and for the socket it forwards to, apart
from the allocations of the interface lookups. -/
private theorem makes_initNetUdpEvents
    (libev : platform.evDefault = some .evDefault)
    (entry : HasInetEntry platform ifName) (rxPort fwdPort : Int)
    (fwdAddr : Option CString) (necMode : Bool) (callback : Option EvCb) :
    let fd := World.handle world.sockets.length
    let arg := watcherArg fd rxPort callback world.heap.length
    let entries := platform.inetEntries ifName
    StartMakes platform
      (initNetUdpEvents platform rxPort ifName fwdAddr fwdPort necMode
        callback)
      world ⟨fd, some .evDefault, some world.args.length⟩
      { world with
        calls := world.calls + 9 + entries + 5 + entries + 2
        heap := world.heap ++
          [freshBlock platform world.heap.length udpBufferLen]
        sockets := world.sockets ++
          [⟨some (receiverPort platform fd rxPort), false, none,
            (platform.mallocAddress (world.calls + 4)).toUInt32 ≠ 0⟩] ++
          [⟨none, false, none, false⟩]
        args := world.args ++
          [{ arg with
            publicArg :=
              { arg.publicArg with
                forwardingSocketFd :=
                  World.handle (world.sockets.length + 1)
                forwardingPort := fwdPort
                forwardingAddr := some (lookedUp fwdPort)
                printForwardingMessage := world.verbose
                necMode := necMode } }]
        started := world.started ++ [world.args.length] } := by
  simp only [initNetUdpEvents]
  apply (makes_initRxUdpEvents libev entry rxPort callback).bind
  apply (makes_initIfSockaddrIn entry rxPort).bind
  apply (makes_openTransmitterUdpSocket fwdPort).bind
  apply (makes_initSockaddrIn fwdAddr fwdPort).bind
  apply Makes.get_bind
  apply (makes_updateArg _ rfl).bind
  simp only [List.length_append, List.length_singleton]
  exact makes_pure _ _

private theorem makes_initAppUdpEvents
    (libev : platform.evDefault = some .evDefault)
    (entry : HasInetEntry platform ifName)
    (short : strlen ifName ≤ ifNamesize) (rxPort fwdPort : Int)
    (callback : Option EvCb) :
    let fd := World.handle world.sockets.length
    let arg := watcherArg fd rxPort callback world.heap.length
    let entries := platform.inetEntries ifName
    StartMakes platform
      (initAppUdpEvents platform rxPort ifName fwdPort callback)
      world ⟨fd, some .evDefault, some world.args.length⟩
      { world with
        calls := world.calls + 9 + entries + 5 + entries + 5
        heap := world.heap ++
          [freshBlock platform world.heap.length udpBufferLen]
        sockets := world.sockets ++
          [⟨some (receiverPort platform fd rxPort), false, none,
            (platform.mallocAddress (world.calls + 4)).toUInt32 ≠ 0⟩] ++
          [⟨none, true, some (deviceName ifName), false⟩]
        args := world.args ++
          [{ arg with
            publicArg :=
              { arg.publicArg with
                localAddr := some (lookedUp fwdPort)
                forwardingSocketFd :=
                  World.handle (world.sockets.length + 1)
                forwardingAddr :=
                  some ⟨afInet, htons (toUInt16 fwdPort),
                    htonl inaddrBroadcast⟩
                forwardingPort := fwdPort
                printForwardingMessage := world.verbose } }]
        started := world.started ++ [world.args.length] } := by
  simp only [initAppUdpEvents]
  apply (makes_initRxUdpEvents libev entry rxPort callback).bind
  apply (makes_initIfSockaddrIn entry fwdPort).bind
  apply (makes_openBroadcastUdpSocket short fwdPort).bind
  apply (makes_initBroadcastSockaddrIn fwdPort).bind
  apply Makes.get_bind
  apply (makes_updateArg _ rfl).bind
  simp only [List.length_append, List.length_singleton]
  exact makes_pure _ _

end Specifications

/-! ## `main` -/

/-- The number of calls start-up makes: one for the configuration, 16 for
the network side and 19 for the application side, and one for each entry of
the interface in each of the four lookups. -/
def startupCalls (platform : Platform) (ifName : CString) : Nat :=
  36 + 4 * platform.inetEntries ifName

variable {platform : Platform} {opts : List Opt} {settings : Settings}

/-- The process as it enters the event loop. -/
def startedWorld
    (platform : Platform) (settings : Settings) (stdin : Stdin) :
    World :=
  let entries := platform.inetEntries settings.cfg.ifName.text
  relayWorld platform settings stdin
    (startupCalls platform settings.cfg.ifName.text)
    ((platform.mallocAddress 5).toUInt32 ≠ 0)
    ((platform.mallocAddress (21 + 2 * entries)).toUInt32 ≠ 0)

/-- The process after `create_configuration`. -/
private def configuredWorld
    (settings : Settings) (stdin : Stdin) : World :=
  { World.initial stdin with
    calls := 1
    verbose := settings.verbose }

private theorem makes_startRelay
    (libev : platform.evDefault = some .evDefault)
    (entry : HasInetEntry platform settings.cfg.ifName.text)
    (short : strlen settings.cfg.ifName.text ≤ ifNamesize)
    (stdin : Stdin) :
    StartMakes platform (startRelay platform settings.cfg)
      (configuredWorld settings stdin)
      (⟨0, some .evDefault, some 0⟩, ⟨2, some .evDefault, some 1⟩)
      (startedWorld platform settings stdin) := by
  have calls (entries : Nat) :
      1 + 9 + entries + 5 + entries + 2 + 9 + entries + 5 + entries + 5 =
        36 + 4 * entries := by
    omega
  have address (entries : Nat) :
      1 + 9 + entries + 5 + entries + 2 + 4 = 21 + 2 * entries := by
    omega
  rw [startedWorld, startupCalls, ← calls, ← address, startRelay]
  apply Makes.bind
  · exact makes_initNetUdpEvents libev entry _ _ _ _ _
  · apply Makes.bind
    · exact makes_initAppUdpEvents libev entry short _ _ _
    · exact makes_pure _ _

/-- The calls of `main` after the one of `new_configuration`. -/
private theorem makes_main
    (libev : platform.evDefault = some .evDefault)
    (accepted : createConfiguration opts = .ok settings)
    (relay : settings.cfg.txTest = false)
    (entry : HasInetEntry platform settings.cfg.ifName.text)
    (stdin : Stdin) (allocated : platform.fails 0 = false) :
    ∃ program : Program (Option EvLoop),
      main platform opts (World.initial stdin) =
          program (configuredWorld settings stdin) ∧
        StartMakes platform program (configuredWorld settings stdin)
          (some .evDefault) (startedWorld platform settings stdin) := by
  have loaded :
      loadConfiguration platform opts (World.initial stdin) =
        .ok settings.cfg (configuredWorld settings stdin) := by
    rw [loadConfiguration, bind_ok _ callFails_eq, World.initial, allocated,
      accepted]
    rfl
  have starts :=
    makes_startRelay libev entry (strlen_ifName_le accepted) stdin
  refine ⟨_, bind_ok _ loaded, ?_⟩
  apply Makes.unless (by simp [relay])
  apply starts.bind
  exact makes_of_returned rfl rfl rfl

/-- `main` stops right after the first call that fails: with a fault if it is
the unchecked allocation of the configuration, and with an error exit
otherwise. -/
theorem main_error
    (libev : platform.evDefault = some .evDefault)
    (accepted : createConfiguration opts = .ok settings)
    (relay : settings.cfg.txTest = false)
    (entry : HasInetEntry platform settings.cfg.ifName.text)
    (stdin : Stdin) {first : Nat}
    (within : first < startupCalls platform settings.cfg.ifName.text)
    (failed : platform.fails first = true)
    (succeeded : ∀ call < first, platform.fails call = false) :
    ∃ stopped,
      main platform opts (World.initial stdin) =
          .error (if first = 0 then .segmentationFault else .exitFailure)
            stopped ∧
        stopped.calls = first + 1 ∧ stopped.streams = ([], stdin) := by
  cases first with
  | zero =>
      refine ⟨{ World.initial stdin with calls := 1 }, ?_, rfl, rfl⟩
      apply bind_error
      rw [loadConfiguration, bind_ok _ callFails_eq, World.initial, failed]
      rfl
  | succ first =>
      obtain ⟨program, ran, makes⟩ :=
        makes_main libev accepted relay entry stdin
          (succeeded 0 (by omega))
      obtain ⟨stopped, stops, calls, kept⟩ :=
        makes.stops (first + 1) (by simp [configuredWorld]) within
          (fun call _ => succeeded call) failed
      exact ⟨stopped, ran.trans stops, calls, kept⟩

/-- Without a failing call `main` enters the event loop in one known
state. -/
theorem main_startedWorld
    (libev : platform.evDefault = some .evDefault)
    (accepted : createConfiguration opts = .ok settings)
    (relay : settings.cfg.txTest = false)
    (entry : HasInetEntry platform settings.cfg.ifName.text)
    (stdin : Stdin)
    (succeeded : ∀ call < startupCalls platform settings.cfg.ifName.text,
      platform.fails call = false) :
    main platform opts (World.initial stdin) =
      .ok (some .evDefault) (startedWorld platform settings stdin) := by
  have positive : 0 < startupCalls platform settings.cfg.ifName.text := by
    rw [startupCalls]
    omega
  obtain ⟨program, ran, makes⟩ :=
    makes_main libev accepted relay entry stdin (succeeded 0 positive)
  rw [ran]
  exact makes.returns fun call _ => succeeded call

/-- If `main` enters the event loop, none of its calls failed, and the state
is the known one. -/
theorem startedWorld_of_returned
    (accepted : createConfiguration opts = .ok settings)
    {stdin : Stdin} {loop : Option EvLoop} {world : World}
    (returned : main platform opts (World.initial stdin) = .ok loop world) :
    (∀ call < startupCalls platform settings.cfg.ifName.text,
        platform.fails call = false) ∧
      loop = some .evDefault ∧
      world = startedWorld platform settings stdin := by
  rcases main_returned returned with
    ⟨-, other, created, relay, libev, entry, -⟩
  rw [accepted] at created
  cases created
  have succeeded : ∀ call < startupCalls platform settings.cfg.ifName.text,
      platform.fails call = false := by
    intro call within
    by_contra notSucceeded
    have failed : platform.fails call = true := by
      simpa using notSucceeded
    have failing : ∃ call, platform.fails call = true := ⟨call, failed⟩
    have firstLe : Nat.find failing ≤ call := Nat.find_min' failing failed
    obtain ⟨stopped, stops, -⟩ :=
      main_error libev accepted relay entry stdin
        (Nat.lt_of_le_of_lt firstLe within) (Nat.find_spec failing)
        (fun other before => by
          simpa using Nat.find_min failing before)
    rw [returned] at stops
    cases stops
  rw [main_startedWorld libev accepted relay entry stdin succeeded]
    at returned
  cases returned
  exact ⟨succeeded, rfl, rfl⟩

end UdpipBroadcaster
