import UdpipBroadcaster.ConfigurationText
import UdpipBroadcaster.StartupFailures

/-!
# What start-up prints

`main` up to the event loop, with its output.  Each manager prints its new
receive buffer as a string, although nothing was stored there.
-/

namespace UdpipBroadcaster

open Outputs PrintedTexts Programs

namespace Session

/-! ## `udp_socket.c` -/

def initSockaddrIn
    (platform : Platform) (_address : Option CString) (port : Int) :
    Session SockaddrIn := do
  let s ← silently (newSockaddrIn platform)
  let s :=
    { s with
      sinFamily := afInet
      sinPort := htons (toUInt16 port) }
  write (utf8 "8\n")
  write (utf8 "9\n")
  pure s

/-- The loop of `init_if_sockaddr_in`. -/
def initIfSockaddrInLoop
    (platform : Platform) (ifName : CString) (port : Int) :
    List Ifaddrs → Option SockaddrIn → Bool →
      Session (Option SockaddrIn × Bool)
  | [], s, ifFound => pure (s, ifFound)
  | ifa :: rest, s, ifFound =>
      match ifa.ifaAddr with
      | none => initIfSockaddrInLoop platform ifName port rest s ifFound
      | some addr =>
          let host := platform.getnameinfo addr
          if ifa.ifaName = ifName ∧ addr.sinFamily = afInet then do
            if host = none then
              throw .exitFailure
            let s ← initSockaddrIn platform host port
            initIfSockaddrInLoop platform ifName port rest (some s) true
          else
            initIfSockaddrInLoop platform ifName port rest s ifFound

def initIfSockaddrIn
    (platform : Platform) (ifName : CString) (port : Int) :
    Session (Option SockaddrIn) := do
  if ← silently (callFails platform) then
    throw .exitFailure
  let (s, ifFound) ←
    initIfSockaddrInLoop platform ifName port platform.ifaddrs none false
  if ifFound = false then
    throw .exitFailure
  pure s

def openBroadcastUdpSocket
    (platform : Platform) (iface : CString) (port : Int) :
    Session Int := do
  let fd ←
    silently (UdpipBroadcaster.openBroadcastUdpSocket platform iface port)
  write (utf8 "saio do open_broadcast_udp_socket\n")
  pure fd

/-! ## `udp_events.c` -/

/-- The string at the front of a block.  A block without a NUL is read
beyond its end. -/
def readString (block : List UInt8) : Session (List UInt8) :=
  if 0 ∈ block then pure (block.takeWhile (· ≠ 0))
  else throw .segmentationFault

def initEvIoArg
    (platform : Platform) (m : UdpEvents) (callback : Option EvCb)
    (port : Int) (ifName : CString) : Session Nat := do
  write (utf8 "entro no init_ev_io_arg desde o init_watcher\n")
  let s ← silently (newEvIoArg platform)
  silently (updateArg s fun arg => { arg with cbSpecfic := callback })
  let data ← silently (mallocBuffer platform udpBufferLen)
  silently
    (updateArg s fun arg =>
      { arg with publicArg := { arg.publicArg with data := data } })
  let localAddr ← initIfSockaddrIn platform ifName port
  silently
    (updateArg s fun arg =>
      { arg with
        publicArg :=
          { arg.publicArg with
            localAddr := localAddr
            len := 0
            socketFd := m.socketFd
            port := port } })
  let msgHeader ← silently (initMsgHeader platform data udpBufferLen)
  silently
    (updateArg s fun arg =>
      { arg with publicArg := { arg.publicArg with msgHeader := msgHeader } })
  let text ← readString (← silently (readBlock data))
  write (utf8 "datos: " ++ (text ++ utf8 "\n"))
  pure s

def initWatcher
    (platform : Platform) (m : UdpEvents) (callback : Option EvCb)
    (events : UInt32) (port : Int) (ifName : CString) :
    Session (Int × UdpEvents) := do
  let m := { m with loop := platform.evDefault }
  let arg ← initEvIoArg platform m callback port ifName
  let m := { m with watcher := some arg }
  silently
    (updateArg m.watcher fun arg =>
      { arg with watcher := ⟨m.socketFd, events⟩ })
  let _loop ← silently (deref m.loop)
  silently
    (modify fun world => { world with started := world.started ++ [arg] })
  write (utf8 "saio do init_watcher\n")
  pure (exOk, m)

def initTxUdpEvents
    (platform : Platform) (ifName : CString) (port : Int)
    (callback : Option EvCb) (broadcast : Bool) : Session UdpEvents := do
  let s ← silently (newUdpEvents platform)
  let socketFd ←
    if broadcast = true then do
      write (utf8 "broadcast\n")
      write (utf8 ">>> Opening TX socket in broadcast mode.")
      openBroadcastUdpSocket platform ifName port
    else do
      write (utf8 ">>> Opening TX socket in normal mode.")
      silently (openTransmitterUdpSocket platform port)
  let s := { s with socketFd := socketFd }
  write (utf8 "entro en init_watcher desde init_tx_udp_events\n")
  let (result, s) ← initWatcher platform s callback evRead port ifName
  if result < 0 then
    throw .exitFailure
  write (utf8 "non hai erro no init_watcher\n")
  write (utf8 "saio do init_tx_udp_events\n")
  silently
    (updateArg s.watcher fun arg =>
      { arg with publicArg := { arg.publicArg with testNumber := 0 } })
  pure s

def initRxUdpEvents
    (platform : Platform) (port : Int) (ifName : CString)
    (callback : Option EvCb) : Session UdpEvents := do
  let s ← silently (newUdpEvents platform)
  let socketFd ← silently (openReceiverUdpSocket platform port)
  let s := { s with socketFd := socketFd }
  let (result, s) ← initWatcher platform s callback evRead port ifName
  if result < 0 then
    throw .exitFailure
  pure s

def initNetUdpEvents
    (platform : Platform) (netRxPort : Int) (netIfName : CString)
    (appFwdAddr : Option CString) (appFwdPort : Int) (necMode : Bool)
    (callback : Option EvCb) : Session UdpEvents := do
  let s ← initRxUdpEvents platform netRxPort netIfName callback
  let localAddr ← initIfSockaddrIn platform netIfName netRxPort
  let forwardingSocketFd ←
    silently (openTransmitterUdpSocket platform appFwdPort)
  let forwardingAddr ← initSockaddrIn platform appFwdAddr appFwdPort
  let (world, _) ← get
  silently
    (updateArg s.watcher fun arg =>
      { arg with
        publicArg :=
          { arg.publicArg with
            localAddr := localAddr
            forwardingSocketFd := forwardingSocketFd
            forwardingPort := appFwdPort
            forwardingAddr := some forwardingAddr
            printForwardingMessage := world.verbose
            necMode := necMode
            testNumber := 0 } })
  pure s

def initAppUdpEvents
    (platform : Platform) (appRxPort : Int) (ifName : CString)
    (netFwdPort : Int) (callback : Option EvCb) : Session UdpEvents := do
  let s ← initRxUdpEvents platform appRxPort ifName callback
  let localAddr ← initIfSockaddrIn platform ifName netFwdPort
  let forwardingSocketFd ←
    openBroadcastUdpSocket platform ifName netFwdPort
  let forwardingAddr ←
    silently (initBroadcastSockaddrIn platform netFwdPort)
  let (world, _) ← get
  silently
    (updateArg s.watcher fun arg =>
      { arg with
        publicArg :=
          { arg.publicArg with
            localAddr := localAddr
            forwardingSocketFd := forwardingSocketFd
            forwardingAddr := some forwardingAddr
            forwardingPort := netFwdPort
            printForwardingMessage := world.verbose } })
  write (utf8 "init_app_udp_events\n")
  pure s

def printUdpEvents
    (platform : Platform) (m : UdpEvents) (rxPort fwdPort : Int) :
    Session Unit := do
  write (utf8 "\x7b\n")
  write (fieldText "\t* rx_port = " (signedText 1 rxPort))
  write (fieldText "\t* fw_port = " (signedText 1 fwdPort))
  write (fieldText "\t* sock_fd = "
    (signedText 1 (platform.descriptor m.socketFd)))
  write (utf8 "\x7d\n")

/-! ## `main.c` -/

def loadConfiguration (platform : Platform) (opts : List Opt) :
    Session Configuration := do
  if ← silently (callFails platform) then
    throw .segmentationFault
  let settings ← createConfiguration opts
  silently
    (modify fun world => { world with verbose := settings.verbose })
  pure settings.cfg

def startRelay (platform : Platform) (cfg : Configuration) :
    Session (UdpEvents × UdpEvents) := do
  write (utf8 ">>> Opening UDP NET RX socket...\n")
  let netEvents ←
    initNetUdpEvents platform cfg.rxPort cfg.ifName.text cfg.appAddress
      cfg.appTxPort cfg.necMode (some .cbForwardRecvfrom)
  write (utf8 ">>> UDP NET RX socket open!\n")
  printUdpEvents platform netEvents cfg.rxPort cfg.appTxPort
  write (utf8 ">>> Opening UDP APP RX socket...\n")
  let appEvents ←
    initAppUdpEvents platform cfg.appRxPort cfg.ifName.text cfg.txPort
      (some .cbBroadcastRecvfrom)
  write (utf8 ">>> UDP APP RX socket open!\n")
  printUdpEvents platform appEvents cfg.appRxPort cfg.txPort
  pure (netEvents, appEvents)

/-- `main` up to the call of `ev_loop`. -/
def main (platform : Platform) (opts : List Opt) :
    Session (Option EvLoop) := do
  write (utf8 ">>> Reading configuration...\n")
  let cfg ← loadConfiguration platform opts
  write (utf8 ">>> Configuration read! Printing data...\n")
  printConfiguration cfg
  if cfg.txTest = true then
    let netEvents ←
      initTxUdpEvents platform cfg.ifName.text cfg.txPort
        (some .cbBroadcastSendto) true
    write (utf8 "> UDP TX socket open, port = " ++
      (signedText 1 cfg.txPort ++ (utf8 ", fd = " ++
        (signedText 1 (platform.descriptor netEvents.socketFd) ++
          utf8 ".\n"))))
    let appEvents : Option UdpEvents := none
    pure (← silently (deref appEvents)).loop
  else
    let (_netEvents, appEvents) ← startRelay platform cfg
    let appEvents := some appEvents
    pure (← silently (deref appEvents)).loop

end Session

variable {platform : Platform} {ifName : CString} {world : World}

/-! ## What is written -/

/-- The lines of `init_sockaddr_in`. -/
def addressLines : List UInt8 :=
  utf8 "8\n" ++ utf8 "9\n"

/-- The text of a lookup that finds `found` entries. -/
def foundText (found : Nat) : List UInt8 :=
  (List.replicate found addressLines).flatten

/-- The text of `init_ev_io_arg`, whose buffer is behind `pointer`. -/
def evIoArgText
    (platform : Platform) (ifName : CString) (pointer : Nat) : List UInt8 :=
  utf8 "entro no init_ev_io_arg desde o init_watcher\n" ++
    (foundText (platform.inetEntries ifName) ++
      (utf8 "datos: " ++
        ((freshBlock platform pointer udpBufferLen).takeWhile (· ≠ 0) ++
          utf8 "\n")))

/-- The buffer that `malloc` returns holds a string. -/
def HoldsString (platform : Platform) (pointer : Nat) : Prop :=
  0 ∈ freshBlock platform pointer udpBufferLen

instance (pointer : Nat) : Decidable (HoldsString platform pointer) :=
  inferInstanceAs (Decidable (0 ∈ freshBlock platform pointer udpBufferLen))

theorem writes_initSockaddrIn (address : Option CString) (port : Int) :
    Writes (Session.initSockaddrIn platform address port)
      (initSockaddrIn platform address port) world addressLines := by
  rw [Session.initSockaddrIn, initSockaddrIn, addressLines]
  apply Writes.silently
  intro s next _
  apply Writes.write
  exact writes_write_pure _ _ next

private theorem writes_initIfSockaddrInLoop
    (port : Int) (entries : List Ifaddrs) (s : Option SockaddrIn)
    (ifFound : Bool) :
    Writes
      (Session.initIfSockaddrInLoop platform ifName port entries s ifFound)
      (initIfSockaddrInLoop platform ifName port entries s ifFound) world
      (foundText (entries.countP (·.serves ifName))) := by
  induction entries generalizing s ifFound world with
  | nil => exact writes_pure _ world
  | cons ifa rest inductionHypothesis =>
      have skip (passed : ¬ ifa.serves ifName = true) :
          Writes
            (Session.initIfSockaddrInLoop platform ifName port rest s
              ifFound)
            (initIfSockaddrInLoop platform ifName port rest s ifFound) world
            (foundText ((ifa :: rest).countP (·.serves ifName))) := by
        have counted :
            (ifa :: rest).countP (·.serves ifName) =
              rest.countP (·.serves ifName) :=
          List.countP_cons_of_neg passed
        rw [counted]
        exact inductionHypothesis s ifFound
      rw [Session.initIfSockaddrInLoop, initIfSockaddrInLoop]
      cases shape : ifa.ifaAddr with
      | none => exact skip (by simp [Ifaddrs.serves, shape])
      | some addr =>
          dsimp only
          by_cases entry : ifa.ifaName = ifName ∧ addr.sinFamily = afInet
          · have serves : ifa.serves ifName = true := by
              simpa [Ifaddrs.serves, shape] using entry
            have counted :
                (ifa :: rest).countP (·.serves ifName) =
                  rest.countP (·.serves ifName) + 1 :=
              List.countP_cons_of_pos serves
            rw [counted, foundText, List.replicate_succ, List.flatten_cons,
              if_pos entry, if_pos entry]
            by_cases unnamed : platform.getnameinfo addr = none
            · rw [if_pos unnamed, if_pos unnamed]
              exact fun out => ⟨out, rfl⟩
            · rw [if_neg unnamed, if_neg unnamed]
              exact (writes_initSockaddrIn _ port).bind
                fun found next _ => inductionHypothesis (some found) true
          · rw [if_neg entry, if_neg entry]
            exact skip (by simpa [Ifaddrs.serves, shape] using entry)

theorem writes_initIfSockaddrIn (port : Int) :
    Writes (Session.initIfSockaddrIn platform ifName port)
      (initIfSockaddrIn platform ifName port) world
      (foundText (platform.inetEntries ifName)) := by
  rw [Session.initIfSockaddrIn, initIfSockaddrIn]
  apply Writes.silently
  intro fails next _
  cases fails with
  | true => exact fun out => ⟨out, rfl⟩
  | false =>
      rw [← List.append_nil (foundText _)]
      apply (writes_initIfSockaddrInLoop port platform.ifaddrs none false).bind
      rintro ⟨s, ifFound⟩ last _
      cases ifFound with
      | true => exact writes_pure s last
      | false => exact fun out => ⟨out, rfl⟩

private theorem writes_openBroadcastUdpSocket (port : Int) :
    Writes (Session.openBroadcastUdpSocket platform ifName port)
      (openBroadcastUdpSocket platform ifName port) world
      (utf8 "saio do open_broadcast_udp_socket\n") :=
  writes_afterwards _ _ world

/-! ## The buffer that is printed -/

/-- What a string is read for. -/
private theorem writesIf_readString
    {α : Type} {block items : List UInt8} {rest : List UInt8 → Session α}
    {plain : Program α}
    (writes : Writes (rest (block.takeWhile (· ≠ 0))) plain world items) :
    WritesIf (0 ∈ block) (Session.readString block >>= rest) plain world
      items where
  writes := by
    intro nul
    rw [Session.readString, if_pos nul]
    exact writes
  stops := by
    intro noNul out
    rw [Session.readString, if_neg noNul]
    exact ⟨.segmentationFault, (world, out), rfl⟩

section Heap

variable {α : Type} {next : World}

private theorem heap_of_wp
    (stops : Stop → Prop) {program : Program α} {value : α}
    (kept : wp stops program (fun _ next => next.heap = world.heap) world)
    (run : program world = .ok value next) : next.heap = world.heap := by
  have result := post_of_returned kept run
  exact result

private theorem heap_newUdpEvents
    {m : UdpEvents} (run : newUdpEvents platform world = .ok m next) :
    next.heap = world.heap := by
  apply heap_of_wp (fun _ => True) _ run
  simp only [newUdpEvents, wp_bind]
  exact wp_mallocStructure (fun _ => trivial) rfl

private theorem heap_newEvIoArg
    {s : Nat} (run : newEvIoArg platform world = .ok s next) :
    next.heap = world.heap := by
  apply heap_of_wp (fun _ => True) _ run
  simp only [newEvIoArg, wp_bind]
  exact wp_mallocStructure (fun _ => trivial) rfl

private theorem heap_updateArg
    {pointer : Option Nat} {update : EvIoArg → EvIoArg}
    (run : updateArg pointer update world = .ok () next) :
    next.heap = world.heap := by
  cases pointer with
  | none => cases run
  | some index =>
      cases run
      rfl

private theorem heap_initIfSockaddrIn
    {port : Int} {localAddr : Option SockaddrIn}
    (run : initIfSockaddrIn platform ifName port world =
      .ok localAddr next) :
    next.heap = world.heap :=
  heap_of_wp (fun _ => True)
    (wp_initIfSockaddrIn (fun _ => trivial) fun _ _ => rfl) run

private theorem heap_initMsgHeader
    {pointer : Nat} {msg : Msghdr}
    (run : initMsgHeader platform (some pointer) udpBufferLen world =
      .ok msg next) :
    next.heap = world.heap :=
  heap_of_wp (fun _ => StartFault platform (CharArray.zero 1).text)
    (wp_initMsgHeader fun _ => rfl) run

private theorem heap_openReceiverUdpSocket
    {port fd : Int}
    (run : openReceiverUdpSocket platform port world = .ok fd next) :
    next.heap = world.heap :=
  heap_of_wp (fun _ => True)
    (wp_openReceiverUdpSocket (fun _ => trivial) fun _ => rfl) run

private theorem heap_mallocBuffer
    {size pointer : Nat}
    (run : mallocBuffer platform size world = .ok pointer next) :
    pointer = world.heap.length ∧
      next.heap =
        world.heap ++ [freshBlock platform world.heap.length size] := by
  have kept :
      wp (fun _ => StartFault platform (CharArray.zero 1).text)
        (mallocBuffer platform size)
        (fun pointer next => pointer = world.heap.length ∧
          next.heap =
            world.heap ++ [freshBlock platform world.heap.length size])
        world :=
    wp_mallocBuffer fun _ => ⟨rfl, rfl⟩
  have result := post_of_returned kept run
  exact result

end Heap

/-- The arguments of a watcher are set up as without output, if the new
buffer holds a string. -/
private theorem writesIf_initEvIoArg
    (m : UdpEvents) (callback : Option EvCb) (port : Int) :
    WritesIf (HoldsString platform world.heap.length)
      (Session.initEvIoArg platform m callback port ifName)
      (initEvIoArg platform m callback port ifName) world
      (evIoArgText platform ifName world.heap.length) := by
  rw [Session.initEvIoArg, initEvIoArg, evIoArgText]
  apply WritesIf.write
  apply WritesIf.silently
  intro s _ created
  apply WritesIf.silently
  intro _ before assigned
  apply WritesIf.silently
  intro data _ allocated
  apply WritesIf.silently
  intro _ _ hasData
  apply (writes_initIfSockaddrIn port).bindIf
  intro localAddr _ lookup
  apply WritesIf.silently
  intro _ _ hasAddr
  apply WritesIf.silently
  intro msgHeader _ header
  apply WritesIf.silently
  intro _ last hasHeader
  -- the heap after the `malloc`, which nothing changes
  rcases heap_mallocBuffer allocated with ⟨rfl, heap⟩
  rw [heap_updateArg assigned, heap_newEvIoArg created] at heap header ⊢
  rw [← heap_updateArg hasData, ← heap_initIfSockaddrIn lookup,
    ← heap_updateArg hasAddr, ← heap_initMsgHeader header,
    ← heap_updateArg hasHeader] at heap
  have read :
      readBlock (some world.heap.length) last =
        .ok (freshBlock platform world.heap.length udpBufferLen) last := by
    have block :
        last.heap[world.heap.length]? =
          some (freshBlock platform world.heap.length udpBufferLen) := by
      rw [heap]
      exact List.getElem?_concat_length
    rw [readBlock, get_bind, Option.bind_some, block, Option.getD_some]
    rfl
  apply WritesIf.reads read
  apply writesIf_readString
  exact writes_write_pure _ s last

/-- The text of `init_watcher`, whose buffer is behind `pointer`. -/
def watcherText
    (platform : Platform) (ifName : CString) (pointer : Nat) : List UInt8 :=
  evIoArgText platform ifName pointer ++ utf8 "saio do init_watcher\n"

private theorem writesIf_initWatcher
    (m : UdpEvents) (callback : Option EvCb) (port : Int) :
    WritesIf (HoldsString platform world.heap.length)
      (Session.initWatcher platform m callback evRead port ifName)
      (initWatcher platform m callback evRead port ifName) world
      (watcherText platform ifName world.heap.length) := by
  apply (writesIf_initEvIoArg _ callback port).andThen
  intro arg _ _
  apply Writes.silently
  intro _ _ _
  apply Writes.silently
  intro _ _ _
  apply Writes.silently
  intro _ last _
  exact writes_write_pure _ _ last

/-- The result of `init_watcher` is checked, and nothing is written. -/
private theorem writes_checked
    {α : Type} (result : Int) (s : α) :
    Writes
      (do
        if result < 0 then
          throw Stop.exitFailure
        pure s : Session α)
      (do
        if result < 0 then
          handleAppError
        pure s)
      world [] := by
  by_cases negative : result < 0
  · simp only [if_pos negative]
    exact fun out => ⟨out, rfl⟩
  · simp only [if_neg negative]
    exact writes_pure s world

private theorem writesIf_initRxUdpEvents
    (callback : Option EvCb) (port : Int) :
    WritesIf (HoldsString platform world.heap.length)
      (Session.initRxUdpEvents platform port ifName callback)
      (initRxUdpEvents platform port ifName callback) world
      (watcherText platform ifName world.heap.length) := by
  rw [Session.initRxUdpEvents, initRxUdpEvents,
    ← List.append_nil (watcherText ..)]
  apply WritesIf.silently
  intro s _ created
  apply WritesIf.silently
  intro fd opened bound
  rw [← heap_newUdpEvents created, ← heap_openReceiverUdpSocket bound]
  apply (writesIf_initWatcher _ callback port).andThen
  rintro ⟨result, s⟩ last _
  exact writes_checked result s

/-- The text of `init_net_udp_events`. -/
def netText
    (platform : Platform) (ifName : CString) (pointer : Nat) : List UInt8 :=
  watcherText platform ifName pointer ++
    (foundText (platform.inetEntries ifName) ++ addressLines)

private theorem writesIf_initNetUdpEvents
    {pointer : Nat} (blocks : world.heap.length = pointer)
    (rxPort fwdPort : Int) (fwdAddr : Option CString) (necMode : Bool)
    (callback : Option EvCb) :
    WritesIf (HoldsString platform pointer)
      (Session.initNetUdpEvents platform rxPort ifName fwdAddr fwdPort
        necMode callback)
      (initNetUdpEvents platform rxPort ifName fwdAddr fwdPort necMode
        callback)
      world (netText platform ifName pointer) := by
  rw [← blocks]
  apply (writesIf_initRxUdpEvents callback rxPort).andThen
  intro s _ _
  apply (writes_initIfSockaddrIn rxPort).bind
  intro localAddr _ _
  apply Writes.silently
  intro fd _ _
  rw [← List.append_nil addressLines]
  apply (writes_initSockaddrIn fwdAddr fwdPort).bind
  intro forwardingAddr _ _
  apply writes_get
  intro _
  apply Writes.silently
  intro _ last _
  exact writes_pure s last

/-- The text of `init_app_udp_events`. -/
def appText
    (platform : Platform) (ifName : CString) (pointer : Nat) : List UInt8 :=
  watcherText platform ifName pointer ++
    (foundText (platform.inetEntries ifName) ++
      (utf8 "saio do open_broadcast_udp_socket\n" ++
        utf8 "init_app_udp_events\n"))

private theorem writesIf_initAppUdpEvents
    {pointer : Nat} (blocks : world.heap.length = pointer)
    (rxPort fwdPort : Int) (callback : Option EvCb) :
    WritesIf (HoldsString platform pointer)
      (Session.initAppUdpEvents platform rxPort ifName fwdPort callback)
      (initAppUdpEvents platform rxPort ifName fwdPort callback)
      world (appText platform ifName pointer) := by
  rw [← blocks]
  apply (writesIf_initRxUdpEvents callback rxPort).andThen
  intro s _ _
  apply (writes_initIfSockaddrIn fwdPort).bind
  intro localAddr _ _
  apply (writes_openBroadcastUdpSocket fwdPort).bind
  intro fd _ _
  apply Writes.silently
  intro forwardingAddr _ _
  apply writes_get
  intro _
  apply Writes.silently
  intro _ last _
  exact writes_write_pure _ s last

/-- The text of `init_tx_udp_events` in broadcast mode. -/
def txText
    (platform : Platform) (ifName : CString) (pointer : Nat) : List UInt8 :=
  utf8 "broadcast\n" ++
    (utf8 ">>> Opening TX socket in broadcast mode." ++
    (utf8 "saio do open_broadcast_udp_socket\n" ++
    (utf8 "entro en init_watcher desde init_tx_udp_events\n" ++
    (watcherText platform ifName pointer ++
    (utf8 "non hai erro no init_watcher\n" ++
      utf8 "saio do init_tx_udp_events\n")))))

private theorem heap_openBroadcastUdpSocket
    {port fd : Int} {next : World}
    (run : openBroadcastUdpSocket platform ifName port world =
      .ok fd next) :
    next.heap = world.heap :=
  heap_of_wp (fun _ => StartFault platform ifName)
    (wp_openBroadcastUdpSocket fun _ => rfl) run

private theorem writesIf_initTxUdpEvents
    {pointer : Nat} (blocks : world.heap.length = pointer)
    (port : Int) (callback : Option EvCb) :
    WritesIf (HoldsString platform pointer)
      (Session.initTxUdpEvents platform ifName port callback true)
      (initTxUdpEvents platform ifName port callback true)
      world (txText platform ifName pointer) := by
  simp only [Session.initTxUdpEvents, initTxUdpEvents, if_true]
  apply WritesIf.silently
  intro s _ created
  rw [← blocks, ← heap_newUdpEvents created, txText]
  apply WritesIf.write
  apply WritesIf.write
  apply (writes_openBroadcastUdpSocket port).bindIf
  intro fd _ opened
  rw [← heap_openBroadcastUdpSocket opened]
  apply WritesIf.write
  apply (writesIf_initWatcher _ callback port).andThen
  rintro ⟨result, s⟩ last _
  dsimp only
  by_cases negative : result < 0
  · rw [if_pos negative, if_pos negative]
    exact fun out => ⟨out, rfl⟩
  · rw [if_neg negative, if_neg negative,
      ← List.append_nil (utf8 "saio do init_tx_udp_events\n")]
    apply Writes.write
    apply Writes.write
    apply Writes.silently
    intro _ after _
    exact writes_pure s after

/-! ## `main` -/

/-- The text of `print_udp_events`. -/
def udpEventsText (socketFd rxPort fwdPort : Int) : List UInt8 :=
  utf8 "\x7b\n" ++
    (fieldText "\t* rx_port = " (signedText 1 rxPort) ++
      (fieldText "\t* fw_port = " (signedText 1 fwdPort) ++
        (fieldText "\t* sock_fd = " (signedText 1 socketFd) ++
          utf8 "\x7d\n")))

private theorem writes_printUdpEvents (m : UdpEvents) (rxPort fwdPort : Int) :
    Writes (Session.printUdpEvents platform m rxPort fwdPort) (pure ()) world
      (udpEventsText (platform.descriptor m.socketFd) rxPort fwdPort) := by
  iterate 4 apply Writes.write
  exact writes_write _ world

variable {opts : List Opt} {settings : Settings}

private theorem writes_loadConfiguration (opts : List Opt) :
    Writes (Session.loadConfiguration platform opts)
      (loadConfiguration platform opts) world
      (linesText (opts.flatMap Opt.warnings)) := by
  rw [Session.loadConfiguration, loadConfiguration]
  apply Writes.silently
  intro fails next _
  cases fails with
  | true => exact fun out => ⟨out, rfl⟩
  | false =>
      have writes : Writes (Session.createConfiguration opts) _ next _ :=
        writes_createConfiguration opts
      simp only [Bool.false_eq_true, if_false]
      cases created : createConfiguration opts with
      | error reason =>
          rw [created] at writes
          intro out
          rcases writes.stopped rfl out with ⟨later, stopped⟩
          exact ⟨later, bind_error _ stopped⟩
      | ok settings =>
          rw [created] at writes
          intro out
          exact bind_ok _ (writes.returned rfl out)

/-- The text of the relay mode of `main`. -/
def relayText (platform : Platform) (cfg : Configuration) : List UInt8 :=
  utf8 ">>> Opening UDP NET RX socket...\n" ++
    (netText platform cfg.ifName.text 0 ++
    (utf8 ">>> UDP NET RX socket open!\n" ++
    (udpEventsText (platform.descriptor 0) cfg.rxPort cfg.appTxPort ++
    (utf8 ">>> Opening UDP APP RX socket...\n" ++
    (appText platform cfg.ifName.text 1 ++
    (utf8 ">>> UDP APP RX socket open!\n" ++
      udpEventsText (platform.descriptor 2) cfg.appRxPort cfg.txPort))))))

/-- The process after `create_configuration`. -/
private abbrev afterConfiguration
    (settings : Settings) (stdin : Stdin) : World :=
  { World.initial stdin with
    calls := 1
    verbose := settings.verbose }

private theorem writesIf_startRelay
    (settings : Settings) (stdin : Stdin) :
    WritesIf (HoldsString platform 0 ∧ HoldsString platform 1)
      (Session.startRelay platform settings.cfg)
      (startRelay platform settings.cfg)
      (afterConfiguration settings stdin)
      (relayText platform settings.cfg) := by
  apply WritesIf.write
  apply (writesIf_initNetUdpEvents (by rfl) _ _ _ _ _).bind
  intro net next started
  have netKnown :
      wp (fun _ => StartFault platform settings.cfg.ifName.text)
        (initNetUdpEvents platform settings.cfg.rxPort
          settings.cfg.ifName.text settings.cfg.appAddress
          settings.cfg.appTxPort settings.cfg.necMode
          (some .cbForwardRecvfrom))
        (fun m next => m.socketFd = 0 ∧ next.heap.length = 1 ∧
          next.sockets.length = 2)
        (afterConfiguration settings stdin) :=
    wp_initNetUdpEvents fun _ _ _ _ => ⟨rfl, rfl, rfl⟩
  obtain ⟨netFd, blocks, sockets⟩ := post_of_returned netKnown started
  apply WritesIf.write
  rw [← netFd]
  apply WritesIf.prints (writes_printUdpEvents net _ _)
  apply WritesIf.write
  apply (writesIf_initAppUdpEvents blocks _ _ _).andThen
  intro app last appStarted
  have appKnown :
      wp (fun _ => StartFault platform settings.cfg.ifName.text)
        (initAppUdpEvents platform settings.cfg.appRxPort
          settings.cfg.ifName.text settings.cfg.txPort
          (some .cbBroadcastRecvfrom))
        (fun m _ => m.socketFd = World.handle next.sockets.length)
        next :=
    wp_initAppUdpEvents fun _ _ => rfl
  have appFd : app.socketFd = 2 := by
    have socketFd := post_of_returned appKnown appStarted
    rw [sockets] at socketFd
    exact socketFd
  apply Writes.write
  rw [← appFd, ← List.append_nil (udpEventsText ..)]
  exact (writes_printUdpEvents app _ _).prints (writes_pure _ last)

/-- The text of `main` up to the call of `ev_loop`. -/
def startText
    (platform : Platform) (opts : List Opt) (cfg : Configuration) :
    List UInt8 :=
  utf8 ">>> Reading configuration...\n" ++
    (linesText (opts.flatMap Opt.warnings) ++
      (utf8 ">>> Configuration read! Printing data...\n" ++
        (configurationText cfg ++ relayText platform cfg)))

theorem writesIf_main
    (accepted : createConfiguration opts = .ok settings)
    (stdin : Stdin) :
    WritesIf (HoldsString platform 0 ∧ HoldsString platform 1)
      (Session.main platform opts) (main platform opts)
      (World.initial stdin) (startText platform opts settings.cfg) := by
  apply WritesIf.write
  apply (writes_loadConfiguration opts).bindIf
  intro cfg next loaded
  have known :
      wp (fun _ => True) (loadConfiguration platform opts)
        (fun cfg next => cfg = settings.cfg ∧
          next = afterConfiguration settings stdin)
        (World.initial stdin) := by
    apply wp_loadConfiguration
    · exact fun _ _ => trivial
    · exact fun _ _ => trivial
    · intro other created
      rw [accepted] at created
      cases created
      exact ⟨rfl, rfl⟩
  obtain ⟨rfl, rfl⟩ := post_of_returned known loaded
  apply WritesIf.write
  apply WritesIf.prints (writes_printConfiguration settings.cfg)
  by_cases transmission : settings.cfg.txTest = true
  · simp only [if_pos transmission]
    apply WritesIf.of_stops _ _ And.left
    · exact txText platform settings.cfg.ifName.text 0 ++ []
    · apply (writesIf_initTxUdpEvents (by rfl) _ _).andThen
      intro net last _
      exact fun out => ⟨_, rfl⟩
    · -- `app_events` is `NULL`
      intro loop last returned
      cases started :
          initTxUdpEvents platform settings.cfg.ifName.text
            settings.cfg.txPort (some .cbBroadcastSendto) true
            (afterConfiguration settings stdin) with
      | ok net next =>
          rw [bind_ok _ started] at returned
          cases returned
      | error reason stopped =>
          rw [bind_error _ started] at returned
          cases returned
  · simp only [if_neg transmission]
    rw [← List.append_nil (relayText ..)]
    apply (writesIf_startRelay settings stdin).andThen
    rintro ⟨net, app⟩ last _
    apply Writes.silently
    intro events after _
    exact writes_pure events.loop after

/-- `main` enters the event loop, in the state it would have without output,
exactly if in addition both receive buffers hold a string, although nothing
was stored there; it has then printed one known text. -/
theorem main_prints_iff
    (accepted : createConfiguration opts = .ok settings)
    (stdin : Stdin) {loop : Option EvLoop} {text : List UInt8} :
    Session.main platform opts (World.initial stdin, []) =
        .ok loop (world, text) ↔
      main platform opts (World.initial stdin) = .ok loop world ∧
        (HoldsString platform 0 ∧ HoldsString platform 1) ∧
        startText platform opts settings.cfg = text :=
  (writesIf_main accepted stdin).returned_iff

theorem holdsString_workingHost (pointer : Nat) :
    HoldsString workingHost pointer :=
  List.mem_map.mpr ⟨0, List.mem_range.mpr (by decide), rfl⟩

theorem holdsStrings_workingHost :
    HoldsString workingHost 0 ∧ HoldsString workingHost 1 :=
  ⟨holdsString_workingHost 0, holdsString_workingHost 1⟩

/-- A start of the relay on a working host, without output. -/
private theorem exists_start_workingHost :
    ∃ loop world,
      main workingHost relayOptions (World.initial .silent) =
        .ok loop world := by
  apply main_returns createConfiguration_relayOptions rfl
  exact not_startFault createConfiguration_relayOptions
    hasInetEntry_workingHost succeeds_workingHost

theorem main_prints_workingHost :
    ∃ loop world,
      Session.main workingHost relayOptions (World.initial .silent, []) =
        .ok loop
          (world, startText workingHost relayOptions relaySettings.cfg) := by
  obtain ⟨loop, world, returned⟩ := exists_start_workingHost
  exact ⟨loop, world, (main_prints_iff createConfiguration_relayOptions
    .silent).mpr ⟨returned, holdsStrings_workingHost, rfl⟩⟩

/-! ## Whether the event loop is entered -/

/-- Where libev has its default loop and the interface an address, `main`
enters the event loop exactly if none of its calls fails and both receive
buffers hold a string.  The state it enters the loop in and its text are
known. -/
theorem main_enters_loop_iff
    (libev : platform.evDefault = some .evDefault)
    (accepted : createConfiguration opts = .ok settings)
    (relay : settings.cfg.txTest = false)
    (entry : HasInetEntry platform settings.cfg.ifName.text)
    (stdin : Stdin) :
    ((∃ loop world text,
        Session.main platform opts (World.initial stdin, []) =
          .ok loop (world, text)) ↔
      (∀ call < startupCalls platform settings.cfg.ifName.text,
          platform.fails call = false) ∧
        HoldsString platform 0 ∧ HoldsString platform 1) ∧
    ∀ loop world text,
      Session.main platform opts (World.initial stdin, []) =
          .ok loop (world, text) →
        loop = some .evDefault ∧
          world = startedWorld platform settings stdin ∧
          text = startText platform opts settings.cfg := by
  have follows :
      WritesIf _ (Session.main platform opts) _ _ _ :=
    writesIf_main accepted stdin
  refine ⟨⟨?_, ?_⟩, ?_⟩
  · rintro ⟨loop, world, text, run⟩
    obtain ⟨returned, strings, -⟩ := follows.returned_iff.mp run
    exact ⟨(startedWorld_of_returned accepted returned).1, strings⟩
  · rintro ⟨succeeded, strings⟩
    have starts :=
      main_startedWorld libev accepted relay entry stdin succeeded
    exact ⟨_, _, _,
      follows.returned_iff.mpr ⟨starts, strings, rfl⟩⟩
  · intro loop world text run
    obtain ⟨returned, -, rfl⟩ := follows.returned_iff.mp run
    obtain ⟨-, rfl, rfl⟩ := startedWorld_of_returned accepted returned
    exact ⟨rfl, rfl, rfl⟩

theorem main_enters_loop_workingHost_iff :
    (∃ loop world text,
      Session.main workingHost relayOptions (World.initial .silent, []) =
        .ok loop (world, text)) ↔
      (∀ call < startupCalls workingHost relaySettings.cfg.ifName.text,
          workingHost.fails call = false) ∧
        HoldsString workingHost 0 ∧ HoldsString workingHost 1 :=
  (main_enters_loop_iff rfl createConfiguration_relayOptions rfl
    hasInetEntry_workingHost .silent).1

/-- Start-up stops right after the first of its calls that fails, whichever
it is: with a fault if it is the unchecked allocation of the configuration,
and with an error exit otherwise.  Nothing was sent or read by then.  With
its output it stops alike, if both receive buffers hold a string. -/
theorem main_stops_at_first_failure
    (libev : platform.evDefault = some .evDefault)
    (accepted : createConfiguration opts = .ok settings)
    (relay : settings.cfg.txTest = false)
    (entry : HasInetEntry platform settings.cfg.ifName.text)
    (stdin : Stdin) {first : Nat}
    (within : first < startupCalls platform settings.cfg.ifName.text)
    (failed : platform.fails first = true)
    (succeeded : ∀ call < first, platform.fails call = false) :
    ∃ stopped,
      main platform opts (World.initial stdin) =
          .error (if first = 0 then .segmentationFault else .exitFailure)
            stopped ∧
        (HoldsString platform 0 ∧ HoldsString platform 1 →
          ∃ text,
            Session.main platform opts (World.initial stdin, []) =
              .error
                (if first = 0 then .segmentationFault else .exitFailure)
                (stopped, text)) ∧
        stopped.calls = first + 1 ∧ stopped.sent = [] ∧
        stopped.stdin = stdin := by
  obtain ⟨stopped, stops, calls, kept⟩ :=
    main_error libev accepted relay entry stdin within failed succeeded
  rcases Prod.mk.inj kept with ⟨sent, input⟩
  refine ⟨stopped, stops, ?_, calls, sent, input⟩
  intro strings
  have writes := (writesIf_main accepted stdin).writes strings
  exact writes.stopped stops []

/-- A host on which only the last call of start-up fails. -/
def exhaustedHost : Platform :=
  { workingHost with fails := fun call => call = 39 }

theorem main_stops_exhaustedHost :
    ∃ stopped text,
      Session.main exhaustedHost relayOptions
            (World.initial ⟨[10], false⟩, []) =
          .error .exitFailure (stopped, text) ∧
        stopped.calls = 40 ∧ stopped.sent = [] ∧
        stopped.stdin = ⟨[10], false⟩ := by
  have entry :
      HasInetEntry exhaustedHost relaySettings.cfg.ifName.text :=
    ⟨hasInetEntry_workingHost.found, hasInetEntry_workingHost.named⟩
  have last :
      39 < startupCalls exhaustedHost relaySettings.cfg.ifName.text := by
    decide
  have succeeded : ∀ call < 39, exhaustedHost.fails call = false := by
    decide
  obtain ⟨stopped, -, alike, kept⟩ :=
    main_stops_at_first_failure rfl createConfiguration_relayOptions rfl
      entry ⟨[10], false⟩ last rfl succeeded
  obtain ⟨text, stops⟩ := alike holdsStrings_workingHost
  exact ⟨stopped, text, stops, kept⟩

/-! ## Reading the text -/

private theorem marked_warnings (opts : List Opt) :
    ∀ line ∈ opts.flatMap Opt.warnings,
      line.head? = some 91 ∧ 10 ∉ line := by
  intro line member
  rcases List.mem_flatMap.mp member with ⟨opt, -, listed⟩
  cases opt with
  | ifname optarg =>
      rw [Opt.warnings] at listed
      split at listed
      · rw [List.mem_singleton.mp listed, cutWarning]
        refine ⟨rfl, ?_⟩
        simp only [List.mem_append, not_or]
        exact ⟨by decide, newline_not_mem_signedText _ _, by decide,
          newline_not_mem_signedText _ _, by decide⟩
      · cases listed
  | _ => cases listed

/-- The text of start-up decides the settings, whatever is behind it, if the
application addresses hold no newline. -/
theorem startText_append_inj
    {otherPlatform : Platform} {otherOpts : List Opt} {other : Settings}
    {rest more : List UInt8}
    (accepted : createConfiguration opts = .ok settings)
    (otherAccepted : createConfiguration otherOpts = .ok other)
    (oneLine : 10 ∉ stringText settings.cfg.appAddress)
    (otherOneLine : 10 ∉ stringText other.cfg.appAddress)
    (same : startText platform opts settings.cfg ++ rest =
      startText otherPlatform otherOpts other.cfg ++ more) :
    settings = other ∧
      relayText platform settings.cfg ++ rest =
        relayText otherPlatform other.cfg ++ more := by
  have bare (tail : List UInt8) :
      (utf8 ">>> Configuration read! Printing data...\n" ++ tail).head? ≠
        some 91 := by
    have first :
        (utf8 ">>> Configuration read! Printing data...\n" ++ tail).head? =
          some 62 :=
      rfl
    rw [first]
    decide
  simp only [startText, List.append_assoc] at same
  rcases marked_lines_inj (marked_warnings opts) (marked_warnings otherOpts)
      (bare _) (bare _) (List.append_cancel_left same) with ⟨-, tails⟩
  exact configurationText_inj accepted otherAccepted oneLine otherOneLine
    (List.append_cancel_left tails)

/-- What start-up prints tells the configuration, whatever the two hosts and
command lines are and whatever is printed later on, if the application
addresses hold no newline. -/
theorem settings_of_startText
    {otherPlatform : Platform} {otherOpts : List Opt} {other : Settings}
    {stdin otherStdin : Stdin} {text otherText rest more : List UInt8}
    {loop otherLoop : Option EvLoop} {otherWorld : World}
    (accepted : createConfiguration opts = .ok settings)
    (otherAccepted : createConfiguration otherOpts = .ok other)
    (run : Session.main platform opts (World.initial stdin, []) =
      .ok loop (world, text))
    (otherRun :
      Session.main otherPlatform otherOpts (World.initial otherStdin, []) =
        .ok otherLoop (otherWorld, otherText))
    (oneLine : 10 ∉ stringText settings.cfg.appAddress)
    (otherOneLine : 10 ∉ stringText other.cfg.appAddress)
    (same : text ++ rest = otherText ++ more) :
    settings = other := by
  obtain ⟨-, -, rfl⟩ := (writesIf_main accepted stdin).returned_iff.mp run
  obtain ⟨-, -, rfl⟩ :=
    (writesIf_main otherAccepted otherStdin).returned_iff.mp otherRun
  exact (startText_append_inj accepted otherAccepted oneLine otherOneLine
    same).1

theorem settings_of_startText_relayOptions :
    ∃ loop world text,
      Session.main workingHost relayOptions (World.initial .silent, []) =
          .ok loop (world, text) ∧
        ∀ (otherOpts : List Opt) (other : Settings)
          (otherLoop : Option EvLoop) (otherWorld : World)
          (more : List UInt8),
          createConfiguration otherOpts = .ok other →
          10 ∉ stringText other.cfg.appAddress →
          Session.main workingHost otherOpts (World.initial .silent, []) =
              .ok otherLoop (otherWorld, text ++ more) →
            relaySettings = other := by
  obtain ⟨loop, world, returned⟩ := exists_start_workingHost
  have run :
      Session.main workingHost relayOptions (World.initial .silent, []) =
        .ok loop
          (world, startText workingHost relayOptions relaySettings.cfg) :=
    (writesIf_main createConfiguration_relayOptions .silent).returned_iff.mpr
      ⟨returned, holdsStrings_workingHost, rfl⟩
  refine ⟨loop, world, _, run, ?_⟩
  intro otherOpts other otherLoop otherWorld more accepted oneLine otherRun
  exact settings_of_startText createConfiguration_relayOptions accepted run
    otherRun (by decide) oneLine (List.append_nil _).symm

end UdpipBroadcaster
