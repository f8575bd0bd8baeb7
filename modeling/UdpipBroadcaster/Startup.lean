import UdpipBroadcaster.Main
import UdpipBroadcaster.OptionProcessing
import UdpipBroadcaster.SourceClassification

/-!
# Start-up

Every function called before `ev_loop` returns one known result and changes
the process in one known way, unless a call fails or the interface has no
usable address.  Which call fails is not fixed, so that only the count of
the calls made so far is left open.
-/

namespace UdpipBroadcaster

open Programs

/-! ## What can go wrong -/

namespace Ifaddrs

/-- The entry is an IPv4 entry of the named interface. -/
def IsInet (ifa : Ifaddrs) (ifName : CString) (addr : SockaddrIn) : Prop :=
  ifa.ifaName = ifName ∧ ifa.ifaAddr = some addr ∧ addr.sinFamily = afInet

end Ifaddrs

/-- The named interface has an IPv4 entry. -/
def Platform.ListsInet (platform : Platform) (ifName : CString) : Prop :=
  ∃ ifa ∈ platform.ifaddrs, ∃ addr, ifa.IsInet ifName addr

/-- The named interface has an IPv4 entry, and the numeric text of each of
its IPv4 addresses is available. -/
structure HasInetEntry (platform : Platform) (ifName : CString) : Prop where
  found : platform.ListsInet ifName
  named : ∀ ifa ∈ platform.ifaddrs, ∀ addr, ifa.IsInet ifName addr →
    platform.getnameinfo addr ≠ none

/-- What makes the lookup of an interface stop. -/
def LookupFault (platform : Platform) (ifName : CString) : Prop :=
  (∃ call, platform.fails call = true) ∨ ¬ HasInetEntry platform ifName

/-- What makes start-up stop: a failing call, an interface without a usable
IPv4 entry, an interface name that is too long, or libev without a loop. -/
def StartFault (platform : Platform) (ifName : CString) : Prop :=
  (∃ call, platform.fails call = true) ∨
    ¬ HasInetEntry platform ifName ∨ ifNamesize < strlen ifName ∨
      platform.evDefault = none

/-- Every call succeeds, and libev has its default loop. -/
structure Platform.Succeeds (platform : Platform) : Prop where
  calls : ∀ call, platform.fails call = false
  loop : platform.evDefault ≠ none

theorem LookupFault.startFault
    {platform : Platform} {ifName : CString}
    (fault : LookupFault platform ifName) : StartFault platform ifName :=
  fault.imp_right .inl

/-- A host whose calls all succeed, with `192.168.1.5` on `eth0`.  libev
opens descriptors of its own behind the first socket. -/
def workingHost : Platform where
  fails := fun _ => false
  mallocAddress := fun call => 0x55550000 + 16 * UInt64.ofNat call
  mallocContents := fun _ _ => 0
  ephemeralPort := fun _ => 40000
  descriptor := fun fd => if fd = 0 then 3 else fd + 5
  evDefault := some .evDefault
  ifaddrs :=
    [⟨interfaceText, some ⟨afInet, 0, quadAddress 192 168 1 5⟩⟩]
  getnameinfo := fun _ => some (dottedQuad 192 168 1 5)

theorem succeeds_workingHost : workingHost.Succeeds where
  calls := fun _ => rfl
  loop := by decide

theorem hasInetEntry_workingHost :
    HasInetEntry workingHost relaySettings.cfg.ifName.text where
  found :=
    ⟨_, List.mem_singleton.mpr rfl, _, by decide, rfl, rfl⟩
  named := by
    intro ifa member addr isInet
    simp [workingHost]

variable {platform : Platform} {ifName : CString} {world : World}

section Specifications

/-! ## Calls and memory -/

@[simp]
private theorem wp_callFails
    {stops : Stop → Prop} (post : Bool → World → Prop) :
    wp stops (callFails platform) post world ↔
      post (platform.fails world.calls)
        { world with calls := world.calls + 1 } :=
  Iff.rfl

theorem wp_mallocStructure
    {stops : Stop → Prop} {post : Unit → World → Prop}
    (noMemory : (∃ call, platform.fails call = true) → stops .exitFailure)
    (continues : post () { world with calls := world.calls + 1 }) :
    wp stops (mallocStructure platform) post world := by
  simp only [mallocStructure, handleSysError, wp_bind, wp_callFails, wp_ite,
    wp_throw, wp_pure]
  exact ⟨fun fails => noMemory ⟨world.calls, fails⟩, fun _ => continues⟩

private theorem wp_deref
    {α : Type} {stops : Stop → Prop} {pointer : Option α}
    {post : α → World → Prop}
    (null : pointer = none → stops .segmentationFault)
    (continues : ∀ value, pointer = some value → post value world) :
    wp stops (deref pointer) post world := by
  cases pointer with
  | none => exact null rfl
  | some value => exact continues value rfl

/-- The contents of the block `mallocBuffer` appends. -/
def freshBlock (platform : Platform) (pointer size : Nat) : List UInt8 :=
  (List.range size).map (platform.mallocContents pointer)

@[simp]
theorem length_freshBlock (pointer size : Nat) :
    (freshBlock platform pointer size).length = size := by
  simp [freshBlock]

theorem wp_mallocBuffer
    {size : Nat} {post : Nat → World → Prop}
    (continues : ∀ n, post world.heap.length
      { world with
        calls := n
        heap := world.heap ++
          [freshBlock platform world.heap.length size] }) :
    wp (fun _ => StartFault platform ifName) (mallocBuffer platform size)
      post world := by
  simp only [mallocBuffer, handleSysError, wp_bind, wp_callFails, wp_ite,
    wp_throw, wp_pure, wp_get, wp_set]
  exact ⟨fun fails => .inl ⟨world.calls, fails⟩, fun _ => continues _⟩

theorem modify_length_append
    {α : Type} (front : List α) (item : α) (f : α → α) :
    (front ++ [item]).modify front.length f = front ++ [f item] := by
  induction front with
  | nil => rfl
  | cons head tail inductionHypothesis =>
      simpa using inductionHypothesis

/-- An update of the arguments allocated last. -/
private theorem wp_updateArg
    {stops : Stop → Prop} {args : List EvIoArg} {arg : EvIoArg}
    {update : EvIoArg → EvIoArg} {post : Unit → World → Prop}
    (shape : world.args = args ++ [arg])
    (continues : post ()
      { world with args := args ++ [update arg] }) :
    wp stops (updateArg (some args.length) update) post world := by
  simp only [updateArg, deref, wp_bind, wp_pure, wp_modify]
  rw [shape, modify_length_append]
  exact continues

/-! ## Addresses -/

section NewAddress

variable {stops : Stop → Prop}
  (noMemory : (∃ call, platform.fails call = true) → stops .exitFailure)

include noMemory

private theorem wp_newSockaddrIn
    {post : SockaddrIn → World → Prop}
    (continues :
      post SockaddrIn.zero { world with calls := world.calls + 1 }) :
    wp stops (newSockaddrIn platform) post world := by
  simp only [newSockaddrIn, wp_bind]
  exact wp_mallocStructure noMemory continues

theorem wp_initSockaddrIn
    {address : Option CString} {port : Int}
    {post : SockaddrIn → World → Prop}
    (continues : post ⟨afInet, htons (toUInt16 port), 0⟩
      { world with calls := world.calls + 1 }) :
    wp stops (initSockaddrIn platform address port) post world := by
  simp only [initSockaddrIn, wp_bind]
  exact wp_newSockaddrIn noMemory continues

theorem wp_initBroadcastSockaddrIn
    {port : Int} {post : SockaddrIn → World → Prop}
    (continues :
      post ⟨afInet, htons (toUInt16 port), htonl inaddrBroadcast⟩
        { world with calls := world.calls + 1 }) :
    wp stops (initBroadcastSockaddrIn platform port) post world := by
  simp only [initBroadcastSockaddrIn, wp_bind]
  exact wp_newSockaddrIn noMemory continues

theorem wp_initAnySockaddrIn
    {port : Int} {post : SockaddrIn → World → Prop}
    (continues :
      post ⟨afInet, htons (toUInt16 port), htonl inaddrAny⟩
        { world with calls := world.calls + 1 }) :
    wp stops (initAnySockaddrIn platform port) post world := by
  simp only [initAnySockaddrIn, wp_bind]
  exact wp_newSockaddrIn noMemory continues

end NewAddress

/-- The address every interface lookup returns: the one found is dropped. -/
def lookedUp (port : Int) : SockaddrIn :=
  ⟨afInet, htons (toUInt16 port), 0⟩

/-- The loop over the interface list: it ends with the address of the last
matching entry, or with what it started from if there is none. -/
private theorem wp_initIfSockaddrInLoop
    {stops : Stop → Prop} {port : Int}
    {post : Option SockaddrIn × Bool → World → Prop}
    (fault : LookupFault platform ifName → stops .exitFailure)
    (entries : List Ifaddrs)
    (listed : ∀ ifa ∈ entries, ifa ∈ platform.ifaddrs)
    (s : Option SockaddrIn) (ifFound : Bool)
    (foundNow : ∀ n, (∃ ifa ∈ entries, ∃ addr, ifa.IsInet ifName addr) →
      (∀ ifa ∈ entries, ∀ addr, ifa.IsInet ifName addr →
        platform.getnameinfo addr ≠ none) →
      post (some (lookedUp port), true) { world with calls := n })
    (foundNone : ∀ n,
      (¬ ∃ ifa ∈ entries, ∃ addr, ifa.IsInet ifName addr) →
        post (s, ifFound) { world with calls := n }) :
    wp stops (initIfSockaddrInLoop platform ifName port entries s ifFound)
      post world := by
  induction entries generalizing s ifFound world with
  | nil =>
      exact foundNone world.calls (by simp)
  | cons ifa rest inductionHypothesis =>
      have listedRest : ∀ later ∈ rest, later ∈ platform.ifaddrs :=
        fun later member => listed later (by simp [member])
      have skip (differs : ¬ ∃ addr, ifa.IsInet ifName addr) :
          wp stops (initIfSockaddrInLoop platform ifName port rest s ifFound)
            post world := by
        apply inductionHypothesis listedRest
        · intro n listed named
          rcases listed with ⟨later, member, addr, isInet⟩
          refine foundNow n ⟨later, by simp [member], addr, isInet⟩ ?_
          intro other listedOther addr isInet
          rcases List.mem_cons.mp listedOther with same | tail
          · exact (differs ⟨addr, same ▸ isInet⟩).elim
          · exact named other tail addr isInet
        · intro n none
          apply foundNone n
          intro listed
          rcases listed with ⟨later, member, addr, isInet⟩
          rcases List.mem_cons.mp member with same | tail
          · exact differs ⟨addr, same ▸ isInet⟩
          · exact none ⟨later, tail, addr, isInet⟩
      rw [initIfSockaddrInLoop]
      cases shape : ifa.ifaAddr with
      | none =>
          apply skip
          intro entry
          rcases entry with ⟨addr, _, isSome, _⟩
          rw [shape] at isSome
          cases isSome
      | some addr =>
          simp only [wp_ite, wp_bind, handleAppError, wp_throw]
          constructor
          · intro entry
            rcases entry with ⟨sameName, family⟩
            have isInet : ifa.IsInet ifName addr :=
              ⟨sameName, shape, family⟩
            constructor
            · intro noName
              apply fault
              right
              intro hasEntry
              exact hasEntry.named ifa (listed ifa (by simp)) addr isInet
                noName
            · intro named
              have stays (m : Nat)
                  (namedRest : ∀ later ∈ rest, ∀ addr,
                    later.IsInet ifName addr →
                      platform.getnameinfo addr ≠ none) :
                  post (some (lookedUp port), true)
                    { world with calls := m } := by
                refine foundNow m ⟨ifa, by simp, addr, isInet⟩ ?_
                intro later listedLater other isInetLater
                rcases List.mem_cons.mp listedLater with rfl | tail
                · rw [isInetLater.2.1] at shape
                  cases shape
                  exact named
                · exact namedRest later tail other isInetLater
              apply wp_initSockaddrIn (fault ∘ .inl)
              apply inductionHypothesis listedRest
              · intro m _ namedRest
                exact stays m namedRest
              · intro m none
                apply stays m
                intro later tail other isInetLater
                exact (none ⟨later, tail, other, isInetLater⟩).elim
          · intro differs
            apply skip
            intro entry
            rcases entry with ⟨other, sameName, isSome, family⟩
            rw [shape] at isSome
            cases isSome
            exact differs ⟨sameName, family⟩

theorem wp_initIfSockaddrIn
    {stops : Stop → Prop} {port : Int}
    {post : Option SockaddrIn → World → Prop}
    (fault : LookupFault platform ifName → stops .exitFailure)
    (continues : ∀ n, HasInetEntry platform ifName →
      post (some (lookedUp port)) { world with calls := n }) :
    wp stops (initIfSockaddrIn platform ifName port) post world := by
  simp only [initIfSockaddrIn, handleSysError, handleAppError, wp_bind,
    wp_callFails, wp_ite, wp_throw]
  refine ⟨fun fails => fault (.inl ⟨world.calls, fails⟩), fun _ => ?_⟩
  apply wp_initIfSockaddrInLoop fault
  · exact fun _ member => member
  · intro n found named
    exact ⟨fun notFound => Bool.noConfusion notFound,
      fun _ => continues n ⟨found, named⟩⟩
  · intro n none
    exact ⟨fun _ => fault (.inr fun hasEntry => none hasEntry.found),
      fun found => absurd rfl found⟩

/-! ## Checked results

The three results a check for a negative value meets. -/

private theorem checked_error {fault rest : Prop} (holds : fault) :
    ((-1 : Int) < 0 → fault) ∧ (¬ (-1 : Int) < 0 → rest) :=
  ⟨fun _ => holds, fun positive => absurd (by decide) positive⟩

private theorem checked_zero {fault rest : Prop} (holds : rest) :
    ((0 : Int) < 0 → fault) ∧ (¬ (0 : Int) < 0 → rest) :=
  ⟨fun negative => absurd negative (by decide), fun _ => holds⟩

private theorem checked_handle
    {fault rest : Prop} (index : Nat) (holds : rest) :
    (World.handle index < 0 → fault) ∧
      (¬ World.handle index < 0 → rest) := by
  refine ⟨fun negative => ?_, fun _ => holds⟩
  exact absurd negative (Int.not_lt.mpr (Int.natCast_nonneg index))

/-! ## Sockets -/

private theorem wp_socket
    {stops : Stop → Prop} {post : Int → World → Prop}
    (continues : post (World.handle world.sockets.length)
      { world with
        calls := world.calls + 1
        sockets := world.sockets ++ [⟨none, false, none, false⟩] })
    (failed : (∃ call, platform.fails call = true) →
      post (-1) { world with calls := world.calls + 1 }) :
    wp stops (socket platform) post world := by
  simp only [socket, wp_bind, wp_callFails, wp_ite, wp_pure, wp_get, wp_set]
  exact ⟨fun fails => failed ⟨world.calls, fails⟩, fun _ => continues⟩

/-- An update of the socket opened last. -/
private theorem wp_updateSocket
    {stops : Stop → Prop} {sockets : List UdpSocket} {opened : UdpSocket}
    {update : UdpSocket → UdpSocket} {post : Unit → World → Prop}
    (shape : world.sockets = sockets ++ [opened])
    (continues : post ()
      { world with sockets := sockets ++ [update opened] }) :
    wp stops (updateSocket (World.handle sockets.length) update)
      post world := by
  simp only [updateSocket, wp_modify]
  rw [World.toNat_handle, shape, modify_length_append]
  exact continues

private theorem wp_setsockopt
    {stops : Stop → Prop} {sockets : List UdpSocket} {opened : UdpSocket}
    {update : UdpSocket → UdpSocket} {post : Int → World → Prop}
    (shape : world.sockets = sockets ++ [opened])
    (continues : post 0
      { world with
        calls := world.calls + 1
        sockets := sockets ++ [update opened] })
    (failed : (∃ call, platform.fails call = true) →
      post (-1) { world with calls := world.calls + 1 }) :
    wp stops (setsockopt platform (World.handle sockets.length) update)
      post world := by
  simp only [setsockopt, wp_bind, wp_callFails, wp_ite, wp_pure]
  refine ⟨fun fails => failed ⟨world.calls, fails⟩, fun _ => ?_⟩
  exact wp_updateSocket shape continues

/-- The port the kernel binds a receiver to. -/
def receiverPort (platform : Platform) (fd port : Int) : UInt16 :=
  if toUInt16 port = 0 then platform.ephemeralPort fd else toUInt16 port

private theorem wp_bindSocket
    {stops : Stop → Prop} {sockets : List UdpSocket} {opened : UdpSocket}
    {port : Int} {sAddr : UInt32} {post : Int → World → Prop}
    (shape : world.sockets = sockets ++ [opened])
    (continues : post 0
      { world with
        calls := world.calls + 1
        sockets := sockets ++
          [{ opened with
            port := some (receiverPort platform
              (World.handle sockets.length) port) }] })
    (failed : (∃ call, platform.fails call = true) →
      post (-1) { world with calls := world.calls + 1 }) :
    wp stops
      (bind platform (World.handle sockets.length)
        ⟨afInet, htons (toUInt16 port), sAddr⟩)
      post world := by
  simp only [UdpipBroadcaster.bind, wp_bind, wp_callFails, wp_ite, wp_pure,
    SockaddrIn.port, ntohs_htons]
  refine ⟨fun fails => failed ⟨world.calls, fails⟩, fun _ => ?_⟩
  exact wp_updateSocket shape continues

/-- The address `malloc` returns in `new_ifreq` when a receiver is opened:
the calls before it are `socket`, the `malloc` of the local address, and
`bind`. -/
def ifreqAddress (platform : Platform) (world : World) : UInt64 :=
  platform.mallocAddress (world.calls + 3)

/-- A receiver is bound to its port; whether packet information is enabled
depends on the address of an allocation. -/
theorem wp_openReceiverUdpSocket
    {stops : Stop → Prop} {port : Int} {post : Int → World → Prop}
    (fault : (∃ call, platform.fails call = true) → stops .exitFailure)
    (continues : ∀ n, post (World.handle world.sockets.length)
      { world with
        calls := n
        sockets := world.sockets ++
          [⟨some (receiverPort platform
              (World.handle world.sockets.length) port),
            false, none, (ifreqAddress platform world).toUInt32 ≠ 0⟩] }) :
    wp stops (openReceiverUdpSocket platform port) post world := by
  simp only [openReceiverUdpSocket, setMsghdrsSocket, newIfreq,
    handleSysError, handleAppError, wp_bind, wp_ite, wp_throw, wp_pure,
    wp_get]
  apply wp_socket
  · apply checked_handle
    apply wp_initAnySockaddrIn fault
    apply wp_bindSocket rfl
    · apply checked_zero
      apply wp_mallocStructure fault
      apply wp_setsockopt rfl
      · exact checked_zero (checked_zero (continues _))
      · exact fun fails => checked_error (fault fails)
    · exact fun fails => checked_error (fault fails)
  · exact fun fails => checked_error (fault fails)

private theorem wp_openTransmitterUdpSocket
    {port : Int} {post : Int → World → Prop}
    (continues : ∀ n, post (World.handle world.sockets.length)
      { world with
        calls := n
        sockets := world.sockets ++ [⟨none, false, none, false⟩] }) :
    wp (fun _ => StartFault platform ifName)
      (openTransmitterUdpSocket platform port) post world := by
  simp only [openTransmitterUdpSocket, handleSysError, wp_bind, wp_ite,
    wp_throw, wp_pure]
  apply wp_socket
  · exact checked_handle _ (continues _)
  · exact fun fails => checked_error (.inl fails)

/-- The device name a socket is bound to. -/
def deviceName (ifName : CString) : Ifreq :=
  ⟨strncpy (CharArray.zero ifNamesize) ifName (strlen ifName)⟩

theorem wp_openBroadcastUdpSocket
    {port : Int} {post : Int → World → Prop}
    (continues : ∀ n, post (World.handle world.sockets.length)
      { world with
        calls := n
        sockets := world.sockets ++
          [⟨none, true, some (deviceName ifName), false⟩] }) :
    wp (fun _ => StartFault platform ifName)
      (openBroadcastUdpSocket platform ifName port) post world := by
  simp only [openBroadcastUdpSocket, setBroadcastSocket,
    setBindtodeviceSocket, initIfreq, newIfreq, handleSysError,
    handleAppError, wp_bind, wp_ite, wp_throw, wp_pure, wp_get]
  apply wp_socket
  · apply checked_handle
    apply wp_setsockopt rfl
    · apply checked_zero
      apply checked_zero
      apply wp_mallocStructure Or.inl
      refine ⟨fun tooLong => .inr (.inr (.inl tooLong)), fun _ => ?_⟩
      apply wp_setsockopt rfl
      · exact checked_zero (checked_zero (continues _))
      · exact fun fails => checked_error (.inl fails)
    · exact fun fails => checked_error (.inl fails)
  · exact fun fails => checked_error (.inl fails)

/-! ## Watchers -/

theorem wp_initMsgHeader
    {pointer : Nat} {post : Msghdr → World → Prop}
    (continues : ∀ n, post (freshHeader pointer)
      { world with calls := n }) :
    wp (fun _ => StartFault platform ifName)
      (initMsgHeader platform (some pointer) udpBufferLen) post world := by
  simp only [initMsgHeader, newMsgHeader, newIovec, wp_bind, wp_pure]
  apply wp_mallocStructure Or.inl
  apply wp_mallocStructure Or.inl
  apply wp_newSockaddrIn Or.inl
  apply wp_mallocStructure Or.inl
  exact continues _

theorem initMsgHeader_returned
    {pointer : Nat} {msg : Msghdr} {next : World}
    (returned :
      initMsgHeader platform (some pointer) udpBufferLen world =
        .ok msg next) :
    msg = freshHeader pointer := by
  have run :
      wp (fun _ => StartFault platform (CharArray.zero 1).text)
        (initMsgHeader platform (some pointer) udpBufferLen)
        (fun built _ => built = freshHeader pointer) world :=
    wp_initMsgHeader fun _ => rfl
  have result := post_of_returned run returned
  exact result

/-- The arguments of a watcher as `init_watcher` leaves them. -/
def watcherArg
    (fd port : Int) (callback : Option EvCb) (pointer : Nat) : EvIoArg where
  watcher := ⟨fd, evRead⟩
  cbSpecfic := callback
  publicArg :=
    { EvIoArg.zero.publicArg with
      localAddr := some (lookedUp port)
      data := some pointer
      socketFd := fd
      port := port
      msgHeader := some (freshHeader pointer) }

private theorem wp_initEvIoArg
    {m : UdpEvents} {callback : Option EvCb} {port : Int}
    {post : Nat → World → Prop}
    (continues : ∀ n, post world.args.length
      { world with
        calls := n
        heap := world.heap ++
          [freshBlock platform world.heap.length udpBufferLen]
        args := world.args ++
          [{ watcherArg m.socketFd port callback world.heap.length with
            watcher := ⟨0, 0⟩ }] }) :
    wp (fun _ => StartFault platform ifName)
      (initEvIoArg platform m callback port ifName) post world := by
  simp only [initEvIoArg, newEvIoArg, wp_bind, wp_pure, wp_get, wp_set]
  apply wp_mallocStructure Or.inl
  apply wp_updateArg rfl
  apply wp_mallocBuffer
  intro _
  apply wp_updateArg rfl
  apply wp_initIfSockaddrIn LookupFault.startFault
  intro _ _
  apply wp_updateArg rfl
  apply wp_initMsgHeader
  intro n
  apply wp_updateArg rfl
  exact continues n

/-- A watcher is only started on a loop. -/
private theorem wp_initWatcher
    {m : UdpEvents} {callback : Option EvCb} {port : Int}
    {post : Int × UdpEvents → World → Prop}
    (continues : ∀ n, platform.evDefault = some .evDefault →
      post (0, ⟨m.socketFd, some .evDefault, some world.args.length⟩)
        { world with
          calls := n
          heap := world.heap ++
            [freshBlock platform world.heap.length udpBufferLen]
          args := world.args ++
            [watcherArg m.socketFd port callback world.heap.length]
          started := world.started ++ [world.args.length] }) :
    wp (fun _ => StartFault platform ifName)
      (initWatcher platform m callback evRead port ifName) post world := by
  simp only [initWatcher, wp_bind, wp_pure, wp_modify]
  apply wp_initEvIoArg
  intro n
  apply wp_updateArg rfl
  apply wp_deref
  · exact fun noLoop => .inr (.inr (.inr noLoop))
  · intro loop found
    cases loop
    rw [found]
    exact continues n found

theorem wp_initRxUdpEvents
    {callback : Option EvCb} {port : Int} {post : UdpEvents → World → Prop}
    (continues : ∀ n pktinfo, platform.evDefault = some .evDefault →
      post
        ⟨World.handle world.sockets.length, some .evDefault,
          some world.args.length⟩
        { world with
          calls := n
          heap := world.heap ++
            [freshBlock platform world.heap.length udpBufferLen]
          sockets := world.sockets ++
            [⟨some (receiverPort platform
                (World.handle world.sockets.length) port),
              false, none, pktinfo⟩]
          args := world.args ++
            [watcherArg (World.handle world.sockets.length) port
              callback world.heap.length]
          started := world.started ++ [world.args.length] }) :
    wp (fun _ => StartFault platform ifName)
      (initRxUdpEvents platform port ifName callback) post world := by
  simp only [initRxUdpEvents, newUdpEvents, handleAppError, wp_bind, wp_ite,
    wp_throw, wp_pure]
  apply wp_mallocStructure Or.inl
  apply wp_openReceiverUdpSocket Or.inl
  intro _
  apply wp_initWatcher
  intro n libev
  exact checked_zero (continues n _ libev)

theorem wp_initNetUdpEvents
    {callback : Option EvCb} {rxPort fwdPort : Int}
    {fwdAddr : Option CString} {necMode : Bool}
    {post : UdpEvents → World → Prop}
    (continues : ∀ n pktinfo, platform.evDefault = some .evDefault →
      HasInetEntry platform ifName →
      let fd := World.handle world.sockets.length
      let arg := watcherArg fd rxPort callback world.heap.length
      post ⟨fd, some .evDefault, some world.args.length⟩
        { world with
          calls := n
          heap := world.heap ++
            [freshBlock platform world.heap.length udpBufferLen]
          sockets := world.sockets ++
            [⟨some (receiverPort platform fd rxPort), false, none,
              pktinfo⟩] ++ [⟨none, false, none, false⟩]
          args := world.args ++
            [{ arg with
              publicArg :=
                { arg.publicArg with
                  forwardingSocketFd :=
                    World.handle (world.sockets.length + 1)
                  forwardingPort := fwdPort
                  forwardingAddr := some (lookedUp fwdPort)
                  printForwardingMessage := world.verbose
                  necMode := necMode } }]
          started := world.started ++ [world.args.length] }) :
    wp (fun _ => StartFault platform ifName)
      (initNetUdpEvents platform rxPort ifName fwdAddr fwdPort necMode
        callback) post world := by
  simp only [initNetUdpEvents, wp_bind, wp_pure, wp_get]
  apply wp_initRxUdpEvents
  intro _ pktinfo libev
  apply wp_initIfSockaddrIn LookupFault.startFault
  intro _ entry
  apply wp_openTransmitterUdpSocket
  intro _
  apply wp_initSockaddrIn Or.inl
  apply wp_updateArg rfl
  simp only [List.length_append, List.length_singleton]
  exact continues _ pktinfo libev entry

theorem wp_initAppUdpEvents
    {callback : Option EvCb} {rxPort fwdPort : Int}
    {post : UdpEvents → World → Prop}
    (continues : ∀ n pktinfo,
      let fd := World.handle world.sockets.length
      let arg := watcherArg fd rxPort callback world.heap.length
      post ⟨fd, some .evDefault, some world.args.length⟩
        { world with
          calls := n
          heap := world.heap ++
            [freshBlock platform world.heap.length udpBufferLen]
          sockets := world.sockets ++
            [⟨some (receiverPort platform fd rxPort), false, none,
              pktinfo⟩] ++ [⟨none, true, some (deviceName ifName), false⟩]
          args := world.args ++
            [{ arg with
              publicArg :=
                { arg.publicArg with
                  localAddr := some (lookedUp fwdPort)
                  forwardingSocketFd :=
                    World.handle (world.sockets.length + 1)
                  forwardingAddr :=
                    some ⟨afInet, htons (toUInt16 fwdPort),
                      htonl inaddrBroadcast⟩
                  forwardingPort := fwdPort
                  printForwardingMessage := world.verbose } }]
          started := world.started ++ [world.args.length] }) :
    wp (fun _ => StartFault platform ifName)
      (initAppUdpEvents platform rxPort ifName fwdPort callback)
      post world := by
  simp only [initAppUdpEvents, wp_bind, wp_pure, wp_get]
  apply wp_initRxUdpEvents
  intro _ pktinfo _
  apply wp_initIfSockaddrIn LookupFault.startFault
  intro _ _
  apply wp_openBroadcastUdpSocket
  intro _
  apply wp_initBroadcastSockaddrIn Or.inl
  apply wp_updateArg rfl
  simp only [List.length_append, List.length_singleton]
  exact continues _ pktinfo

theorem wp_initTxUdpEvents
    {callback : Option EvCb} {port : Int} {post : UdpEvents → World → Prop}
    (continues : ∀ n,
      let fd := World.handle world.sockets.length
      post ⟨fd, some .evDefault, some world.args.length⟩
        { world with
          calls := n
          heap := world.heap ++
            [freshBlock platform world.heap.length udpBufferLen]
          sockets := world.sockets ++
            [⟨none, true, some (deviceName ifName), false⟩]
          args := world.args ++
            [watcherArg fd port callback world.heap.length]
          started := world.started ++ [world.args.length] }) :
    wp (fun _ => StartFault platform ifName)
      (initTxUdpEvents platform ifName port callback true) post world := by
  simp only [initTxUdpEvents, newUdpEvents, handleAppError, wp_bind, wp_ite,
    wp_throw, wp_pure, if_true]
  apply wp_mallocStructure Or.inl
  apply wp_openBroadcastUdpSocket
  intro _
  apply wp_initWatcher
  intro n _
  apply checked_zero
  apply wp_updateArg rfl
  exact continues n

/-! ## The relay after start-up -/

/-- The arguments of the network watcher after start-up. -/
def netArg (settings : Settings) : EvIoArg :=
  let cfg := settings.cfg
  let arg := watcherArg 0 cfg.rxPort (some .cbForwardRecvfrom) 0
  { arg with
    publicArg :=
      { arg.publicArg with
        forwardingSocketFd := 1
        forwardingPort := cfg.appTxPort
        forwardingAddr := some (lookedUp cfg.appTxPort)
        printForwardingMessage := settings.verbose
        necMode := cfg.necMode } }

/-- The arguments of the application watcher after start-up. -/
def appArg (settings : Settings) : EvIoArg :=
  let cfg := settings.cfg
  let arg := watcherArg 2 cfg.appRxPort (some .cbBroadcastRecvfrom) 1
  { arg with
    publicArg :=
      { arg.publicArg with
        localAddr := some (lookedUp cfg.txPort)
        forwardingSocketFd := 3
        forwardingAddr :=
          some ⟨afInet, htons (toUInt16 cfg.txPort), htonl inaddrBroadcast⟩
        forwardingPort := cfg.txPort
        printForwardingMessage := settings.verbose } }

/-- The process in relay mode when it enters the event loop. -/
def relayWorld
    (platform : Platform) (settings : Settings) (stdin : Stdin)
    (calls : Nat) (netPktinfo appPktinfo : Bool) : World :=
  let cfg := settings.cfg
  { calls := calls
    heap :=
      [freshBlock platform 0 udpBufferLen,
        freshBlock platform 1 udpBufferLen]
    sockets :=
      [⟨some (receiverPort platform 0 cfg.rxPort), false, none,
          netPktinfo⟩,
        ⟨none, false, none, false⟩,
        ⟨some (receiverPort platform 2 cfg.appRxPort), false, none,
          appPktinfo⟩,
        ⟨none, true, some (deviceName cfg.ifName.text), false⟩]
    args := [netArg settings, appArg settings]
    started := [0, 1]
    verbose := settings.verbose
    stdin := stdin
    sent := [] }

/-! ## `main` -/

theorem wp_loadConfiguration
    {opts : List Opt} {stdin : Stdin}
    {post : Configuration → World → Prop} {rejected : Stop → Prop}
    (noBlock : ∀ reason, platform.fails 0 = true → rejected reason)
    (refused : ∀ reason, createConfiguration opts = .error reason →
      rejected reason)
    (continues : ∀ settings, createConfiguration opts = .ok settings →
      post settings.cfg
        { World.initial stdin with
          calls := 1
          verbose := settings.verbose }) :
    wp rejected (loadConfiguration platform opts) post
      (World.initial stdin) := by
  simp only [loadConfiguration, wp_bind, wp_callFails, wp_ite, wp_throw]
  refine ⟨noBlock _, fun _ => ?_⟩
  cases created : createConfiguration opts with
  | error reason => exact refused reason created
  | ok settings => exact continues settings created

/-- The relay mode of `main`: it enters the event loop in one known state,
or start-up stops. -/
theorem wp_startRelay
    {settings : Settings} {stdin : Stdin}
    {post : UdpEvents × UdpEvents → World → Prop}
    (continues : ∀ n netPktinfo appPktinfo,
      platform.evDefault = some .evDefault →
      HasInetEntry platform settings.cfg.ifName.text → post
        (⟨0, some .evDefault, some 0⟩, ⟨2, some .evDefault, some 1⟩)
        (relayWorld platform settings stdin n netPktinfo appPktinfo)) :
    wp (fun _ => StartFault platform settings.cfg.ifName.text)
      (startRelay platform settings.cfg) post
      { World.initial stdin with
        calls := 1
        verbose := settings.verbose } := by
  simp only [startRelay, wp_bind, wp_pure]
  apply wp_initNetUdpEvents
  intro _ netPktinfo libev entry
  apply wp_initAppUdpEvents
  intro n appPktinfo
  exact continues n netPktinfo appPktinfo libev entry

/-- `main` from the start of the process, with a set of reasons to stop
that contains the faults of start-up. -/
private theorem wp_main
    {opts : List Opt} {stdin : Stdin}
    {post : Option EvLoop → World → Prop} {rejected : Stop → Prop}
    (fault : ∀ reason, platform.fails 0 = true → rejected reason)
    (refused : ∀ reason, createConfiguration opts = .error reason →
      rejected reason)
    (startFault : ∀ settings, createConfiguration opts = .ok settings →
      StartFault platform settings.cfg.ifName.text →
        ∀ reason, rejected reason)
    (transmits : ∀ settings, createConfiguration opts = .ok settings →
      settings.cfg.txTest = true → rejected .segmentationFault)
    (relays : ∀ settings, createConfiguration opts = .ok settings →
      settings.cfg.txTest = false →
      platform.evDefault = some .evDefault →
      HasInetEntry platform settings.cfg.ifName.text →
      ∀ n netPktinfo appPktinfo,
        post (some .evDefault)
          (relayWorld platform settings stdin n netPktinfo appPktinfo)) :
    wp rejected (main platform opts) post (World.initial stdin) := by
  simp only [main, wp_bind]
  apply wp_loadConfiguration fault refused
  intro settings created
  have stop (reason : Stop)
      (found : StartFault platform settings.cfg.ifName.text) :
      rejected reason :=
    startFault settings created found reason
  simp only [wp_ite, wp_bind]
  constructor
  · intro transmission
    apply wp_weaken stop
    apply wp_initTxUdpEvents
    intro _
    exact transmits settings created transmission
  · intro relay
    apply wp_weaken stop
    apply wp_startRelay
    intro n netPktinfo appPktinfo libev entry
    exact relays settings created (by simpa using relay) libev entry n
      netPktinfo appPktinfo

/-- If `main` enters the event loop, the process is a relay. -/
theorem main_returned
    {opts : List Opt} {stdin : Stdin} {loop : Option EvLoop}
    (returned :
      main platform opts (World.initial stdin) = .ok loop world) :
    loop = some .evDefault ∧
      ∃ settings, createConfiguration opts = .ok settings ∧
        settings.cfg.txTest = false ∧
        platform.evDefault = some .evDefault ∧
        HasInetEntry platform settings.cfg.ifName.text ∧
        ∃ calls netPktinfo appPktinfo,
          world =
            relayWorld platform settings stdin calls netPktinfo
              appPktinfo := by
  have run :
      wp (fun _ => True) (main platform opts)
        (fun loop world => loop = some .evDefault ∧
          ∃ settings, createConfiguration opts = .ok settings ∧
            settings.cfg.txTest = false ∧
            platform.evDefault = some .evDefault ∧
            HasInetEntry platform settings.cfg.ifName.text ∧
            ∃ calls netPktinfo appPktinfo,
              world =
                relayWorld platform settings stdin calls netPktinfo
                  appPktinfo)
        (World.initial stdin) := by
    apply wp_main
    · intros
      trivial
    · intros
      trivial
    · intros
      trivial
    · intros
      trivial
    · intro settings created relay libev entry n netPktinfo appPktinfo
      exact ⟨rfl, settings, created, relay, libev, entry, n, netPktinfo,
        appPktinfo, rfl⟩
  have result := post_of_returned run returned
  exact result

/-- An accepted name is short enough for start-up. -/
theorem not_startFault
    {opts : List Opt} {settings : Settings}
    (accepted : createConfiguration opts = .ok settings)
    (found : HasInetEntry platform settings.cfg.ifName.text)
    (succeeds : platform.Succeeds) :
    ¬ StartFault platform settings.cfg.ifName.text := by
  intro fault
  rcases fault with ⟨call, fails⟩ | missing | tooLong | noLoop
  · rw [succeeds.calls call] at fails
    cases fails
  · exact missing found
  · exact absurd (strlen_ifName_le accepted) (by omega)
  · exact succeeds.loop noLoop

/-- A relay starts when no call fails and the interface is found. -/
theorem main_returns
    {opts : List Opt} {settings : Settings}
    (accepted : createConfiguration opts = .ok settings)
    (relay : settings.cfg.txTest = false)
    (noFault : ¬ StartFault platform settings.cfg.ifName.text)
    (stdin : Stdin) :
    ∃ loop world,
      main platform opts (World.initial stdin) = .ok loop world := by
  have run :
      wp (fun _ => False) (main platform opts) (fun _ _ => True)
        (World.initial stdin) := by
    apply wp_main
    · intro _ fails
      exact noFault (.inl ⟨0, fails⟩)
    · intro _ refused
      rw [accepted] at refused
      cases refused
    · intro _ created fault _
      rw [accepted] at created
      cases created
      exact noFault fault
    · intro _ created transmission
      rw [accepted] at created
      cases created
      rw [relay] at transmission
      cases transmission
    · intros
      trivial
  obtain ⟨loop, world, returned, -⟩ :=
    returns_of_wp run fun _ impossible => impossible
  exact ⟨loop, world, returned⟩

end Specifications

/-- A manager receives the events of its watcher. -/
theorem watched_of_manager
    {manager : UdpEvents} {watcher : Nat} {events : List Event}
    (isWatcher : manager.watcher = some watcher)
    (watched : ∀ event ∈ events, manager.watcher = some event.watcher) :
    ∀ event ∈ events, event.watcher = watcher := by
  intro event member
  have here := watched event member
  rw [isWatcher] at here
  exact (Option.some.inj here).symm

end UdpipBroadcaster
