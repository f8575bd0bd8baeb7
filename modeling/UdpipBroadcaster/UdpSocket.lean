import UdpipBroadcaster.Process
import UdpipBroadcaster.ControlRecords

/-!
# `udp_socket.c`

Socket structures, socket management and data transmission.
-/

namespace UdpipBroadcaster

open ByteStrings

/-! ## Socket structures -/

/-- `new_ifreq`, with the address `malloc` returned -/
def newIfreq (platform : Platform) : Program (UInt64 × Ifreq) := do
  let world ← get
  mallocStructure platform
  pure (platform.mallocAddress world.calls, ⟨CharArray.zero ifNamesize⟩)

def initIfreq (platform : Platform) (ifName : CString) :
    Program Ifreq := do
  let (_, s) ← newIfreq platform
  let ifNameLen := strlen ifName
  let ifrNameLen := ifNamesize
  if ifNameLen > ifrNameLen then
    handleAppError
  pure { s with ifrName := strncpy s.ifrName ifName ifNameLen }

def newSockaddrIn (platform : Platform) : Program SockaddrIn := do
  mallocStructure platform
  pure SockaddrIn.zero

def newIovec (platform : Platform) : Program Iovec := do
  mallocStructure platform
  pure ⟨none, 0⟩

def newMsgHeader (platform : Platform) : Program Msghdr := do
  mallocStructure platform
  -- the control buffer, cleared after its own `malloc`
  mallocStructure platform
  let name ← newSockaddrIn platform
  let iov ← newIovec platform
  pure
    { msgName := some name
      msgNamelen := lenSockaddrIn
      msgIov := some iov
      msgIovlen := 0
      msgControl := List.replicate controlBufferLen 0
      msgControllen := controlBufferLen
      msgFlags := 0 }

def initMsgHeader
    (platform : Platform) (buffer : Option Nat) (bufferLen : Nat) :
    Program Msghdr := do
  let s ← newMsgHeader platform
  pure { s with msgIovlen := 1, msgIov := some ⟨buffer, bufferLen⟩ }

def initBroadcastSockaddrIn (platform : Platform) (port : Int) :
    Program SockaddrIn := do
  let s ← newSockaddrIn platform
  pure
    { s with
      sinFamily := afInet
      sinPort := htons (toUInt16 port)
      sAddr := htonl inaddrBroadcast }

def initAnySockaddrIn (platform : Platform) (port : Int) :
    Program SockaddrIn := do
  let s ← newSockaddrIn platform
  pure
    { s with
      sinFamily := afInet
      sinPort := htons (toUInt16 port)
      sAddr := htonl inaddrAny }

/-- `init_sockaddr_in`.  The call of `inet_addr` is commented out in the
source, so that the address stays as `memset` left it. -/
def initSockaddrIn
    (platform : Platform) (_address : Option CString) (port : Int) :
    Program SockaddrIn := do
  let s ← newSockaddrIn platform
  pure
    { s with
      sinFamily := afInet
      sinPort := htons (toUInt16 port) }

/-- The loop of `init_if_sockaddr_in` over the interface list, with its
variables `s` and `if_found`. -/
def initIfSockaddrInLoop
    (platform : Platform) (ifName : CString) (port : Int) :
    List Ifaddrs → Option SockaddrIn → Bool →
      Program (Option SockaddrIn × Bool)
  | [], s, ifFound => pure (s, ifFound)
  | ifa :: rest, s, ifFound =>
      match ifa.ifaAddr with
      | none => initIfSockaddrInLoop platform ifName port rest s ifFound
      | some addr =>
          let host := platform.getnameinfo addr
          if ifa.ifaName = ifName ∧ addr.sinFamily = afInet then do
            if host = none then
              handleAppError
            let s ← initSockaddrIn platform host port
            initIfSockaddrInLoop platform ifName port rest (some s) true
          else
            initIfSockaddrInLoop platform ifName port rest s ifFound

def initIfSockaddrIn
    (platform : Platform) (ifName : CString) (port : Int) :
    Program (Option SockaddrIn) := do
  if ← callFails platform then
    handleSysError
  let (s, ifFound) ←
    initIfSockaddrInLoop platform ifName port platform.ifaddrs none false
  if ifFound = false then
    handleAppError
  pure s

/-! ## Socket management -/

def setBroadcastSocket (platform : Platform) (socketFd : Int) :
    Program Int := do
  let result ← setsockopt platform socketFd fun socket =>
    { socket with broadcast := true }
  if result < 0 then
    handleSysError
  pure exOk

def setBindtodeviceSocket
    (platform : Platform) (ifName : CString) (socketFd : Int) :
    Program Int := do
  let ifr ← initIfreq platform ifName
  let result ← setsockopt platform socketFd fun socket =>
    { socket with device := some ifr }
  if result < 0 then
    handleSysError
  pure exOk

/-- `set_msghdrs_socket`.  The option value is read from `&ifr`, so that the
kernel sees the low half of the pointer that `malloc` returned. -/
def setMsghdrsSocket (platform : Platform) (socketFd : Int) :
    Program Int := do
  let (ifr, _) ← newIfreq platform
  let result ← setsockopt platform socketFd fun socket =>
    { socket with pktinfo := ifr.toUInt32 ≠ 0 }
  if result < 0 then
    handleSysError
  pure exOk

def openReceiverUdpSocket (platform : Platform) (port : Int) :
    Program Int := do
  let fd ← socket platform
  if fd < 0 then
    handleSysError
  let addr ← initAnySockaddrIn platform port
  let bound ← bind platform fd addr
  if bound < 0 then
    handleSysError
  let result ← setMsghdrsSocket platform fd
  if result < 0 then
    handleAppError
  pure fd

def openTransmitterUdpSocket (platform : Platform) (_port : Int) :
    Program Int := do
  let fd ← socket platform
  if fd < 0 then
    handleSysError
  pure fd

def openBroadcastUdpSocket
    (platform : Platform) (iface : CString) (_port : Int) :
    Program Int := do
  let fd ← socket platform
  if fd < 0 then
    handleSysError
  let result ← setBroadcastSocket platform fd
  if result < 0 then
    handleAppError
  let result ← setBindtodeviceSocket platform iface fd
  if result < 0 then
    handleAppError
  pure fd

/-! ## Data transmission -/

/-- The answer of the kernel to a call of `sendto`: an error, or the largest
number of bytes it takes. -/
inductive SendAnswer where
  | error
  | accepts (limit : Nat)
  deriving DecidableEq

/-- `sendto`.  The call fails without a destination, and when the length
exceeds the buffer. -/
def sendto
    (answer : SendAnswer) (socketFd : Int) (buffer : List UInt8)
    (len : Int) (destAddr : Option SockaddrIn) : Program Int := do
  let sentBytes : Option Nat :=
    match answer, destAddr with
    | .accepts limit, some _ =>
        if 0 ≤ len ∧ len ≤ buffer.length then some (min limit len.toNat)
        else none
    | _, _ => none
  modify fun world =>
    { world with
      sent := world.sent ++
        [⟨socketFd, buffer.take len.toNat, len, destAddr, sentBytes⟩] }
  match sentBytes with
  | some count => pure count
  | none => pure (-1)

/-- `getchar`, which waits while there is neither a character nor the end of
the input.  Its result is not used. -/
def getchar : Program Unit := do
  let world ← get
  match world.stdin.next with
  | none => throw .waitsForStdin
  | some rest => set { world with stdin := rest }

def sendMessage
    (answer : SendAnswer) (destAddr : Option SockaddrIn) (socketFd : Int)
    (buffer : List UInt8) (len : Int) : Program Int := do
  let sentBytes ← sendto answer socketFd buffer len destAddr
  if sentBytes < 0 then
    getchar
    pure exErr
  else if sentBytes < len then
    pure exErr
  else
    pure sentBytes

/-- A datagram as the kernel delivers it.  `control space` are the bytes it
stores in a control buffer of `space` bytes. -/
structure Datagram where
  payload : List UInt8
  source : SockaddrIn
  control : Nat → List UInt8

namespace Datagram

/-- A datagram with a list of control records. -/
def withRecords
    (payload : List UInt8) (source : SockaddrIn)
    (records : List ControlRecord) : Datagram :=
  ⟨payload, source, fun space => storeRecords space records⟩

/-- What is stored of the control part when `space` bytes are offered. -/
def storedControl (datagram : Datagram) (space : Nat) : List UInt8 :=
  (datagram.control space).take space

end Datagram

/-- The header after a successful `recvmsg`, apart from the payload. -/
def receivedHeader
    (datagram : Datagram) (capacity : Nat) (msg : Msghdr) : Msghdr :=
  let control := datagram.storedControl msg.msgControllen
  { msg with
    msgName :=
      if lenSockaddrIn ≤ msg.msgNamelen then
        msg.msgName.map fun _ => datagram.source
      else msg.msgName
    msgNamelen := lenSockaddrIn
    msgControl := overwrite msg.msgControl control
    msgControllen := control.length
    msgFlags := if capacity < datagram.payload.length then msgTrunc else 0 }

/-- `recvmsg`.  A failed call leaves the header unchanged; a header without
a buffer makes the call fail. -/
def recvmsg (received : Option Datagram) (msg : Option Msghdr) :
    Program (Int × Option Msghdr) :=
  match received, msg with
  | some datagram, some hdr =>
      match hdr.msgIov with
      | some ⟨some base, iovLen⟩ => do
          let capacity := if hdr.msgIovlen = 0 then 0 else iovLen
          let stored := datagram.payload.take capacity
          modify fun world =>
            { world with
              heap := world.heap.modify base (overwrite · stored) }
          pure (stored.length, some (receivedHeader datagram capacity hdr))
      | _ => pure (-1, msg)
  | _, _ => pure (-1, msg)

/-- The loop of `get_source_address` at the record `cmsg`; the result is the
pointer `src` after the loop. -/
def getSourceAddressLoop (msg : Msghdr) : Option Nat → Option SockaddrIn
  | none => none
  | some cmsg =>
      let hdr := Cmsghdr.read (msg.msgControl.drop cmsg)
      if hdr.cmsgLevel ≠ ipprotoIp ∨ hdr.cmsgType ≠ ipPktinfo then
        match _found : cmsgNxthdr msg cmsg with
        | none => none
        | some next => getSourceAddressLoop msg (some next)
      else
        msg.msgName
termination_by cmsg => (cmsg.map (msg.msgControllen - ·)).getD 0
decreasing_by
  have progress := cmsgNxthdr_progress _found
  simp only [sizeofCmsghdr] at progress
  simp only [Option.map_some, Option.getD_some]
  omega

def getSourceAddress (msg : Option Msghdr) : Program UInt32 := do
  let msg ← deref msg
  let src ← deref (getSourceAddressLoop msg (cmsgFirsthdr msg))
  pure src.sAddr

/-- The results of `recv_msg`: the returned count, and the structures behind
the pointers `msg` and `blocked`. -/
structure RecvMsg where
  rxBytes : Int
  msg : Option Msghdr
  blocked : Bool
  deriving DecidableEq

def recvMsg
    (received : Option Datagram) (msg : Option Msghdr)
    (blockIp : UInt32) (blocked : Bool) : Program RecvMsg := do
  let (rxBytes, msg) ← recvmsg received msg
  if rxBytes < 0 then
    pure ⟨exErr, msg, blocked⟩
  else
    let srcAddr ← getSourceAddress msg
    if blockIp = srcAddr then
      pure ⟨rxBytes, msg, true⟩
    else
      pure ⟨rxBytes, msg, false⟩

end UdpipBroadcaster
