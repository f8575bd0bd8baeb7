import UdpipBroadcaster.CLibrary

/-!
# Data structures

The structures of `udp_socket.h` and `udp_events.h`.  A pointer to a byte
block is the number of the block, a pointer to an `ev_io_arg_t` the number of
the allocation, and `none` is `NULL`.  Structures reached through a single
pointer are stored in place.
-/

namespace UdpipBroadcaster

/-! ## Constants -/

def exOk : Int := 0
def exErr : Int := -1

def controlBufferLen : Nat := 0x100
def udpBufferLen : Nat := 5000

/-- `IF_NAMESIZE`, which is also `IFNAMSIZ` -/
def ifNamesize : Nat := 16

/-- `LEN__SOCKADDR_IN`, equal to `LEN__SOCKADDR` -/
def lenSockaddrIn : Nat := 16

def afInet : Nat := 2
def ipprotoIp : Nat := 0
def ipPktinfo : Nat := 8
def msgTrunc : UInt32 := 0x20

def evRead : UInt32 := 1
def evError : UInt32 := 0x80000000

/-! ## Sockets -/

/-- `sockaddr_in_t`, port and address in network byte order -/
structure SockaddrIn where
  sinFamily : Nat
  sinPort : UInt16
  sAddr : UInt32
  deriving DecidableEq

namespace SockaddrIn

/-- The structure as `memset` leaves it. -/
def zero : SockaddrIn := ⟨0, 0, 0⟩

/-- The port in host byte order. -/
def port (addr : SockaddrIn) : UInt16 := ntohs addr.sinPort

end SockaddrIn

structure Iovec where
  iovBase : Option Nat
  iovLen : Nat
  deriving DecidableEq

/-- `msg_header_t`.  The control buffer is stored in place. -/
structure Msghdr where
  msgName : Option SockaddrIn
  msgNamelen : Nat
  msgIov : Option Iovec
  msgIovlen : Nat
  msgControl : List UInt8
  msgControllen : Nat
  msgFlags : UInt32
  deriving DecidableEq

/-- `ifreq_t`, of which only the name is used -/
structure Ifreq where
  ifrName : CharArray ifNamesize
  deriving DecidableEq

/-! ## Events -/

/-- `struct ev_io`.  Its callback is `cb_common` in every watcher. -/
structure EvIo where
  fd : Int
  events : UInt32
  deriving DecidableEq

/-- The functions an `ev_cb_t` can point to. -/
inductive EvCb where
  | cbPrintRecvfrom
  | cbBroadcastSendto
  | cbForwardRecvfrom
  | cbBroadcastRecvfrom
  deriving DecidableEq

structure PublicEvArg where
  socketFd : Int
  port : Int
  forwardingSocketFd : Int
  forwardingPort : Int
  forwardingAddr : Option SockaddrIn
  localAddr : Option SockaddrIn
  printForwardingMessage : Bool
  data : Option Nat
  len : Int
  msgHeader : Option Msghdr
  necMode : Bool
  testNumber : Int
  deriving DecidableEq

structure EvIoArg where
  watcher : EvIo
  cbSpecfic : Option EvCb
  publicArg : PublicEvArg
  deriving DecidableEq

namespace EvIoArg

/-- The structure as `memset` leaves it. -/
def zero : EvIoArg where
  watcher := ⟨0, 0⟩
  cbSpecfic := none
  publicArg :=
    { socketFd := 0
      port := 0
      forwardingSocketFd := 0
      forwardingPort := 0
      forwardingAddr := none
      localAddr := none
      printForwardingMessage := false
      data := none
      len := 0
      msgHeader := none
      necMode := false
      testNumber := 0 }

end EvIoArg

/-- The event loops of libev; the program uses the default one only. -/
inductive EvLoop where
  | evDefault
  deriving DecidableEq

structure UdpEvents where
  socketFd : Int
  loop : Option EvLoop
  watcher : Option Nat
  deriving DecidableEq

end UdpipBroadcaster
