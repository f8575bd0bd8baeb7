import UdpipBroadcaster.Structures
import UdpipBroadcaster.Library.Programs

/-!
# The process and its system calls

`World` is the state of the process as far as the program reads or writes
it, together with the record of its `sendto` calls.  `Platform` holds the
answers of the system during start-up; the answers to the calls made for one
event come with the event.

The program hands its descriptors back to the system, tests their sign and
prints them.  Here a descriptor names a socket by the order of opening, and
the platform tells the number that is printed.
-/

namespace UdpipBroadcaster

open ByteStrings

/-- An entry of the list `getifaddrs` returns. -/
structure Ifaddrs where
  ifaName : CString
  ifaAddr : Option SockaddrIn

/-- The answers of the system, the C library and libev during start-up.
`fails` says which of the calls that can fail do so, counted from the start
of the process; `descriptor` is the number that the kernel gives a socket,
and `evDefault` what `EV_DEFAULT` stands for. -/
structure Platform where
  fails : Nat → Bool
  mallocAddress : Nat → UInt64
  mallocContents : Nat → Nat → UInt8
  ephemeralPort : Int → UInt16
  descriptor : Int → Int
  evDefault : Option EvLoop
  ifaddrs : List Ifaddrs
  getnameinfo : SockaddrIn → Option CString

/-- Why the process leaves the program. -/
inductive Stop where
  | exitSuccess
  | exitFailure
  | segmentationFault
  | waitsForStdin
  deriving DecidableEq

/-- A socket of the process.  `port` is the port it is bound to. -/
structure UdpSocket where
  port : Option UInt16
  broadcast : Bool
  device : Option Ifreq
  pktinfo : Bool
  deriving DecidableEq

/-- A call of `sendto`: what was asked, and the number of bytes sent unless
the call failed. -/
structure Sendto where
  socketFd : Int
  buffer : List UInt8
  len : Int
  destAddr : Option SockaddrIn
  sentBytes : Option Nat
  deriving DecidableEq

namespace Sendto

/-- The payload of the datagram that left, if one did. -/
def transmitted (call : Sendto) : Option (List UInt8) :=
  call.sentBytes.map call.buffer.take

end Sendto

/-- The standard input: the characters on it, and whether it ends behind
them.  If it does not, a read behind them waits. -/
structure Stdin where
  chars : List UInt8
  ends : Bool
  deriving DecidableEq

namespace Stdin

/-- No character, and no end. -/
def silent : Stdin := ⟨[], false⟩

/-- What is left after reading a character or the end, if the read does not
wait. -/
def next (stdin : Stdin) : Option Stdin :=
  match stdin.chars with
  | _ :: rest => some { stdin with chars := rest }
  | [] => if stdin.ends then some stdin else none

def drop (stdin : Stdin) (count : Nat) : Stdin :=
  { stdin with chars := stdin.chars.drop count }

/-- So many reads do not wait. -/
def Serves (stdin : Stdin) (count : Nat) : Prop :=
  stdin.ends = true ∨ count ≤ stdin.chars.length

instance (stdin : Stdin) (count : Nat) : Decidable (stdin.Serves count) :=
  inferInstanceAs (Decidable (_ ∨ _))

@[simp]
theorem drop_zero (stdin : Stdin) : stdin.drop 0 = stdin :=
  rfl

theorem drop_drop (stdin : Stdin) (count more : Nat) :
    (stdin.drop count).drop more = stdin.drop (count + more) := by
  simp [drop, List.drop_drop]

@[simp]
theorem serves_zero (stdin : Stdin) : stdin.Serves 0 :=
  .inr (Nat.zero_le _)

/-- Reads in a row. -/
theorem serves_add_iff {stdin : Stdin} {count more : Nat} :
    stdin.Serves (count + more) ↔
      stdin.Serves count ∧ (stdin.drop count).Serves more := by
  simp only [Serves, drop, List.length_drop]
  cases stdin.ends with
  | true => simp
  | false =>
      simp only [Bool.false_eq_true, false_or]
      omega

theorem next_eq_none_iff {stdin : Stdin} :
    stdin.next = none ↔ ¬ stdin.Serves 1 := by
  rcases stdin with ⟨chars, ends⟩
  cases chars <;> cases ends <;> simp [next, Serves]

theorem next_of_serves {stdin : Stdin} (serves : stdin.Serves 1) :
    stdin.next = some (stdin.drop 1) := by
  rcases stdin with ⟨chars, ends⟩
  cases chars <;> cases ends <;> simp_all [next, Serves, drop]

theorem of_next {stdin rest : Stdin} (read : stdin.next = some rest) :
    stdin.Serves 1 ∧ rest = stdin.drop 1 := by
  have serves : stdin.Serves 1 := by
    by_contra waits
    rw [next_eq_none_iff.mpr waits] at read
    cases read
  rw [next_of_serves serves] at read
  exact ⟨serves, (Option.some.inj read).symm⟩

end Stdin

/-- The state of the process. -/
structure World where
  calls : Nat
  heap : List (List UInt8)
  sockets : List UdpSocket
  args : List EvIoArg
  started : List Nat
  verbose : Bool
  stdin : Stdin
  sent : List Sendto
  deriving DecidableEq

namespace World

/-- The process before `main`. -/
def initial (stdin : Stdin) : World where
  calls := 0
  heap := []
  sockets := []
  args := []
  started := []
  verbose := false
  stdin := stdin
  sent := []

/-- The descriptor of the socket opened as number `index`. -/
def handle (index : Nat) : Int := index

theorem toNat_handle (index : Nat) : (handle index).toNat = index :=
  Int.toNat_natCast index

/-- An opened socket has this descriptor. -/
def IsOpen (world : World) (fd : Int) : Prop :=
  ∃ index < world.sockets.length, fd = handle index

/-- The port the socket with this descriptor is bound to. -/
def boundPort (world : World) (fd : Int) : Option UInt16 :=
  (world.sockets[fd.toNat]?).bind UdpSocket.port

end World

/-- Code of the program. -/
abbrev Program := EStateM Stop World

/-! ## Errors and memory -/

def handleSysError {α : Type} : Program α :=
  throw .exitFailure

def handleAppError {α : Type} : Program α :=
  throw .exitFailure

/-- Read through a pointer. -/
def deref {α : Type} : Option α → Program α
  | some value => pure value
  | none => throw .segmentationFault

/-- One call that can fail. -/
def callFails (platform : Platform) : Program Bool := do
  let world ← get
  set { world with calls := world.calls + 1 }
  pure (platform.fails world.calls)

/-- `malloc` for a structure, with the check that follows it. -/
def mallocStructure (platform : Platform) : Program Unit := do
  if ← callFails platform then
    handleSysError

/-- `malloc` for a buffer, with the check that follows it.  The contents of
the new block are indeterminate. -/
def mallocBuffer (platform : Platform) (size : Nat) : Program Nat := do
  if ← callFails platform then
    handleSysError
  let world ← get
  let pointer := world.heap.length
  let block :=
    (List.range size).map (platform.mallocContents pointer)
  set { world with heap := world.heap ++ [block] }
  pure pointer

/-- Write through a pointer to a watcher's arguments. -/
def updateArg
    (pointer : Option Nat) (update : EvIoArg → EvIoArg) : Program Unit := do
  let index ← deref pointer
  modify fun world =>
    { world with args := world.args.modify index update }

/-! ## Sockets -/

def socket (platform : Platform) : Program Int := do
  if ← callFails platform then
    pure (-1)
  else
    let world ← get
    let opened : UdpSocket := ⟨none, false, none, false⟩
    set { world with sockets := world.sockets ++ [opened] }
    pure (World.handle world.sockets.length)

/-- The effect of a system call on the socket with this descriptor. -/
def updateSocket
    (fd : Int) (update : UdpSocket → UdpSocket) : Program Unit :=
  modify fun world =>
    { world with
      sockets := world.sockets.modify fd.toNat update }

/-- `bind`.  Port zero asks the kernel to choose a port. -/
def bind (platform : Platform) (fd : Int) (addr : SockaddrIn) :
    Program Int := do
  if ← callFails platform then
    pure (-1)
  else
    let port :=
      if addr.port = 0 then platform.ephemeralPort fd else addr.port
    updateSocket fd fun socket => { socket with port := some port }
    pure 0

/-- `setsockopt`, where `update` is the effect of the option. -/
def setsockopt
    (platform : Platform) (fd : Int) (update : UdpSocket → UdpSocket) :
    Program Int := do
  if ← callFails platform then
    pure (-1)
  else
    updateSocket fd update
    pure 0

end UdpipBroadcaster
