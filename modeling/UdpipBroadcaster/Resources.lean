import UdpipBroadcaster.RelayRuns
import UdpipBroadcaster.WatcherInvariant
import UdpipBroadcaster.Library.Frames

/-!
# The resources of a running relay

In relay mode all memory is allocated and all sockets are opened before the
event loop.  No event allocates, opens or rebinds anything afterwards, even
one that stops the process.
-/

namespace UdpipBroadcaster

open Frames Programs

/-! ## Resources -/

/-- What a process holds: the calls that could fail so far, its sockets and
started watchers, the sizes of its memory blocks, and the descriptor and
callback of each watcher. -/
structure Resources where
  calls : Nat
  sockets : List UdpSocket
  started : List Nat
  verbose : Bool
  blocks : List Nat
  watchers : List (EvIo × Option EvCb)
  deriving DecidableEq

def World.resources (world : World) : Resources where
  calls := world.calls
  sockets := world.sockets
  started := world.started
  verbose := world.verbose
  blocks := world.heap.map List.length
  watchers := world.args.map fun arg => (arg.watcher, arg.cbSpecfic)

/-- No watcher is one of a transmission test. -/
def Resources.Receives (resources : Resources) : Prop :=
  ∀ watcher ∈ resources.watchers, watcher.2 ≠ some .cbBroadcastSendto

/-- The program leaves the resources of receiving processes alone. -/
abbrev KeepsResources {α : Type} (program : Program α) : Prop :=
  Keeps Resources.Receives World.resources program

/-! ## The functions called for an event -/

section Functions

variable {answer : SendAnswer} {received : Option Datagram}

private theorem keeps_deref {α : Type} (pointer : Option α) :
    KeepsResources (deref pointer) := by
  cases pointer with
  | none => exact keeps_throw _
  | some value => exact keeps_pure value

private theorem keeps_sendto
    (socketFd : Int) (buffer : List UInt8) (len : Int)
    (destAddr : Option SockaddrIn) :
    KeepsResources (sendto answer socketFd buffer len destAddr) := by
  simp only [sendto]
  apply Keeps.bind
  · exact keeps_modify fun _ => rfl
  · intro _
    split
    · exact keeps_pure _
    · exact keeps_pure _

private theorem keeps_getchar : KeepsResources getchar := by
  apply keeps_get_bind
  intro world _
  cases world.stdin.next <;> rfl

private theorem keeps_sendMessage
    (destAddr : Option SockaddrIn) (socketFd : Int) (buffer : List UInt8)
    (len : Int) :
    KeepsResources (sendMessage answer destAddr socketFd buffer len) := by
  refine (keeps_sendto socketFd buffer len destAddr).bind fun sentBytes => ?_
  refine .ite ?_ (.ite (keeps_pure _) (keeps_pure _))
  exact keeps_getchar.bind fun _ => keeps_pure _

private theorem keeps_recvmsg (msg : Option Msghdr) :
    KeepsResources (recvmsg received msg) := by
  cases received with
  | none => exact keeps_pure _
  | some datagram =>
      cases msg with
      | none => exact keeps_pure _
      | some header =>
          simp only [recvmsg]
          split
          · apply Keeps.bind
            · apply keeps_modify
              intro world
              simp only [World.resources, map_length_modify_overwrite]
            · exact fun _ => keeps_pure _
          · exact keeps_pure _

private theorem keeps_recvMsg
    (msg : Option Msghdr) (blockIp : UInt32) (blocked : Bool) :
    KeepsResources (recvMsg received msg blockIp blocked) := by
  refine (keeps_recvmsg msg).bind fun result => .ite (keeps_pure _) ?_
  refine Keeps.bind ?_ fun srcAddr => .ite (keeps_pure _) (keeps_pure _)
  refine (keeps_deref _).bind fun _ => ?_
  exact (keeps_deref _).bind fun _ => keeps_pure _

private theorem keeps_readBlock (pointer : Option Nat) :
    KeepsResources (readBlock pointer) :=
  keeps_get_bind fun _ _ => rfl

private theorem keeps_updateArg
    (pointer : Option Nat) {update : EvIoArg → EvIoArg}
    (watcher : ∀ arg, (update arg).watcher = arg.watcher)
    (cbSpecfic : ∀ arg, (update arg).cbSpecfic = arg.cbSpecfic) :
    KeepsResources (updateArg pointer update) := by
  refine (keeps_deref pointer).bind fun index => keeps_modify fun world => ?_
  have same :
      (world.args.modify index update).map
          (fun arg => (arg.watcher, arg.cbSpecfic)) =
        world.args.map fun arg => (arg.watcher, arg.cbSpecfic) :=
    map_modify_eq fun arg _ => by rw [watcher, cbSpecfic]
  simp only [World.resources, same]

/-- Every callback but the one of a transmission test allocates nothing. -/
private theorem keeps_call
    (platform : Platform) (answers : Answers) {callback : EvCb}
    (receives : callback ≠ .cbBroadcastSendto) (arg : PublicEvArg) :
    KeepsResources (callback.call platform answers arg) := by
  have forwards (later : PublicEvArg) (pointer : Option Nat) (len : Int) :
      KeepsResources (do
        let data ← readBlock pointer
        let _fwdBytes ←
          sendMessage answers.send arg.forwardingAddr
            arg.forwardingSocketFd data len
        pure later) := by
    refine (keeps_readBlock pointer).bind fun data => ?_
    exact (keeps_sendMessage _ _ _ _).bind fun _ => keeps_pure _
  cases callback with
  | cbPrintRecvfrom =>
      refine (keeps_deref _).bind fun localAddr => ?_
      exact (keeps_recvMsg _ _ _).bind fun _ => keeps_pure _
  | cbBroadcastSendto => exact (receives rfl).elim
  | cbForwardRecvfrom =>
      refine (keeps_deref _).bind fun localAddr => ?_
      refine (keeps_recvMsg _ _ _).bind fun result => ?_
      exact .ite (keeps_pure _) (.ite (keeps_pure _) (forwards _ _ _))
  | cbBroadcastRecvfrom =>
      refine (keeps_deref _).bind fun localAddr => ?_
      refine (keeps_recvMsg _ _ _).bind fun result => ?_
      exact .ite (keeps_pure _) (forwards _ _ _)

end Functions

/-! ## One event -/

variable {platform : Platform} {event : Event} {world : World}

/-- The callback of a watcher of a receiving process is not the one of a
transmission test. -/
private theorem callback_of_receives
    (receives : world.resources.Receives) {watcher : Nat} {arg : EvIoArg}
    (found : world.args[watcher]? = some arg) {callback : EvCb}
    (specific : arg.cbSpecfic = some callback) :
    callback ≠ .cbBroadcastSendto := by
  intro transmission
  have member : (arg.watcher, arg.cbSpecfic) ∈ world.resources.watchers :=
    List.mem_map_of_mem (List.mem_of_getElem? found)
  apply receives _ member
  rw [specific, transmission]

/-- An event leaves the resources of a receiving process alone. -/
theorem keepsResources_dispatch (platform : Platform) (event : Event) :
    KeepsResources (dispatch platform event) := by
  refine .ite (keeps_pure ()) (keeps_get_bind fun world receives => ?_)
  cases found : world.args[event.watcher]? with
  | none => rfl
  | some arg =>
      have writes (publicArg : PublicEvArg) :
          KeepsResources
            (updateArg (some event.watcher)
              fun arg => { arg with publicArg }) :=
        keeps_updateArg _ (fun _ => rfl) (fun _ => rfl)
      simp only [deref, pure_bind]
      cases specific : arg.cbSpecfic with
      | none => exact writes _ world receives
      | some callback =>
          have known := callback_of_receives receives found specific
          have kept :=
            (keeps_call platform event.answers known
              { arg.publicArg with socketFd := arg.watcher.fd }).bind writes
          exact kept world receives

/-- What an event does in a receiving process does not depend on how the
system would answer the calls of start-up. -/
theorem dispatch_eq_of_receives
    (receives : world.resources.Receives) (other : Platform) :
    dispatch platform event world = dispatch other event world := by
  rw [dispatch, dispatch, cbCommon, cbCommon]
  by_cases error : evError &&& event.revents ≠ 0
  · rw [if_pos error, if_pos error]
  · rw [if_neg error, if_neg error, get_bind, get_bind]
    cases found : world.args[event.watcher]? with
    | none => rfl
    | some arg =>
        simp only [deref, pure_bind]
        cases specific : arg.cbSpecfic with
        | none => rfl
        | some callback =>
            have known := callback_of_receives receives found specific
            cases callback with
            | cbBroadcastSendto => exact (known rfl).elim
            | cbPrintRecvfrom => rfl
            | cbForwardRecvfrom => rfl
            | cbBroadcastRecvfrom => rfl

/-! ## Whole runs -/

variable {opts : List Opt} {stdin : Stdin} {settings : Settings}

theorem Started.receives
    (started : Started platform opts stdin settings world) :
    world.resources.Receives := by
  rcases started.eq_relayWorld with ⟨calls, netPktinfo, appPktinfo, rfl⟩
  intro watcher member
  rcases List.mem_pair.mp member with rfl | rfl
  · simp [netArg, watcherArg]
  · simp [appArg, watcherArg]

/-- Once the relay has started, no sequence of events makes it allocate
memory, open or change a socket, start a watcher or change a callback,
whether the run returns or stops; so the run does not depend on how such
calls would be answered. -/
theorem evLoop_keepsResources
    (started : Started platform opts stdin settings world)
    (events : List Event) :
    (finalState (evLoop platform events world)).resources =
        world.resources ∧
      ∀ other : Platform,
        evLoop other events world = evLoop platform events world := by
  have kept (which : Platform) :
      ∀ event ∈ events, KeepsResources (dispatch which event) :=
    fun event _ => keepsResources_dispatch which event
  constructor
  · exact Keeps.runAll (kept platform) world started.receives
  · intro other
    exact runAll_eq_of_keeps (kept other)
      (fun event _ before receives =>
        dispatch_eq_of_receives receives platform)
      started.receives

theorem evLoop_keepsResources_refusedEvent :
    ∃ world, Started workingHost relayOptions .silent relaySettings world ∧
      (finalState (evLoop workingHost [refusedEvent] world)).resources =
        world.resources := by
  obtain ⟨world, started⟩ :=
    exists_started_workingHost createConfiguration_relayOptions rfl rfl
      .silent
  exact ⟨world, started,
    (evLoop_keepsResources started [refusedEvent]).1⟩

end UdpipBroadcaster
