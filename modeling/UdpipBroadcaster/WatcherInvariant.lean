import UdpipBroadcaster.Startup

/-!
# Well-formed watchers

What every callback leaves alone, and the invariant of the watchers that
follows from it: an event can change the contents of a buffer, the header
around it and the counters, but no pointer of a watcher.
-/

namespace UdpipBroadcaster

open ByteStrings Programs

/-! ## What a callback leaves alone -/

/-- A callback changes no watcher, opens and closes no socket and moves no
block. -/
structure World.Keeps (before after : World) : Prop where
  args : after.args = before.args
  started : after.started = before.started
  sockets : after.sockets = before.sockets
  blocks : after.heap.map List.length = before.heap.map List.length

namespace World

theorem Keeps.refl (world : World) : world.Keeps world :=
  ⟨rfl, rfl, rfl, rfl⟩

theorem Keeps.trans
    {first second third : World}
    (one : first.Keeps second) (two : second.Keeps third) :
    first.Keeps third :=
  ⟨two.args.trans one.args, two.started.trans one.started,
    two.sockets.trans one.sockets, two.blocks.trans one.blocks⟩

/-- Counting a call, reading the input and sending are not among it. -/
theorem Keeps.of_streams
    (world : World) (calls : Nat) (stdin : Stdin)
    (sent : List Sendto) :
    world.Keeps { world with calls, stdin, sent } :=
  ⟨rfl, rfl, rfl, rfl⟩

end World

/-- The buffers a header describes. -/
def Msghdr.buffers (msg : Msghdr) : Option Iovec × Nat :=
  (msg.msgIov, msg.msgIovlen)

/-- The arguments of a watcher before and after a callback. -/
structure PublicEvArg.Keeps (before after : PublicEvArg) : Prop where
  data : after.data = before.data
  localAddr : after.localAddr = before.localAddr
  forwardingAddr : after.forwardingAddr = before.forwardingAddr
  forwardingSocketFd :
    after.forwardingSocketFd = before.forwardingSocketFd
  msgHeader :
    after.msgHeader.map Msghdr.buffers =
      before.msgHeader.map Msghdr.buffers

namespace PublicEvArg

theorem Keeps.refl (arg : PublicEvArg) : arg.Keeps arg :=
  ⟨rfl, rfl, rfl, rfl, rfl⟩

theorem Keeps.trans
    {first second third : PublicEvArg}
    (one : first.Keeps second) (two : second.Keeps third) :
    first.Keeps third :=
  ⟨two.data.trans one.data, two.localAddr.trans one.localAddr,
    two.forwardingAddr.trans one.forwardingAddr,
    two.forwardingSocketFd.trans one.forwardingSocketFd,
    two.msgHeader.trans one.msgHeader⟩

end PublicEvArg

section Frames

variable {platform : Platform} {answers : Answers} {world : World}

/-- Any reason to stop; only the runs that return matter here. -/
abbrev anyStop : Stop → Prop := fun _ => True

theorem map_length_modify_overwrite
    (heap : List (List UInt8)) (base : Nat) (stored : List UInt8) :
    (heap.modify base (overwrite · stored)).map List.length =
      heap.map List.length := by
  apply List.ext_getElem?
  intro index
  simp only [List.getElem?_map, List.getElem?_modify]
  by_cases same : base = index
  · simp [same, Function.comp_def]
  · simp [same]

private theorem wp_callFails_keeps
    {post : Bool → World → Prop}
    (continues : ∀ result after, world.Keeps after → post result after) :
    wp anyStop (callFails platform) post world :=
  continues _ _ (.of_streams ..)

theorem wp_initBroadcastSockaddrIn_keeps
    {port : Int} {post : SockaddrIn → World → Prop}
    (continues : ∀ result after, world.Keeps after → post result after) :
    wp anyStop (initBroadcastSockaddrIn platform port) post world := by
  simp only [initBroadcastSockaddrIn, newSockaddrIn, mallocStructure,
    handleSysError, wp_bind, wp_ite, wp_throw, wp_pure]
  apply wp_callFails_keeps
  intro fails after kept
  exact ⟨fun _ => trivial, fun _ => continues _ after kept⟩

theorem wp_sendMessage_keeps
    {answer : SendAnswer} {destAddr : Option SockaddrIn} {socketFd : Int}
    {buffer : List UInt8} {len : Int} {post : Int → World → Prop}
    (continues : ∀ result after, world.Keeps after → post result after) :
    wp anyStop (sendMessage answer destAddr socketFd buffer len) post
      world := by
  have returned (result : Int) (sent : List Sendto) :
      wp anyStop
        (if result < 0 then do
            getchar
            pure exErr
          else if result < len then pure exErr
          else pure result : Program Int)
        post { world with sent := sent } := by
    simp only [wp_ite, wp_bind, wp_pure, getchar, wp_get]
    refine ⟨fun _ => ?_, fun _ => ⟨fun _ => ?_, fun _ => ?_⟩⟩
    · cases input : world.stdin.next with
      | none => trivial
      | some rest => exact continues _ _ (.of_streams ..)
    · exact continues _ _ (.of_streams ..)
    · exact continues _ _ (.of_streams ..)
  simp only [sendMessage, sendto, wp_bind, wp_modify]
  split
  · exact returned _ _
  · exact returned _ _

private theorem wp_recvMsg_keeps
    {received : Option Datagram} {msg : Option Msghdr} {blockIp : UInt32}
    {blocked : Bool} {post : RecvMsg → World → Prop}
    (continues : ∀ result after, world.Keeps after →
      result.msg.map Msghdr.buffers = msg.map Msghdr.buffers →
        post result after) :
    wp anyStop (recvMsg received msg blockIp blocked) post world := by
  have classified (rxBytes : Int) (header : Option Msghdr) (after : World)
      (kept : world.Keeps after)
      (same : header.map Msghdr.buffers = msg.map Msghdr.buffers) :
      wp anyStop
        (if rxBytes < 0 then pure ⟨exErr, header, blocked⟩
          else do
            let srcAddr ← getSourceAddress header
            if blockIp = srcAddr then pure ⟨rxBytes, header, true⟩
            else pure ⟨rxBytes, header, false⟩ : Program RecvMsg)
        post after := by
    simp only [wp_ite, wp_bind, wp_pure, getSourceAddress]
    refine ⟨fun _ => continues _ _ kept same, fun _ => ?_⟩
    cases header with
    | none => trivial
    | some header =>
        simp only [deref, wp_pure]
        cases getSourceAddressLoop header (cmsgFirsthdr header) with
        | none => trivial
        | some source =>
            exact ⟨fun _ => continues _ _ kept same,
              fun _ => continues _ _ kept same⟩
  simp only [recvMsg, recvmsg, wp_bind]
  split
  · split
    · simp only [wp_bind, wp_modify, wp_pure]
      apply classified
      · exact ⟨rfl, rfl, rfl, map_length_modify_overwrite _ _ _⟩
      · rfl
    · simp only [wp_pure]
      exact classified _ _ _ (.refl world) rfl
  · simp only [wp_pure]
    exact classified _ _ _ (.refl world) rfl

/-- The front part that the receiving callbacks share. -/
theorem wp_receive_keeps
    (arg : PublicEvArg) {rest : RecvMsg → Program PublicEvArg}
    {post : PublicEvArg → World → Prop}
    (continues : ∀ result after, world.Keeps after →
      arg.Keeps
          { arg with len := result.rxBytes, msgHeader := result.msg } →
        wp anyStop (rest result) post after) :
    wp anyStop
      (do
        let localAddr ← deref arg.localAddr
        let result ←
          recvMsg answers.received arg.msgHeader localAddr.sAddr false
        rest result)
      post world := by
  cases arg.localAddr with
  | none => trivial
  | some localAddr =>
      simp only [deref, pure_bind, wp_bind]
      apply wp_recvMsg_keeps
      intro result after kept same
      exact continues result after kept ⟨rfl, rfl, rfl, rfl, same⟩

/-- The sending part of the forwarding callbacks. -/
theorem wp_forward_keeps
    {pointer : Option Nat} {destAddr : Option SockaddrIn} {socketFd len : Int}
    {value : PublicEvArg} {post : PublicEvArg → World → Prop}
    (continues : ∀ after, world.Keeps after → post value after) :
    wp anyStop
      (do
        let data ← readBlock pointer
        let _fwdBytes ←
          sendMessage answers.send destAddr socketFd data len
        pure value)
      post world := by
  simp only [readBlock, wp_bind, wp_get, wp_pure]
  apply wp_sendMessage_keeps
  intro _ after kept
  exact continues after kept

/-- Every callback keeps the pointers of its watcher. -/
private theorem wp_call_keeps
    (callback : EvCb) (arg : PublicEvArg)
    {post : PublicEvArg → World → Prop}
    (continues : ∀ result after, world.Keeps after → arg.Keeps result →
      post result after) :
    wp anyStop (callback.call platform answers arg) post world := by
  cases callback with
  | cbPrintRecvfrom =>
      apply wp_receive_keeps
      intro result after kept keptArg
      exact continues _ after kept keptArg
  | cbBroadcastSendto =>
      simp only [EvCb.call, cbBroadcastSendto, wp_bind, wp_pure]
      apply wp_initBroadcastSockaddrIn_keeps
      intro destAddr after kept
      apply wp_sendMessage_keeps
      intro _ last keptLast
      exact continues _ last (kept.trans keptLast) ⟨rfl, rfl, rfl, rfl, rfl⟩
  | cbForwardRecvfrom =>
      apply wp_receive_keeps
      intro result after kept keptArg
      simp only [wp_ite]
      refine ⟨fun _ => ?_, fun _ => ⟨fun _ => ?_, fun _ => ?_⟩⟩
      · exact continues _ after kept keptArg
      · exact continues _ after kept keptArg
      · apply wp_forward_keeps
        intro last keptLast
        exact continues _ last (kept.trans keptLast) keptArg
  | cbBroadcastRecvfrom =>
      apply wp_receive_keeps
      intro result after kept keptArg
      simp only [wp_ite]
      refine ⟨fun _ => ?_, fun _ => ?_⟩
      · exact continues _ after kept keptArg
      · apply wp_forward_keeps
        intro last keptLast
        exact continues _ last (kept.trans keptLast) keptArg

end Frames

/-! ## What an event leaves alone -/

/-- A watcher before and after an event. -/
structure EvIoArg.Keeps (before after : EvIoArg) : Prop where
  watcher : after.watcher = before.watcher
  cbSpecfic : after.cbSpecfic = before.cbSpecfic
  publicArg : before.publicArg.Keeps after.publicArg

namespace EvIoArg

theorem Keeps.refl (arg : EvIoArg) : arg.Keeps arg :=
  ⟨rfl, rfl, .refl _⟩

theorem Keeps.trans
    {first second third : EvIoArg}
    (one : first.Keeps second) (two : second.Keeps third) :
    first.Keeps third :=
  ⟨two.watcher.trans one.watcher, two.cbSpecfic.trans one.cbSpecfic,
    one.publicArg.trans two.publicArg⟩

end EvIoArg

/-- The process before and after an event that returned. -/
structure World.Evolves (before after : World) : Prop where
  started : after.started = before.started
  sockets : after.sockets = before.sockets
  blocks : after.heap.map List.length = before.heap.map List.length
  args : ∀ (index : Nat) (arg : EvIoArg), before.args[index]? = some arg →
    ∃ later, after.args[index]? = some later ∧ arg.Keeps later

namespace World

theorem Evolves.refl (world : World) : world.Evolves world where
  started := rfl
  sockets := rfl
  blocks := rfl
  args := fun _ arg found => ⟨arg, found, .refl arg⟩

theorem Evolves.trans
    {first second third : World}
    (one : first.Evolves second) (two : second.Evolves third) :
    first.Evolves third where
  started := two.started.trans one.started
  sockets := two.sockets.trans one.sockets
  blocks := two.blocks.trans one.blocks
  args := by
    intro index arg found
    rcases one.args index arg found with ⟨middle, middleFound, keptOne⟩
    obtain ⟨last, lastFound, keptTwo⟩ :=
      two.args index middle middleFound
    exact ⟨last, lastFound, keptOne.trans keptTwo⟩

/-- Writing back the arguments of one watcher after its callback. -/
private theorem evolves_of_keeps
    {before after : World} {watcher : Nat} {arg : EvIoArg}
    {publicArg : PublicEvArg}
    (found : before.args[watcher]? = some arg)
    (kept : before.Keeps after)
    (keptArg : arg.publicArg.Keeps publicArg) :
    before.Evolves
      { after with
        args := after.args.modify watcher
          fun arg => { arg with publicArg } } where
  started := kept.started
  sockets := kept.sockets
  blocks := kept.blocks
  args := by
    intro index other otherFound
    simp only [kept.args, List.getElem?_modify, otherFound]
    by_cases same : watcher = index
    · subst same
      rw [found] at otherFound
      cases otherFound
      exact
        ⟨{ arg with publicArg := publicArg }, by simp, rfl, rfl, keptArg⟩
    · exact ⟨other, by simp [same], .refl other⟩

end World

variable {platform : Platform} {world after : World}

/-- One event that returns. -/
theorem dispatch_evolves
    {event : Event}
    (returned : dispatch platform event world = .ok () after) :
    world.Evolves after := by
  have run :
      wp anyStop (dispatch platform event)
        (fun _ next => world.Evolves next) world := by
    simp only [dispatch, cbCommon, wp_ite, wp_bind, wp_pure, wp_get]
    refine ⟨fun _ => .refl world, fun _ => ?_⟩
    cases found : world.args[event.watcher]? with
    | none => trivial
    | some arg =>
        simp only [deref, wp_pure]
        cases arg.cbSpecfic with
        | none =>
            simp only [updateArg, deref, wp_bind, wp_pure, wp_modify]
            exact World.evolves_of_keeps found (.refl world)
              ⟨rfl, rfl, rfl, rfl, rfl⟩
        | some callback =>
            simp only [wp_bind]
            apply wp_call_keeps
            intro result next kept keptArg
            simp only [updateArg, deref, wp_bind, wp_pure, wp_modify]
            exact World.evolves_of_keeps found kept
              ⟨keptArg.data, keptArg.localAddr, keptArg.forwardingAddr,
                keptArg.forwardingSocketFd, keptArg.msgHeader⟩
  have result := post_of_returned run returned
  exact result

/-- Any number of events that return. -/
theorem evLoop_evolves
    {events : List Event}
    (returned : evLoop platform events world = .ok () after) :
    world.Evolves after :=
  runAll_invariant
    (fun _ _ _ _ evolved stepped =>
      evolved.trans (dispatch_evolves stepped))
    (.refl world) returned

/-- The port on which the socket of a watcher receives. -/
def World.listens (world : World) (watcher : Nat) : Option UInt16 :=
  (world.args[watcher]?).bind fun arg => world.boundPort arg.watcher.fd

theorem World.Evolves.listens
    (evolved : world.Evolves after) {watcher : Nat} {arg : EvIoArg}
    (found : world.args[watcher]? = some arg) :
    after.listens watcher = world.listens watcher := by
  rcases evolved.args watcher arg found with ⟨later, laterFound, kept⟩
  simp only [World.listens, found, laterFound, Option.bind_some,
    kept.watcher, World.boundPort, evolved.sockets]

/-- Packet information is enabled on the socket of a watcher. -/
def World.suppliesPktinfo (world : World) (watcher : Nat) : Bool :=
  ((world.args[watcher]?).bind fun arg =>
    world.sockets[arg.watcher.fd.toNat]?).any UdpSocket.pktinfo

theorem World.Evolves.suppliesPktinfo
    (evolved : world.Evolves after) {watcher : Nat} {arg : EvIoArg}
    (found : world.args[watcher]? = some arg) :
    after.suppliesPktinfo watcher = world.suppliesPktinfo watcher := by
  rcases evolved.args watcher arg found with ⟨later, laterFound, kept⟩
  simp only [World.suppliesPktinfo, found, laterFound, Option.bind_some,
    kept.watcher, evolved.sockets]

/-! ## Well-formed watchers -/

/-- A started watcher has a callback, a buffer of full length that its
header describes and a local address; if it forwards, it has a destination
and an open socket for it. -/
structure EvIoArg.WellFormed (arg : EvIoArg) (world : World) : Prop where
  callback : arg.cbSpecfic ≠ none
  buffer : ∃ pointer block, arg.publicArg.data = some pointer ∧
    world.heap[pointer]? = some block ∧ block.length = udpBufferLen ∧
    arg.publicArg.msgHeader.map Msghdr.buffers =
      some (some ⟨some pointer, udpBufferLen⟩, 1)
  localAddr : arg.publicArg.localAddr ≠ none
  forwarding :
    arg.cbSpecfic = some .cbForwardRecvfrom ∨
        arg.cbSpecfic = some .cbBroadcastRecvfrom →
      arg.publicArg.forwardingAddr ≠ none ∧
        world.IsOpen arg.publicArg.forwardingSocketFd

def World.WellFormed (world : World) : Prop :=
  ∀ watcher ∈ world.started,
    ∃ arg, world.args[watcher]? = some arg ∧ arg.WellFormed world

theorem World.Evolves.wellFormed
    (evolved : world.Evolves after) (wellFormed : world.WellFormed) :
    after.WellFormed := by
  intro watcher member
  rw [evolved.started] at member
  rcases wellFormed watcher member with ⟨arg, found, formed⟩
  rcases evolved.args watcher arg found with ⟨later, laterFound, kept⟩
  obtain ⟨pointer, block, data, blockFound, length, header⟩ :=
    formed.buffer
  refine ⟨later, laterFound, ?_, ?_, ?_, ?_⟩
  · rw [kept.cbSpecfic]
    exact formed.callback
  · have sameLength :
        (after.heap[pointer]?).map List.length = some block.length := by
      rw [← List.getElem?_map, evolved.blocks, List.getElem?_map,
        blockFound]
      rfl
    obtain ⟨laterBlock, laterBlockFound, laterLength⟩ :=
      Option.map_eq_some_iff.mp sameLength
    exact ⟨pointer, laterBlock, kept.publicArg.data.trans data,
      laterBlockFound, laterLength.trans length,
      kept.publicArg.msgHeader.trans header⟩
  · rw [kept.publicArg.localAddr]
    exact formed.localAddr
  · rw [kept.cbSpecfic, kept.publicArg.forwardingAddr,
      kept.publicArg.forwardingSocketFd, World.IsOpen, evolved.sockets]
    exact formed.forwarding

/-! ## Start-up and every later event -/

/-- The relay enters its loop with well-formed watchers. -/
theorem wellFormed_relayWorld
    (platform : Platform) (settings : Settings) (stdin : Stdin)
    (calls : Nat) (netPktinfo appPktinfo : Bool) :
    (relayWorld platform settings stdin calls netPktinfo
      appPktinfo).WellFormed := by
  intro watcher member
  have eitherOne : watcher = 0 ∨ watcher = 1 := by
    simpa [relayWorld] using member
  rcases eitherOne with rfl | rfl
  · refine ⟨netArg settings, rfl, ?_, ?_, ?_, fun _ => ⟨?_, ?_⟩⟩
    · simp [netArg, watcherArg]
    · exact ⟨0, freshBlock platform 0 udpBufferLen, rfl, rfl,
        length_freshBlock 0 udpBufferLen, rfl⟩
    · simp [netArg, watcherArg]
    · simp [netArg]
    · exact ⟨1, by simp [relayWorld], rfl⟩
  · refine ⟨appArg settings, rfl, ?_, ?_, ?_, fun _ => ⟨?_, ?_⟩⟩
    · simp [appArg, watcherArg]
    · exact ⟨1, freshBlock platform 1 udpBufferLen, rfl, rfl,
        length_freshBlock 1 udpBufferLen, rfl⟩
    · simp [appArg]
    · simp [appArg]
    · exact ⟨3, by simp [relayWorld], rfl⟩

/-- `main` enters its event loop with well-formed watchers, and all events
that return keep them well-formed. -/
def StartsWellFormed
    (platform : Platform) (opts : List Opt) (stdin : Stdin) : Prop :=
  ∃ loop world,
    main platform opts (World.initial stdin) = .ok loop world ∧
      world.WellFormed ∧
      ∀ events last, (∀ event ∈ events, event.watcher ∈ world.started) →
        evLoop platform events world = .ok () last → last.WellFormed

/-- With `-s` there is no application manager for `main` to take the loop
from. -/
private theorem not_startsWellFormed_of_txtest
    {opts : List Opt} (given : Opt.txtest ∈ opts) (stdin : Stdin) :
    ¬ StartsWellFormed platform opts stdin := by
  rintro ⟨loop, world, returned, -⟩
  rcases main_returned returned with ⟨-, settings, accepted, relay, -⟩
  rw [(txTest_createConfiguration accepted).mpr given] at relay
  cases relay

/-- Start-up ends in a well-formed state exactly in relay mode. -/
theorem startsWellFormed_iff
    {opts : List Opt} {settings : Settings}
    (accepted : createConfiguration opts = .ok settings)
    (found : HasInetEntry platform settings.cfg.ifName.text)
    (succeeds : platform.Succeeds)
    (stdin : Stdin) :
    StartsWellFormed platform opts stdin ↔ Opt.txtest ∉ opts := by
  constructor
  · intro starts given
    exact not_startsWellFormed_of_txtest given stdin starts
  · intro notGiven
    have relay : settings.cfg.txTest = false := by
      rw [← Bool.not_eq_true, txTest_createConfiguration accepted]
      exact notGiven
    have noFault := not_startFault accepted found succeeds
    obtain ⟨loop, world, returned⟩ :=
      main_returns accepted relay noFault stdin
    obtain ⟨-, other, -, -, -, -, calls, netPktinfo, appPktinfo, rfl⟩ :=
      main_returned returned
    have formed :=
      wellFormed_relayWorld platform other stdin calls
        netPktinfo appPktinfo
    exact ⟨loop, _, returned, formed, fun _ _ _ run =>
      (evLoop_evolves run).wellFormed formed⟩

theorem startsWellFormed_relayOptions :
    StartsWellFormed workingHost relayOptions .silent :=
  (startsWellFormed_iff createConfiguration_relayOptions
    hasInetEntry_workingHost succeeds_workingHost .silent).mpr (by decide)

theorem not_startsWellFormed_txtest :
    (∃ settings,
        createConfiguration (.txtest :: relayOptions) = .ok settings ∧
          HasInetEntry workingHost settings.cfg.ifName.text) ∧
      workingHost.Succeeds ∧
      ¬ StartsWellFormed workingHost (.txtest :: relayOptions) .silent := by
  refine ⟨⟨{ relaySettings with cfg.txTest := true }, rfl, ?_⟩,
    succeeds_workingHost, ?_⟩
  · exact hasInetEntry_workingHost
  · exact not_startsWellFormed_of_txtest (by simp) .silent

end UdpipBroadcaster
