import UdpipBroadcaster.Startup

/-!
# Interface lookup

`init_if_sockaddr_in` finds an interface whatever else the list holds, and
exits only if it is not there.  The address it found is dropped on the way
through `init_sockaddr_in`.
-/

namespace UdpipBroadcaster

open Programs

/-- `getnameinfo` gives a numeric text of every IPv4 address of the list,
which `inet_addr` reads back. -/
def Platform.Resolves (platform : Platform) : Prop :=
  ∀ ifa ∈ platform.ifaddrs, ∀ addr, ifa.ifaAddr = some addr →
    addr.sinFamily = afInet →
      ∃ host, platform.getnameinfo addr = some host ∧
        inetAddr host = addr.sAddr

/-- The lookup returns exactly if the interface has an IPv4 entry, and then
an address of the interface with the given port; otherwise the process
exits. -/
structure LooksUp
    (platform : Platform) (ifName : CString) (port : Int) (world : World) :
    Prop where
  returns : platform.ListsInet ifName →
    ∃ addr next,
      initIfSockaddrIn platform ifName port world =
          .ok (some addr) next ∧
        addr.sinFamily = afInet ∧ addr.port = toUInt16 port ∧
        ∃ ifa ∈ platform.ifaddrs, ∃ found,
          ifa.IsInet ifName found ∧ addr.sAddr = found.sAddr
  exits : ¬ platform.ListsInet ifName →
    ∃ next,
      initIfSockaddrIn platform ifName port world =
        .error .exitFailure next

/-- An IPv4 entry of the interface has the address `0.0.0.0`. -/
def Platform.ListsAny (platform : Platform) (ifName : CString) : Prop :=
  ∃ ifa ∈ platform.ifaddrs, ∃ found,
    ifa.IsInet ifName found ∧ found.sAddr = inaddrAny

variable {platform : Platform}

/-- Nothing but a missing interface makes the lookup stop. -/
theorem listsInet_of_resolves
    {ifName : CString} (succeeds : ∀ call, platform.fails call = false)
    (resolves : platform.Resolves)
    (fault : LookupFault platform ifName) :
    ¬ platform.ListsInet ifName := by
  rcases fault with ⟨call, fails⟩ | noEntry
  · rw [succeeds call] at fails
    cases fails
  · intro listed
    apply noEntry
    refine ⟨listed, ?_⟩
    intro ifa member addr isInet unnamed
    obtain ⟨host, named, -⟩ :=
      resolves ifa member addr isInet.2.1 isInet.2.2
    rw [named] at unnamed
    cases unnamed

/-- The lookup is right exactly if there is no such interface or it has the
address `0.0.0.0`. -/
theorem looksUp_iff
    (succeeds : ∀ call, platform.fails call = false)
    (resolves : platform.Resolves) (ifName : CString) (port : Int)
    (world : World) :
    LooksUp platform ifName port world ↔
      (platform.ListsInet ifName → platform.ListsAny ifName) := by
  have run :
      wp (fun reason =>
          reason = .exitFailure ∧ ¬ platform.ListsInet ifName)
        (initIfSockaddrIn platform ifName port)
        (fun addr _ =>
          addr = some (lookedUp port) ∧ platform.ListsInet ifName)
        world :=
    wp_initIfSockaddrIn
      (fun fault => ⟨rfl, listsInet_of_resolves succeeds resolves fault⟩)
      (fun _ entry => ⟨rfl, entry.found⟩)
  cases result : initIfSockaddrIn platform ifName port world with
  | ok addr next =>
      simp only [wp, result] at run
      rcases run with ⟨rfl, listed⟩
      constructor
      · intro looks _
        obtain ⟨addr, _, returned, -, -, ifa, member, found, isInet, same⟩ :=
          looks.returns listed
        rw [result] at returned
        cases returned
        exact ⟨ifa, member, found, isInet, same.symm⟩
      · intro anyAddress
        obtain ⟨ifa, member, found, isInet, isAny⟩ := anyAddress listed
        constructor
        · intro _
          exact ⟨lookedUp port, next, result, rfl, ntohs_htons _, ifa,
            member, found, isInet, isAny.symm⟩
        · intro unlisted
          exact absurd listed unlisted
  | error reason next =>
      simp only [wp, result] at run
      rcases run with ⟨rfl, unlisted⟩
      constructor
      · intro _ listed
        exact absurd listed unlisted
      · intro _
        constructor
        · intro listed
          exact absurd listed unlisted
        · intro _
          exact ⟨next, result⟩

private theorem resolves_workingHost : workingHost.Resolves := by
  intro ifa member addr isSome _
  rw [List.mem_singleton.mp member] at isSome
  cases isSome
  exact ⟨_, rfl, inetAddr_dottedQuad 192 168 1 5⟩

theorem looksUp_workingHost_iff :
    LooksUp workingHost interfaceText 5000 (World.initial .silent) ↔
      (workingHost.ListsInet interfaceText →
        workingHost.ListsAny interfaceText) :=
  looksUp_iff (fun _ => rfl) resolves_workingHost interfaceText 5000
    (World.initial .silent)

/-- `eth0` has the address `192.168.1.5`, and the lookup returns
`0.0.0.0`. -/
theorem not_looksUp_workingHost :
    (∀ call, workingHost.fails call = false) ∧ workingHost.Resolves ∧
      workingHost.ListsInet interfaceText ∧
      ¬ LooksUp workingHost interfaceText 5000 (World.initial .silent) := by
  have listed : workingHost.ListsInet interfaceText :=
    ⟨_, List.mem_singleton.mpr rfl, _, rfl, rfl, rfl⟩
  refine ⟨fun _ => rfl, resolves_workingHost, listed, fun looks => ?_⟩
  obtain ⟨addr, next, returned, -, -, ifa, member, found, isInet, same⟩ :=
    looks.returns listed
  have dropped :
      initIfSockaddrIn workingHost interfaceText 5000 (World.initial .silent) =
        .ok (some (lookedUp 5000)) { World.initial .silent with calls := 2 } :=
    rfl
  rw [dropped] at returned
  cases returned
  have isSome := isInet.2.1
  rw [List.mem_singleton.mp member] at isSome
  cases isSome
  exact absurd same (by decide)

end UdpipBroadcaster
