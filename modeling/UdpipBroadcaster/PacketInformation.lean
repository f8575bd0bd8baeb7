import UdpipBroadcaster.Startup

/-!
# Packet information

`set_msghdrs_socket` passes the address of a pointer where the kernel reads
an `int`.  The option is enabled unless the low half of the pointer is zero.
-/

namespace UdpipBroadcaster

open ByteStrings Programs

/-! ## The option value -/

/-- The `int` the kernel reads at the address of a pointer: its first four
bytes, the lowest first. -/
def optionValue (pointer : UInt64) : Nat :=
  fromLittleEndian ((littleEndian 8 pointer.toNat).take 4)

theorem optionValue_eq (pointer : UInt64) :
    optionValue pointer = pointer.toNat % 2 ^ 32 := by
  have front :
      (littleEndian 8 pointer.toNat).take 4 =
        littleEndian 4 pointer.toNat := rfl
  have width : 256 ^ 4 = 2 ^ 32 := by norm_num
  rw [optionValue, front, fromLittleEndian_littleEndian, width]

/-- The model of `setsockopt` enables the option for these values. -/
theorem toUInt32_ne_zero_iff (pointer : UInt64) :
    pointer.toUInt32 ≠ 0 ↔ optionValue pointer ≠ 0 := by
  rw [optionValue_eq, ne_eq, ne_eq, ← UInt32.toNat_inj,
    UInt64.toNat_toUInt32]
  rfl

/-! ## The receiver socket -/

/-- Packet information is enabled on the socket with this descriptor. -/
def World.PktinfoEnabled (world : World) (fd : Int) : Prop :=
  ∃ socket, world.sockets[fd.toNat]? = some socket ∧
    socket.pktinfo = true

variable {platform : Platform} {world next : World}

theorem openReceiverUdpSocket_pktinfo
    {port fd : Int}
    (returned : openReceiverUdpSocket platform port world = .ok fd next) :
    ∃ socket, next.sockets[fd.toNat]? = some socket ∧
      (socket.pktinfo = true ↔
        (ifreqAddress platform world).toUInt32 ≠ 0) := by
  have run :
      wp (fun _ => True) (openReceiverUdpSocket platform port)
        (fun fd next =>
          ∃ socket, next.sockets[fd.toNat]? = some socket ∧
            (socket.pktinfo = true ↔
              (ifreqAddress platform world).toUInt32 ≠ 0))
        world := by
    apply wp_openReceiverUdpSocket fun _ => trivial
    intro calls
    rw [World.toNat_handle]
    exact ⟨_, List.getElem?_concat_length, decide_eq_true_iff⟩
  have result := post_of_returned run returned
  exact result

/-- The socket of a receiver delivers packet information exactly if the
address of the structure is not a multiple of `2 ^ 32`. -/
theorem pktinfoEnabled_iff
    {port fd : Int}
    (returned : openReceiverUdpSocket platform port world = .ok fd next) :
    next.PktinfoEnabled fd ↔
      ¬ 2 ^ 32 ∣ (ifreqAddress platform world).toNat := by
  rcases openReceiverUdpSocket_pktinfo returned with
    ⟨socket, found, enabled⟩
  have option :
      socket.pktinfo = true ↔
        ¬ 2 ^ 32 ∣ (ifreqAddress platform world).toNat := by
    rw [enabled, toUInt32_ne_zero_iff, optionValue_eq,
      Nat.dvd_iff_mod_eq_zero]
  constructor
  · intro delivers
    rcases delivers with ⟨other, foundOther, on⟩
    rw [found] at foundOther
    cases foundOther
    exact option.mp on
  · intro address
    exact ⟨socket, found, option.mpr address⟩

theorem pktinfoEnabled_workingHost_iff :
    ∃ fd next,
      openReceiverUdpSocket workingHost 5000 (World.initial .silent) =
          .ok fd next ∧
        (next.PktinfoEnabled fd ↔
          ¬ 2 ^ 32 ∣
            (ifreqAddress workingHost (World.initial .silent)).toNat) :=
  ⟨_, _, rfl, pktinfoEnabled_iff rfl⟩

/-- A host whose allocator reaches the address `0x555500000000` with the
structure of the first receiver -/
def alignedHost : Platform :=
  { workingHost with
    mallocAddress := fun call => 0x5554ffffff40 + 64 * UInt64.ofNat call }

theorem not_pktinfoEnabled_alignedHost :
    ifreqAddress alignedHost (World.initial .silent) ≠ 0 ∧
      16 ∣ (ifreqAddress alignedHost (World.initial .silent)).toNat ∧
      ∃ fd next,
        openReceiverUdpSocket alignedHost 5000 (World.initial .silent) =
            .ok fd next ∧
          ¬ next.PktinfoEnabled fd := by
  refine ⟨by decide, by decide, _, _, rfl, ?_⟩
  intro delivers
  rcases delivers with ⟨socket, found, on⟩
  cases found
  have off : ¬ (0x555500000000 : UInt64).toUInt32 ≠ 0 := by decide
  exact off (of_decide_eq_true on)

end UdpipBroadcaster
