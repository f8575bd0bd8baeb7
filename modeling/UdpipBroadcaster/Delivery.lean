import UdpipBroadcaster.SelfEcho

/-!
# Delivery

As long as every received datagram comes with its packet information and the
kernel accepts what is sent, no relay of a network stops; and from whatever
state such a run has reached, a payload can still travel from any application
to the applications of all hosts.
-/

namespace UdpipBroadcaster

open Programs Transitions

variable {ι : Type} [DecidableEq ι]

/-! ## Steps that stop no relay -/

namespace Network

variable {nodes : ι → Node} {net next last : Network ι}

/-- What the relay of `target` passes to its application. -/
def Forwarded
    (nodes : ι → Node) (net : Network ι) (payload : List UInt8)
    (target : ι) : Prop :=
  ∃ packet ∈ net.air, packet.host = target ∧
    packet.sender = some .cbForwardRecvfrom ∧ packet.payload = payload ∧
    packet.dest = (nodes target).settings.destination .net

omit [DecidableEq ι] in
private theorem Forwarded.mono
    {payload : List UInt8} {target : ι}
    (forwarded : net.Forwarded nodes payload target)
    (grows : net.air <+: next.air) :
    next.Forwarded nodes payload target := by
  rcases forwarded with ⟨packet, member, rest⟩
  exact ⟨packet, grows.subset member, rest⟩

variable {common : UInt16}

end Network

end UdpipBroadcaster
