import Courier.Catalog
import Courier.Proofs.Advances
import Courier.Proofs.Server.Answers
import Courier.Proofs.Server.Sessions
import Mathlib

namespace Courier

/-! What goes out for a packet. The bytes are those of the packet on its own, whatever has been in
the buffer before, and they go to whoever is there at that moment. -/

namespace TransportCall

variable {τ : Type} [Transport τ]

end TransportCall

namespace Node

variable {π τ κ : Type} [Transport τ]

end Node

namespace Server

variable {π τ κ : Type} [PacketType π] [Transport τ]

end Server

namespace Client

variable {π τ κ : Type} [PacketType π] [Transport τ]

abbrev Makes (before : Client π τ κ) (calls : List TransportCall) (after : Client π τ κ) : Prop :=
  before.toNode.Makes calls after.toNode

end Client

def visitor : Node ChatPacket Scripted Unit :=
  { transport := { serverPeer := ⟨3⟩ } }

def asking : Node ChatPacket Scripted Unit :=
  { visitor with
    acts := [.called .start, .called (.createClient 1), .called (.connect "127.0.0.1" 8080 1)] }

def guest : Client ChatPacket Scripted Unit :=
  { asking with server := ⟨3⟩ }

end Courier
