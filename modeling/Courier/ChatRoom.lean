import Courier.Catalog
import Courier.Cluster
import Courier.Command

namespace Courier

open Datagram (Station)

/-! A chat room in one process: a server, and a client that does what its user types. -/

abbrev ChatRoom := Cluster ChatPacket Empty

namespace ChatRoom

def serverName : String := "server"

def clientName : String := "client"

def asServer (operation : EStateM Error (Server ChatPacket (Station Loopback) Empty) α) :
    EStateM Error ChatRoom α := fun room =>
  match room.member? serverName with
  | some (.server server) => Cluster.onServer serverName server operation room
  | _ => .error .notConnected room

def asClient (operation : EStateM Error (Client ChatPacket (Station Loopback) Empty) α) :
    EStateM Error ChatRoom α := fun room =>
  match room.member? clientName with
  | some (.client client) => Cluster.onClient clientName client operation room
  | _ => .error .notConnected room

def isConnected (room : ChatRoom) : Bool :=
  match room.member? clientName with
  | some (.client client) => client.isConnected
  | _ => false

/-- The server and then the client handles what has arrived, and what the client printed is taken
for the screen. -/
def turn (room : ChatRoom) : ChatRoom :=
  attempt (asClient Client.poll) (attempt (asServer Server.poll) room)

def takePrinted (room : ChatRoom) : List String × ChatRoom :=
  let lines := room.acts.filterMap fun (_, act) =>
    match act with
    | .printed line => some line
    | _ => none
  (lines, { room with acts := [] })

/-- The client connects to where the server can be reached, which is not everywhere it listens. -/
def reaching (config : Config) (server : SocketAddress) : Config :=
  let address := Loopback.sourceOf server
  { config with host := toString address.ip, port := address.port }

def enter (config : Config) : EStateM Error ChatRoom String := do
  Cluster.addServer serverName config ChatPacket.serverRegistry .empty
  let server ← asServer get
  let reached := server.localAddress.elim config (reaching config)
  Cluster.addClient clientName reached ChatPacket.clientRegistry .empty
  modify turn
  asClient (Client.send .hello)
  modify turn
  return server.address

def obey (nonce : UInt64) : Command → EStateM Error ChatRoom Unit
  | .ping => asClient (Client.send (.ping nonce))
  | .say text => asClient (Client.send (.chat text))
  | .quit => asClient Client.disconnect

end ChatRoom

end Courier
