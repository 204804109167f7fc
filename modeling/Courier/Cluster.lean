import Courier.Client
import Courier.Datagram.Endpoint
import Courier.Loopback
import Courier.Server

namespace Courier

open Datagram (Endpoint Process Station)

/-! Endpoints, servers and clients of one process on its loopback network, each under a name. What
a server or a client does is recorded with its name. -/

inductive Member (π κ : Type) where
  | endpoint (endpoint : Endpoint)
  | server (server : Server π Endpoint κ)
  | client (client : Client π Endpoint κ)

structure Cluster (π κ : Type) where
  process : Process Loopback := { network := {} }
  members : List (String × Member π κ) := []
  acts : List (String × Act κ) := []

def Member.endpointOf : Member π κ → Endpoint
  | .endpoint bare => bare
  | .server node => node.transport
  | .client node => node.transport

namespace Cluster

variable {π κ : Type} [PacketType π]

def member? (cluster : Cluster π κ) (name : String) : Option (Member π κ) :=
  cluster.members.lookup name

def forget (cluster : Cluster π κ) (name : String) : Cluster π κ :=
  { cluster with members := cluster.members.filter (·.1 ≠ name) }

def keep (cluster : Cluster π κ) (name : String) (member : Member π κ) : Cluster π κ :=
  { cluster with members := (name, member) :: (cluster.forget name).members }

def record (cluster : Cluster π κ) (name : String) (acts : List (Act κ)) : Cluster π κ :=
  { cluster with acts := cluster.acts ++ acts.map (name, ·) }

def onNetwork (change : Loopback → Loopback) (cluster : Cluster π κ) : Cluster π κ :=
  { cluster with process := { cluster.process with network := change cluster.process.network } }

def station (cluster : Cluster π κ) (endpoint : Endpoint) : Station Loopback :=
  { endpoint, process := cluster.process }

def afterStation (cluster : Cluster π κ) (station : Station Loopback) : Cluster π κ :=
  { cluster with process := station.process }

def keepServer (cluster : Cluster π κ) (name : String) (server : Server π (Station Loopback) κ) :
    Cluster π κ :=
  let idle := { server.withTransport server.transport.endpoint with acts := [] }
  ((cluster.afterStation server.transport).record name server.acts).keep name (.server idle)

def keepClient (cluster : Cluster π κ) (name : String) (client : Client π (Station Loopback) κ) :
    Cluster π κ :=
  let idle := { client.withTransport client.transport.endpoint with acts := [] }
  ((cluster.afterStation client.transport).record name client.acts).keep name (.client idle)

def onEndpoint (name : String) (endpoint : Endpoint)
    (operation : EStateM TransportError (Station Loopback) α) :
    EStateM TransportError (Cluster π κ) α := fun cluster =>
  let keepStation := fun (station : Station Loopback) =>
    (cluster.afterStation station).keep name (.endpoint station.endpoint)
  match operation (cluster.station endpoint) with
  | .ok value station => .ok value (keepStation station)
  | .error error station => .error error (keepStation station)

def onServer (name : String) (server : Server π Endpoint κ)
    (operation : EStateM Error (Server π (Station Loopback) κ) α) :
    EStateM Error (Cluster π κ) α := fun cluster =>
  match operation (server.withTransport (cluster.station server.transport)) with
  | .ok value server => .ok value (cluster.keepServer name server)
  | .error error server => .error error (cluster.keepServer name server)

def onClient (name : String) (client : Client π Endpoint κ)
    (operation : EStateM Error (Client π (Station Loopback) κ) α) :
    EStateM Error (Cluster π κ) α := fun cluster =>
  match operation (client.withTransport (cluster.station client.transport)) with
  | .ok value client => .ok value (cluster.keepClient name client)
  | .error error client => .error error (cluster.keepClient name client)

/-- Closing a socket frees its address for others. -/
def closed (cluster : Cluster π κ) (endpoint : Endpoint) : Cluster π κ :=
  cluster.afterStation (cluster.station endpoint).closeHost

def drop (cluster : Cluster π κ) (name : String) : Cluster π κ :=
  match cluster.member? name with
  | none => cluster
  | some member => (cluster.closed member.endpointOf).forget name

def closeReplaced (cluster before : Cluster π κ) (name : String) : Cluster π κ :=
  match before.member? name with
  | none => cluster
  | some member => cluster.closed member.endpointOf

def addEndpoint (cluster : Cluster π κ) (name : String) : Cluster π κ :=
  (cluster.drop name).keep name (.endpoint {})

/-- A node on an endpoint of its own that has not been started. -/
def fresh (cluster : Cluster π κ) (config : Config) (registry : PacketRegistry π)
    (handlers : EventHandlers κ) : Node π (Station Loopback) κ :=
  { transport := cluster.station {}, config, registry, handlers }

def abandon (cluster : Cluster π κ) (node : Node π (Station Loopback) κ) : Cluster π κ :=
  cluster.afterStation node.transport.closeHost

def addServer (name : String) (config : Config) (registry : PacketRegistry π)
    (handlers : EventHandlers κ) : EStateM Error (Cluster π κ) Unit := fun cluster =>
  match Server.build (cluster.fresh config registry handlers) with
  | .ok server _ =>
    .ok () ((cluster.keepServer name server).closeReplaced cluster name)
  | .error error node => .error error (cluster.abandon node)

def addClient (name : String) (config : Config) (registry : PacketRegistry π)
    (handlers : EventHandlers κ) : EStateM Error (Cluster π κ) Unit := fun cluster =>
  match Client.connect (cluster.fresh config registry handlers) with
  | .ok client _ =>
    .ok () ((cluster.keepClient name client).closeReplaced cluster name)
  | .error error node => .error error (cluster.abandon node)

end Cluster

end Courier
