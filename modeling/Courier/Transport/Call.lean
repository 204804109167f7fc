import Courier.Transport.Basic

namespace Courier

/-- Each operation of a transport as data, so that a program's use of it can be recorded. -/
inductive TransportCall where
  | start
  | stop
  | createServer (host : String) (port : UInt16) (channels : UInt8) (maxPeers : Nat)
  | createClient (channels : UInt8)
  | connect (host : String) (port : UInt16) (channels : UInt8)
  | disconnect
  | disconnectPeer (peer : PeerHandle)
  | poll (timeout : Nat)
  | send (peer : PeerHandle) (channel : UInt8) (data : Bytes) (flags : SendFlags)
deriving DecidableEq, Repr

namespace TransportCall

def Answer : TransportCall → Type
  | .connect .. => PeerHandle
  | .poll _ => List RawEvent
  | _ => Unit

def run [Transport τ] : (call : TransportCall) → EStateM TransportError τ call.Answer
  | .start => Transport.start
  | .stop => modify Transport.stop
  | .createServer host port channels maxPeers =>
    Transport.createServer host port channels maxPeers
  | .createClient channels => Transport.createClient channels
  | .connect host port channels => Transport.connect host port channels
  | .disconnect => Transport.disconnect
  | .disconnectPeer peer => Transport.disconnectPeer peer
  | .poll timeout => Transport.poll timeout
  | .send peer channel data flags => Transport.send peer channel data flags

end TransportCall

/-- Waiting that can be cut short. An awaited poll yields nothing if the program was told to end
before anything came, and the program can let time pass between two polls. -/
class Interruptible (τ : Type) where
  await (timeout : Nat) : EStateM TransportError τ (Option (List RawEvent))
  sleep (time : Nat) : τ → τ

end Courier
