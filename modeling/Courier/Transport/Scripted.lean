import Courier.Transport.Call

namespace Courier

/-- A transport that does as it is told, for a server or a client without a network. It answers
each poll from its script, and an awaited one by the end once the script is used up. -/
structure Scripted where
  startFault : Option TransportError := none
  createFault : Option TransportError := none
  connectFault : Option TransportError := none
  disconnectFault : Option TransportError := none
  deaf : List PeerHandle := []
  untold : List PeerHandle := []
  address : Option SocketAddress := none
  serverPeer : PeerHandle := ⟨1⟩
  polls : List (Except TransportError (List RawEvent)) := []
  slept : Nat := 0

namespace Scripted

def unlessFault (fault : Scripted → Option TransportError) : EStateM TransportError Scripted Unit :=
  fun script =>
    match fault script with
    | some error => .error error script
    | none => .ok () script

def unlessIn (peer : PeerHandle) (peers : Scripted → List PeerHandle) :
    EStateM TransportError Scripted Unit :=
  unlessFault fun script =>
    if peer ∈ peers script then some (.sendFailed "network unreachable") else none

def nextPoll : EStateM TransportError Scripted (Option (List RawEvent)) := fun script =>
  match script.polls with
  | [] => .ok none script
  | .ok events :: rest => .ok (some events) { script with polls := rest }
  | .error error :: rest => .error error { script with polls := rest }

instance : Transport Scripted where
  start := unlessFault startFault
  stop script := { script with address := none }
  createServer _ _ _ _ := unlessFault createFault
  createClient _ := unlessFault createFault
  connect _ _ _ := do
    unlessFault connectFault
    return (← get).serverPeer
  disconnect := unlessFault disconnectFault
  disconnectPeer peer := unlessIn peer untold
  poll _ := do return (← nextPoll).getD []
  send peer _ _ _ := unlessIn peer deaf
  localAddress := address

instance : Interruptible Scripted where
  await _ := nextPoll
  sleep time script := { script with slept := script.slept + time }

end Scripted

end Courier
