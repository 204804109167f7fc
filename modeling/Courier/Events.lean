import Courier.Bytes
import Courier.Identity

namespace Courier

inductive EventKind where
  | connect
  | disconnect
  | message
deriving DecidableEq, Repr

namespace EventKind

instance : ToString EventKind where
  toString
    | .connect => "connect"
    | .disconnect => "disconnect"
    | .message => "message"

def code : EventKind → UInt8
  | .connect => 1
  | .disconnect => 2
  | .message => 3

def describe : EventKind → String
  | .connect => "Connect"
  | .disconnect => "Disconnect"
  | .message => "Message"

def all : List EventKind :=
  [.connect, .disconnect, .message]

end EventKind

structure NetEvent where
  peer : PeerHandle
  user : Option UserId
  data : Bytes := []
deriving DecidableEq, Repr

/-- At most one callback for each kind. A callback is known by a name; a run of it is that name with
the event it was told. -/
structure EventHandlers (κ : Type) where
  onConnect : Option κ := none
  onDisconnect : Option κ := none
  onMessage : Option κ := none
deriving DecidableEq, Repr

namespace EventHandlers

def empty : EventHandlers κ := {}

def callback? (handlers : EventHandlers κ) : EventKind → Option κ
  | .connect => handlers.onConnect
  | .disconnect => handlers.onDisconnect
  | .message => handlers.onMessage

def on (handlers : EventHandlers κ) (kind : EventKind) (callback : κ) : EventHandlers κ :=
  match kind with
  | .connect => { handlers with onConnect := some callback }
  | .disconnect => { handlers with onDisconnect := some callback }
  | .message => { handlers with onMessage := some callback }

def contains (handlers : EventHandlers κ) (kind : EventKind) : Bool :=
  (handlers.callback? kind).isSome

def kinds (handlers : EventHandlers κ) : List EventKind :=
  EventKind.all.filter handlers.contains

def call (handlers : EventHandlers κ) (kind : EventKind) (event : NetEvent) :
    List (κ × NetEvent) :=
  ((handlers.callback? kind).map fun callback => (callback, event)).toList

@[simp] theorem callback?_empty (kind : EventKind) :
    (empty : EventHandlers κ).callback? kind = none := by
  cases kind <;> rfl

theorem callback?_on (handlers : EventHandlers κ) (kind other : EventKind) (callback : κ) :
    (handlers.on kind callback).callback? other =
      if kind = other then some callback else handlers.callback? other := by
  cases kind <;> cases other <;> rfl

end EventHandlers

end Courier
