import Courier.Config.Basic
import Courier.Packet.Basic
import Courier.Transport.Basic

namespace Courier

/-- Everything that a server or a client can fail with, told in the words of the part that failed.
-/
inductive Error where
  | transport (error : TransportError)
  | protocol (error : ProtocolError)
  | session (error : SessionError)
  | config (error : ConfigError)
  | notConnected
deriving DecidableEq, Repr

def Error.message : Error → String
  | .transport error => error.message
  | .protocol error => error.message
  | .session error => error.message
  | .config error => error.message
  | .notConnected => "not connected to a server"

end Courier
