import Courier.Text.Blank
import Courier.Text.Quoted
import Courier.Json.Number
import Courier.Users.Table

namespace Courier

/-! The settings of a server or a client. The host and the port are where a server listens, and what
a client connects to. A configuration is usable if its host is not blank, there is a channel to send
on, and the limits are in range; of several flaws the first one is told. -/

structure Config where
  host : String := "127.0.0.1"
  port : UInt16 := 8080
  channels : UInt8 := 1
  maxPeers : UInt64 := 32
  maxUsers : UInt64 := 32
  pollTimeout : UInt64 := 10
  sendChannel : UInt8 := 0
  logFilter : String := "info"
deriving DecidableEq, Repr

instance : Inhabited Config := ⟨{}⟩

def Config.address (config : Config) : String :=
  s!"{config.host}:{config.port}"

inductive Setting where
  | host
  | port
  | channels
  | maxPeers
  | maxUsers
  | pollTimeout
  | sendChannel
  | logFilter
deriving DecidableEq, Repr

namespace Setting

def name : Setting → String
  | .host => "host"
  | .port => "port"
  | .channels => "channels"
  | .maxPeers => "max_peers"
  | .maxUsers => "max_users"
  | .pollTimeout => "poll_timeout_ms"
  | .sendChannel => "send_channel"
  | .logFilter => "log_filter"

def afterHost : List Setting :=
  [.port, .channels, .maxPeers, .maxUsers, .pollTimeout, .sendChannel, .logFilter]

def all : List Setting :=
  .host :: afterHost

def ofName? (name : String) : Option Setting :=
  all.find? fun setting => setting.name = name

theorem ofName?_name (setting : Setting) : ofName? setting.name = some setting := by
  cases setting <;> decide +kernel

theorem name_of_ofName? {name : String} {setting : Setting} (found : ofName? name = some setting) :
    setting.name = name := by
  simpa using List.find?_some found

theorem mem_all (setting : Setting) : setting ∈ all := by
  cases setting <;> decide

end Setting

inductive Shape where
  | octet
  | short
  | long
  | size
  | text
  | config
deriving DecidableEq, Repr

def Shape.name : Shape → String
  | .octet => "u8"
  | .short => "u16"
  | .long => "u64"
  | .size => "usize"
  | .text => "a string"
  | .config => "struct NetConfig"

inductive Found where
  | null
  | boolean (value : Bool)
  | integer (value : Int)
  | floating
  | text (value : String)
  | sequence
  | map
deriving DecidableEq, Repr

def Found.describe : Found → String
  | .null => "null"
  | .boolean value => s!"boolean `{value}`"
  | .integer value => s!"integer `{value}`"
  | .floating => "floating point"
  | .text value => "string " ++ Text.quote value
  | .sequence => "sequence"
  | .map => "map"

inductive ParseError where
  | syntactic (fault : Json.Fault)
  | wrongType (found : Found) (expected : Shape)
  | outOfRange (value : Int) (expected : Shape)
  | duplicate (setting : Setting)
deriving DecidableEq, Repr

def ParseError.describe : ParseError → String
  | .syntactic .cut => "unexpected end of text"
  | .syntactic .malformed => "malformed text"
  | .wrongType found expected => s!"invalid type: {found.describe}, expected {expected.name}"
  | .outOfRange value expected => s!"invalid value: integer `{value}`, expected {expected.name}"
  | .duplicate setting => s!"duplicate field `{setting.name}`"

inductive Flaw where
  | blankHost
  | noChannels
  | sendChannel (channel channels : UInt8)
  | noPeers
  | tooManyUsers (users : UInt64)
deriving DecidableEq, Repr

def Flaw.describe : Flaw → String
  | .blankHost => "host must not be empty"
  | .noChannels => "channels must be at least 1"
  | .sendChannel channel channels =>
    s!"send_channel {channel} is out of range for {channels} channel(s)"
  | .noPeers => "max_peers must be at least 1"
  | .tooManyUsers users => s!"max_users {users} exceeds the limit of {UserTable.maxCapacity}"

inductive ConfigError where
  | unreadable (path reason : String)
  | unparsable (error : ParseError)
  | unusable (flaw : Flaw)
deriving DecidableEq, Repr

def ConfigError.message : ConfigError → String
  | .unreadable path reason => s!"failed to read config file {path}: {reason}"
  | .unparsable error => s!"failed to parse config: {error.describe}"
  | .unusable flaw => s!"invalid config: {flaw.describe}"

namespace Config

/-- The first flaw, in the order in which they are looked for. -/
def flaw? (config : Config) : Option Flaw :=
  if Text.allBlank config.host then some .blankHost
  else if config.channels = 0 then some .noChannels
  else if config.channels ≤ config.sendChannel then
    some (.sendChannel config.sendChannel config.channels)
  else if config.maxPeers = 0 then some .noPeers
  else if UserTable.maxCapacity < config.maxUsers.toNat then some (.tooManyUsers config.maxUsers)
  else none

def validate (config : Config) : Except ConfigError Unit :=
  match config.flaw? with
  | some flaw => .error (.unusable flaw)
  | none => .ok ()

def userTable (config : Config) : UserTable :=
  .ofSize config.maxUsers.toNat

theorem flaw?_eq_none_iff (config : Config) :
    config.flaw? = none ↔ Text.allBlank config.host = false ∧ config.channels ≠ 0 ∧
      config.sendChannel < config.channels ∧ config.maxPeers ≠ 0 ∧
      config.maxUsers.toNat ≤ UserTable.maxCapacity := by
  have channel : config.sendChannel < config.channels ↔ ¬ config.channels ≤ config.sendChannel :=
    UInt8.not_le.symm
  have users : config.maxUsers.toNat ≤ UserTable.maxCapacity ↔
      ¬ UserTable.maxCapacity < config.maxUsers.toNat := Nat.not_lt.symm
  rw [channel, users]
  unfold flaw?
  repeat' split
  all_goals simp only [*, reduceCtorEq, ne_eq, not_true_eq_false, not_false_eq_true,
    Bool.true_eq_false, Bool.not_eq_true, and_false, false_and, and_self] at *

end Config

end Courier
