import Courier.Config.Json
import Courier.Bytes

namespace Courier

/-- The options of the command line. Each is given at most once, and counts for more than the
configuration file, which counts for more than the defaults. -/
structure Options where
  config : Option String := none
  host : Option String := none
  port : Option UInt16 := none
  maxUsers : Option UInt64 := none
  log : Option String := none
deriving DecidableEq, Repr

inductive UsageError where
  | missingValue
  | emptyPath
  | badNumber
  | unknownArgument
  | repeatedOption
  | unneededValue
  | helpRequested
deriving DecidableEq, Repr

/-- An argument is an option, with or without a value attached to it, a cluster of letters, the mark
that no option follows, or a plain word. -/
inductive Argument where
  | option (name : List Char) (value : Option (List Char))
  | cluster (letters : List Char)
  | endOfOptions
  | word (chars : List Char)
deriving DecidableEq, Repr

def splitValue (text : List Char) : List Char × Option (List Char) :=
  let name := text.takeWhile (· ≠ '=')
  match text.drop name.length with
  | [] => (name, none)
  | _ :: value => (name, some value)

def Argument.ofChars : List Char → Argument
  | ['-', '-'] => .endOfOptions
  | '-' :: '-' :: rest => .option (splitValue rest).1 (splitValue rest).2
  | ['-'] => .word ['-']
  | '-' :: letters => .cluster letters
  | chars => .word chars

inductive OptionName where
  | config
  | host
  | port
  | maxUsers
  | log
deriving DecidableEq, Repr

def OptionName.name : OptionName → String
  | .config => "config"
  | .host => "host"
  | .port => "port"
  | .maxUsers => "max-users"
  | .log => "log"

def OptionName.ofChars? (name : List Char) : Option OptionName :=
  [OptionName.config, .host, .port, .maxUsers, .log].find? (·.name.toList = name)

def readDigits? (digits : List Char) : Option Nat :=
  match Text.takeDigits 10 digits with
  | (_ :: _, []) => some (Text.valueOfDigits 10 (Text.takeDigits 10 digits).1)
  | _ => none

def readUnsigned? : List Char → Option Nat
  | '+' :: digits => readDigits? digits
  | digits => readDigits? digits

def readSigned? : List Char → Option Int
  | '-' :: digits => (readDigits? digits).map fun size => -size
  | digits => (readUnsigned? digits).map Int.ofNat

def readPort (value : List Char) : Except UsageError UInt16 :=
  match readSigned? value with
  | some number =>
    if 0 ≤ number ∧ number < UInt16.size then .ok (UInt16.ofNat number.toNat) else .error .badNumber
  | none => .error .badNumber

def readSize (value : List Char) : Except UsageError UInt64 :=
  match readUnsigned? value with
  | some number => if number < UInt64.size then .ok (UInt64.ofNat number) else .error .badNumber
  | none => .error .badNumber

def readPath (value : List Char) : Except UsageError String :=
  if value.isEmpty then .error .emptyPath else .ok (String.ofList value)

namespace Options

def isGiven (options : Options) : OptionName → Bool
  | .config => options.config.isSome
  | .host => options.host.isSome
  | .port => options.port.isSome
  | .maxUsers => options.maxUsers.isSome
  | .log => options.log.isSome

def set (options : Options) (name : OptionName) (value : List Char) :
    Except UsageError Options :=
  match name with
  | .config => do return { options with config := some (← readPath value) }
  | .host => .ok { options with host := some (String.ofList value) }
  | .port => do return { options with port := some (← readPort value) }
  | .maxUsers => do return { options with maxUsers := some (← readSize value) }
  | .log => .ok { options with log := some (String.ofList value) }

def give (options : Options) (name : OptionName) : Option (List Char) → Except UsageError Options
  | none => .error .missingValue
  | some value => if options.isGiven name then .error .repeatedOption else options.set name value

/-- Arguments are read from left to right. An option whose value is the next word is only looked at
when the next option or the end is reached, so an unknown argument before that is told first. -/
structure Pending where
  name : OptionName
  value : Option (List Char)

def settle (options : Options) : Option Pending → Except UsageError Options
  | none => .ok options
  | some pending => options.give pending.name pending.value

def parseFrom (options : Options) (pending : Option Pending) :
    List Argument → Except UsageError Options
  | [] => options.settle pending
  | .endOfOptions :: rest =>
    if rest.isEmpty then options.settle pending else .error .unknownArgument
  | .word chars :: rest =>
    match pending with
    | some ⟨name, none⟩ => parseFrom options (some ⟨name, some chars⟩) rest
    | _ => .error .unknownArgument
  | .cluster letters :: _ =>
    if letters.head? = some 'h' then do
      let _ ← options.settle pending
      throw .helpRequested
    else .error .unknownArgument
  | .option name value :: rest =>
    match OptionName.ofChars? name, value with
    | some name, none => do
      parseFrom (← options.settle pending) (some ⟨name, none⟩) rest
    | some name, some value => do
      parseFrom (← (← options.settle pending).give name (some value)) none rest
    | none, value =>
      if name = "help".toList then
        if value.isSome then .error .unneededValue
        else do
          let _ ← options.settle pending
          throw .helpRequested
      else .error .unknownArgument

def parse (arguments : List String) : Except UsageError Options :=
  parseFrom {} none (arguments.map fun argument => Argument.ofChars argument.toList)

end Options

inductive LoadError where
  | file (path : String) (error : ConfigError)
  | merged (error : ConfigError)
deriving DecidableEq, Repr

namespace LoadError

def error : LoadError → ConfigError
  | .file _ error | .merged error => error

def context : LoadError → String
  | .file path _ => s!"load config {path}"
  | .merged _ => "invalid configuration"

end LoadError

def Config.ofFile (readFile : String → Except String Bytes) (path : String) :
    Except ConfigError Config :=
  match readFile path with
  | .error reason => .error (.unreadable path reason)
  | .ok bytes =>
    match bytes.toText? with
    | none => .error (.unreadable path "stream did not contain valid UTF-8")
    | some text => Config.parse text

namespace Options

/-- An option that is given replaces the setting, and nothing else changes. -/
def apply (options : Options) (config : Config) : Config :=
  { config with
    host := options.host.getD config.host
    port := options.port.getD config.port
    maxUsers := options.maxUsers.getD config.maxUsers
    logFilter := options.log.getD config.logFilter }

def base (options : Options) (readFile : String → Except String Bytes) : Except LoadError Config :=
  match options.config with
  | none => .ok {}
  | some path => (Config.ofFile readFile path).mapError (.file path)

def load (options : Options) (readFile : String → Except String Bytes) :
    Except LoadError Config := do
  let config := options.apply (← options.base readFile)
  match config.validate with
  | .ok () => return config
  | .error error => throw (.merged error)

end Options

end Courier
