import Courier.Config.Basic
import Courier.Json.Skip
import Courier.Json.Written

namespace Courier

open Json

/-! A configuration as JSON text. Reading takes the tokens one by one, so of several errors the
first one from the left is told. -/

def Config.textOf (ending : Except Fault Unit) (pieces : List Piece) : Except ParseError String :=
  match decodePieces ending pieces with
  | .ok chars => .ok (String.ofList chars)
  | .error fault => .error (.syntactic fault)

namespace Found

open Config

def ofNumber (number : Number) : Except ParseError Found :=
  match number.integer? with
  | some value => .ok (.integer value)
  | none => if number.exceedsDouble then .error (.syntactic .malformed) else .ok .floating

def ofToken : Token → Except ParseError Found
  | .null => .ok .null
  | .boolean value => .ok (.boolean value)
  | .number number => ofNumber number
  | .string pieces => (textOf (.ok ()) pieces).map .text
  | .beginArray => .ok .sequence
  | .beginObject => .ok .map
  | .brokenWord fault | .brokenNumber fault => .error (.syntactic fault)
  | .brokenString pieces fault => (textOf (.error fault) pieces).map .text
  | _ => .error (.syntactic .malformed)

end Found

namespace Config

def keyOf : Token → Except ParseError String
  | .string pieces => textOf (.ok ()) pieces
  | .brokenString pieces fault => textOf (.error fault) pieces
  | _ => .error (.syntactic .malformed)

def readText (token : Token) : Except ParseError String := do
  match ← Found.ofToken token with
  | .text value => return value
  | other => throw (.wrongType other .text)

def readNumber (shape : Shape) (limit : Nat) (token : Token) : Except ParseError Nat := do
  match ← Found.ofToken token with
  | .integer value =>
    if 0 ≤ value ∧ value < limit then return value.toNat else throw (.outOfRange value shape)
  | other => throw (.wrongType other shape)

def readOctet (token : Token) : Except ParseError UInt8 :=
  (readNumber .octet UInt8.size token).map UInt8.ofNat

def readShort (token : Token) : Except ParseError UInt16 :=
  (readNumber .short UInt16.size token).map UInt16.ofNat

def readLong (shape : Shape) (token : Token) : Except ParseError UInt64 :=
  (readNumber shape UInt64.size token).map UInt64.ofNat

def store (setting : Setting) (token : Token) (config : Config) : Except ParseError Config :=
  match setting with
  | .host => do return { config with host := ← readText token }
  | .port => do return { config with port := ← readShort token }
  | .channels => do return { config with channels := ← readOctet token }
  | .maxPeers => do return { config with maxPeers := ← readLong .size token }
  | .maxUsers => do return { config with maxUsers := ← readLong .size token }
  | .pollTimeout => do return { config with pollTimeout := ← readLong .long token }
  | .sendChannel => do return { config with sendChannel := ← readOctet token }
  | .logFilter => do return { config with logFilter := ← readText token }

/-- The text is an object that names settings, each at most once, among keys that mean nothing here;
or an array of the settings in their order, with the rest of them left out. A step leaves nothing to
expect once the object or the array is closed. -/
inductive Expects where
  | whole
  | firstKey
  | key
  | colon (setting : Option Setting)
  | value (setting : Setting)
  | skipping (state : Skipping)
  | memberEnd
  | firstElement (setting : Setting) (later : List Setting)
  | element (setting : Setting) (later : List Setting)
  | elementEnd (later : List Setting)
  | nothing
deriving DecidableEq, Repr

structure Reading where
  expects : Expects := .whole
  config : Config := {}
  seen : List Setting := []
deriving DecidableEq, Repr

namespace Reading

def unexpected : Except ParseError Reading :=
  .error (.syntactic .malformed)

def start (reading : Reading) (token : Token) : Except ParseError Reading :=
  match token with
  | .beginObject => .ok { reading with expects := .firstKey }
  | .beginArray => .ok { reading with expects := .firstElement .host Setting.afterHost }
  | token => do throw (.wrongType (← Found.ofToken token) .config)

def readKey (reading : Reading) (token : Token) : Except ParseError Reading := do
  match Setting.ofName? (← keyOf token) with
  | none => return { reading with expects := .colon none }
  | some setting =>
    if setting ∈ reading.seen then throw (.duplicate setting)
    else return { reading with expects := .colon (some setting), seen := setting :: reading.seen }

def afterColon (reading : Reading) : Option Setting → Reading
  | some setting => { reading with expects := .value setting }
  | none => { reading with expects := .skipping {} }

def readValue (reading : Reading) (setting : Setting) (after : Expects) (token : Token) :
    Except ParseError Reading := do
  return { reading with expects := after, config := ← reading.config.store setting token }

def skip (reading : Reading) (state : Skipping) (token : Token) : Except ParseError Reading :=
  match state.step token with
  | .ok none => .ok { reading with expects := .memberEnd }
  | .ok (some state) => .ok { reading with expects := .skipping state }
  | .error fault => .error (.syntactic fault)

def close (reading : Reading) : Reading :=
  { reading with expects := .nothing }

def readElement (reading : Reading) (setting : Setting) (later : List Setting) (token : Token) :
    Except ParseError Reading :=
  reading.readValue setting (.elementEnd later) token

def endElement (reading : Reading) (later : List Setting) (token : Token) :
    Except ParseError Reading :=
  match token, later with
  | .endArray, _ => .ok reading.close
  | .comma, next :: later => .ok { reading with expects := .element next later }
  | _, _ => unexpected

def endMember (reading : Reading) (token : Token) : Except ParseError Reading :=
  match token with
  | .comma => .ok { reading with expects := .key }
  | .endObject => .ok reading.close
  | _ => unexpected

def step (reading : Reading) (token : Token) : Except ParseError Reading :=
  match reading.expects with
  | .whole => reading.start token
  | .firstKey => if token = .endObject then .ok reading.close else reading.readKey token
  | .key => reading.readKey token
  | .colon setting => if token = .colon then .ok (reading.afterColon setting) else unexpected
  | .value setting => reading.readValue setting .memberEnd token
  | .skipping state => reading.skip state token
  | .memberEnd => reading.endMember token
  | .firstElement setting later =>
    if token = .endArray then .ok reading.close else reading.readElement setting later token
  | .element setting later => reading.readElement setting later token
  | .elementEnd later => reading.endElement later token
  | .nothing => unexpected

def finish (reading : Reading) : Except ParseError Config :=
  if reading.expects = .nothing then .ok reading.config else .error (.syntactic .cut)

end Reading

def ofTokens (tokens : List Token) : Except ParseError Config := do
  (← tokens.foldlM Reading.step {}).finish

def parse (text : String) : Except ConfigError Config :=
  match ofTokens (tokens text.toList) with
  | .ok config => .ok config
  | .error error => .error (.unparsable error)

def valueText (config : Config) : Setting → String
  | .host => writeString config.host
  | .port => toString config.port
  | .channels => toString config.channels
  | .maxPeers => toString config.maxPeers
  | .maxUsers => toString config.maxUsers
  | .pollTimeout => toString config.pollTimeout
  | .sendChannel => toString config.sendChannel
  | .logFilter => writeString config.logFilter

def write (config : Config) : String :=
  let member := fun setting => writeString setting.name ++ ":" ++ config.valueText setting
  "\x7b" ++ ",".intercalate (Setting.all.map member) ++ "\x7d"

end Config

end Courier
