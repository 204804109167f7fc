import Courier.ChatRoom
import Courier.Options

/-! The command line: a chat room with the given settings, in which every line of the input is a
command. Each line is followed by a turn of the room, and the end of the input by leaving it. -/

open Courier

def usage : String :=
  "usage: courier [--config FILE] [--host HOST] [--port PORT] [--max-users COUNT] [--log FILTER]"

def readConfigFile (options : Options) : IO (Except String Bytes) := do
  match options.config with
  | none => return .ok []
  | some path =>
    try
      return .ok (← IO.FS.readBinFile path).toList
    catch failure =>
      return .error (toString failure)

def showPrinted (room : ChatRoom) : IO ChatRoom := do
  let (lines, room) := room.takePrinted
  lines.forM IO.println
  return room

partial def converse (room : ChatRoom) (nonce : UInt64) : IO Unit := do
  let line ← (← IO.getStdin).getLine
  let command := if line.isEmpty then some Command.quit else Command.parse? line
  match command with
  | none => converse room nonce
  | some command =>
    let room ← match ChatRoom.obey nonce command room with
      | .ok _ room => pure room
      | .error error room => do
        IO.eprintln s!"! {error.message}"
        pure room
    let room ← showPrinted room.turn
    if command = .quit then return ()
    else if room.isConnected then
      converse room (if command = .ping then nonce + 1 else nonce)
    else IO.println "* disconnected by server"

def chat (config : Config) : IO UInt32 := do
  match ChatRoom.enter config {} with
  | .error error _ =>
    IO.eprintln s!"error: {error.message}"
    return 1
  | .ok address room =>
    IO.println s!"connected to {address}; /ping, /quit or type to chat"
    converse (← showPrinted room) 1
    return 0

def main (arguments : List String) : IO UInt32 := do
  match Options.parse arguments with
  | .error .helpRequested =>
    IO.println usage
    return 0
  | .error _ =>
    IO.eprintln usage
    return 2
  | .ok options =>
    let contents ← readConfigFile options
    match options.load fun _ => contents with
    | .error failure =>
      IO.eprintln s!"error: {failure.context}: {failure.error.message}"
      return 1
    | .ok config => chat config
