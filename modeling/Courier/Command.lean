import Courier.Text.Blank

namespace Courier

/-- One line of what a user of the client types. White space around a command does not count; any
other line is said as it is, without its line ending. -/
inductive Command where
  | ping
  | quit
  | say (text : String)
deriving DecidableEq, Repr

namespace Command

def isLineEnd (c : Char) : Bool :=
  c = '\r' || c = '\n'

def parse? (line : String) : Option Command :=
  let said := Text.trimEndWhile isLineEnd line.toList
  let word := String.ofList (Text.trim said)
  if word = "" then none
  else if word = "/ping" then some .ping
  else if word = "/quit" then some .quit
  else some (.say (String.ofList said))

end Command

end Courier
