import Courier.Text.Invisible

namespace Courier.Text

/-! Text and characters quoted for a diagnostic: quotes, backslashes and line breaks are escaped,
and what leaves no visible mark is given by its code. Text keeps single quotes and a character
keeps double ones. -/

def escapeCode (c : Char) : List Char :=
  "\\u\x7b".toList ++ Nat.toDigits 16 c.toNat ++ ['\x7d']

def escapeUnless (keep : Char) (c : Char) : List Char :=
  if c = keep then [c]
  else if c = '\x00' then ['\\', '0']
  else if c = '\t' then ['\\', 't']
  else if c = '\r' then ['\\', 'r']
  else if c = '\n' then ['\\', 'n']
  else if c = '"' ∨ c = '\'' ∨ c = '\\' then ['\\', c]
  else if isInvisible c then escapeCode c
  else [c]

def quote (text : String) : String :=
  String.ofList (['"'] ++ text.toList.flatMap (escapeUnless '\'') ++ ['"'])

def quoteChar (c : Char) : String :=
  String.ofList (['\''] ++ escapeUnless '"' c ++ ['\''])

end Courier.Text
