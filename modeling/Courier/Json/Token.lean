import Courier.Json.Number

namespace Courier.Json

/-! The tokens of a JSON text. A string is kept as it is written, with each `\u` escape as one
16-bit unit: two units are one character if the first is a leading surrogate and the second a
trailing one. A broken token ends the text; a stray one is a character that starts no token. -/

inductive Piece where
  | char (c : Char)
  | unit (code : Nat)
deriving DecidableEq, Repr

inductive Token where
  | beginObject
  | endObject
  | beginArray
  | endArray
  | comma
  | colon
  | null
  | boolean (value : Bool)
  | number (number : Number)
  | string (pieces : List Piece)
  | brokenWord (fault : Fault)
  | brokenNumber (fault : Fault)
  | brokenString (pieces : List Piece) (fault : Fault)
  | stray
deriving DecidableEq, Repr

structure StringBody where
  pieces : List Piece
  after : Except Fault (List Char)

def StringBody.push (piece : Piece) (body : StringBody) : StringBody :=
  { body with pieces := piece :: body.pieces }

def StringBody.broken (fault : Fault) : StringBody :=
  ⟨[], .error fault⟩

def escaped? : Char → Option Char
  | '"' => some '"'
  | '\\' => some '\\'
  | '/' => some '/'
  | 'b' => some '\x08'
  | 'f' => some '\x0c'
  | 'n' => some '\n'
  | 'r' => some '\r'
  | 't' => some '\t'
  | _ => none

def unitOf? (digits : List Char) : Option Nat :=
  (digits.mapM (Text.digitValue? 16)).map (Text.valueOfDigits 16)

def brokenUnit (rest : List Char) : StringBody :=
  .broken (if (String.ofList rest).utf8ByteSize < 4 then .cut else .malformed)

def takeString : List Char → StringBody
  | [] => .broken .cut
  | ['\\'] => .broken .cut
  | '\\' :: 'u' :: a :: b :: c :: d :: rest =>
    match unitOf? [a, b, c, d] with
    | some code => (takeString rest).push (.unit code)
    | none => .broken .malformed
  | '\\' :: 'u' :: rest => brokenUnit rest
  | '\\' :: c :: rest =>
    match escaped? c with
    | some plain => (takeString rest).push (.char plain)
    | none => .broken .malformed
  | c :: rest =>
    if c = '"' then ⟨[], .ok rest⟩
    else if c.toNat < 0x20 then .broken .malformed
    else (takeString rest).push (.char c)

def isLeading (code : Nat) : Bool :=
  0xd800 ≤ code && code < 0xdc00

def isTrailing (code : Nat) : Bool :=
  0xdc00 ≤ code && code < 0xe000

def paired (leading trailing : Nat) : Char :=
  Char.ofNat (0x10000 + 0x400 * (leading - 0xd800) + (trailing - 0xdc00))

def decodePieces (ending : Except Fault Unit) : List Piece → Except Fault (List Char)
  | [] => ending.map fun _ => []
  | .char c :: rest => (decodePieces ending rest).map (c :: ·)
  | .unit code :: rest =>
    if isTrailing code then .error .malformed
    else if isLeading code then
      match rest with
      | [] => ending.bind fun _ => .error .malformed
      | .unit next :: rest =>
        if isTrailing next then (decodePieces ending rest).map (paired code next :: ·)
        else .error .malformed
      | .char _ :: _ => .error .malformed
    else (decodePieces ending rest).map (Char.ofNat code :: ·)

structure Lexeme where
  token : Token
  after : Option (List Char)

def takeWord (token : Token) : List Char → List Char → Lexeme
  | [], rest => ⟨token, some rest⟩
  | _ :: _, [] => ⟨.brokenWord .cut, none⟩
  | expected :: more, c :: rest =>
    if c = expected then takeWord token more rest else ⟨.brokenWord .malformed, none⟩

def stringLexeme (body : StringBody) : Lexeme :=
  match body.after with
  | .ok rest => ⟨.string body.pieces, some rest⟩
  | .error fault => ⟨.brokenString body.pieces fault, none⟩

def numberLexeme (text : List Char) : Lexeme :=
  match Number.take text with
  | .ok (number, rest) => ⟨.number number, some rest⟩
  | .error fault => ⟨.brokenNumber fault, none⟩

def punctuation? : Char → Option Token
  | '\x7b' => some .beginObject
  | '\x7d' => some .endObject
  | '[' => some .beginArray
  | ']' => some .endArray
  | ',' => some .comma
  | ':' => some .colon
  | _ => none

def word? : Char → Option (Token × List Char)
  | 'n' => some (.null, ['u', 'l', 'l'])
  | 't' => some (.boolean true, ['r', 'u', 'e'])
  | 'f' => some (.boolean false, ['a', 'l', 's', 'e'])
  | _ => none

def lexeme (c : Char) (rest : List Char) : Lexeme :=
  match punctuation? c, word? c with
  | some token, _ => ⟨token, some rest⟩
  | none, some (token, letters) => takeWord token letters rest
  | none, none =>
    if c = '"' then stringLexeme (takeString rest)
    else if c = '-' || c.isDigit then numberLexeme (c :: rest)
    else ⟨.stray, none⟩

theorem length_takeString_le {text rest : List Char} (closed : (takeString text).after = .ok rest) :
    rest.length ≤ text.length := by
  fun_induction takeString text with
  | case1 | case2 | case4 | case5 | case7 | case9 => cases closed
  | case3 a b c d after code read ih =>
    have := ih closed
    simp only [List.length_cons]
    omega
  | case6 c after notUnit alsoNotUnit plain read ih =>
    have := ih closed
    simp only [List.length_cons]
    omega
  | case8 =>
    cases closed
    simp
  | case10 c after _ _ _ _ notQuote notControl ih =>
    have := ih closed
    simp only [List.length_cons]
    omega

theorem length_takeWord_le {token : Token} {expected text rest : List Char}
    (taken : (takeWord token expected text).after = some rest) : rest.length ≤ text.length := by
  fun_induction takeWord token expected text with
  | case1 =>
    cases taken
    exact Nat.le_refl _
  | case2 => cases taken
  | case3 more c after ih =>
    have := ih taken
    simp only [List.length_cons]
    omega
  | case4 => cases taken

theorem length_stringLexeme_le {text rest : List Char}
    (taken : (stringLexeme (takeString text)).after = some rest) : rest.length ≤ text.length := by
  unfold stringLexeme at taken
  split at taken
  · next closed =>
    cases taken
    exact length_takeString_le closed
  · cases taken

theorem length_numberLexeme_lt {text rest : List Char}
    (taken : (numberLexeme text).after = some rest) : rest.length < text.length := by
  unfold numberLexeme at taken
  split at taken
  · next read =>
    cases taken
    exact Number.length_take_lt read
  · cases taken

theorem length_lexeme_le {c : Char} {text rest : List Char}
    (taken : (lexeme c text).after = some rest) : rest.length ≤ text.length := by
  unfold lexeme at taken
  split at taken
  · cases taken
    exact Nat.le_refl _
  · exact length_takeWord_le taken
  · split at taken
    · exact length_stringLexeme_le taken
    · split at taken
      · have := length_numberLexeme_lt taken
        simp only [List.length_cons] at this
        omega
      · cases taken

def isSpace (c : Char) : Bool :=
  c = ' ' || c = '\t' || c = '\n' || c = '\r'

def tokens : List Char → List Token
  | [] => []
  | c :: rest =>
    if isSpace c then tokens rest
    else
      match found : lexeme c rest with
      | ⟨token, none⟩ => [token]
      | ⟨token, some after⟩ =>
        have : after.length ≤ rest.length := length_lexeme_le (by rw [found])
        token :: tokens after
termination_by text => text.length

end Courier.Json
