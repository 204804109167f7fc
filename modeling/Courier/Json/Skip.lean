import Courier.Json.Token

namespace Courier.Json

/-! Passing over one value without keeping it, at any depth. Every token is checked as it comes:
the brackets that are open, innermost first, and what may stand next. -/

inductive Bracket where
  | array
  | object
deriving DecidableEq, Repr

namespace Skipping

inductive Expects where
  | value
  | firstElement
  | firstKey
  | key
  | colon
  | separator
deriving DecidableEq, Repr

end Skipping

structure Skipping where
  expects : Skipping.Expects := .value
  opened : List Bracket := []
deriving DecidableEq, Repr

namespace Skipping

def finished (opened : List Bracket) : Option Skipping :=
  if opened.isEmpty then none else some ⟨.separator, opened⟩

def value (opened : List Bracket) : Token → Except Fault (Option Skipping)
  | .null | .boolean _ | .number _ | .string _ => .ok (finished opened)
  | .beginArray => .ok (some ⟨.firstElement, .array :: opened⟩)
  | .beginObject => .ok (some ⟨.firstKey, .object :: opened⟩)
  | .brokenWord fault | .brokenString _ fault => .error fault
  | _ => .error .malformed

def key (opened : List Bracket) : Token → Except Fault (Option Skipping)
  | .string _ => .ok (some ⟨.colon, opened⟩)
  | .brokenString _ fault => .error fault
  | _ => .error .malformed

def separator : List Bracket → Token → Except Fault (Option Skipping)
  | .array :: opened, .comma => .ok (some ⟨.value, .array :: opened⟩)
  | .object :: opened, .comma => .ok (some ⟨.key, .object :: opened⟩)
  | .array :: opened, .endArray => .ok (finished opened)
  | .object :: opened, .endObject => .ok (finished opened)
  | _, _ => .error .malformed

def step (state : Skipping) (token : Token) : Except Fault (Option Skipping) :=
  match state.expects with
  | .value => value state.opened token
  | .firstElement =>
    if token = .endArray then separator state.opened token else value state.opened token
  | .firstKey =>
    if token = .endObject then separator state.opened token else key state.opened token
  | .key => key state.opened token
  | .colon =>
    if token = .colon then .ok (some ⟨.value, state.opened⟩) else .error .malformed
  | .separator => separator state.opened token

end Skipping

end Courier.Json
