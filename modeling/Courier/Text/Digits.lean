namespace Courier.Text

def digitValue? (radix : Nat) (c : Char) : Option Nat :=
  let value :=
    if '0' ≤ c ∧ c ≤ '9' then c.toNat - '0'.toNat
    else if 'a' ≤ c ∧ c ≤ 'f' then c.toNat - 'a'.toNat + 10
    else if 'A' ≤ c ∧ c ≤ 'F' then c.toNat - 'A'.toNat + 10
    else radix
  if value < radix then some value else none

def takeDigits (radix : Nat) : List Char → List Nat × List Char
  | [] => ([], [])
  | c :: rest =>
    match digitValue? radix c with
    | none => ([], c :: rest)
    | some digit =>
      let (digits, after) := takeDigits radix rest
      (digit :: digits, after)

def valueOfDigits (radix : Nat) (digits : List Nat) : Nat :=
  digits.foldl (fun value digit => radix * value + digit) 0

theorem length_takeDigits (radix : Nat) (text : List Char) :
    (takeDigits radix text).1.length + (takeDigits radix text).2.length = text.length := by
  induction text with
  | nil => rfl
  | cons c rest ih =>
    simp only [takeDigits]
    split
    · simp
    · simp only [List.length_cons]
      omega

end Courier.Text
