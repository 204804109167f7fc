namespace Courier.Text

/-! White space, as Unicode lists it, and text without the white space around it. -/

def blankRanges : List (Nat × Nat) := [
  (0x9, 0xd), (0x20, 0x20), (0x85, 0x85), (0xa0, 0xa0), (0x1680, 0x1680), (0x2000, 0x200a),
  (0x2028, 0x2029), (0x202f, 0x202f), (0x205f, 0x205f), (0x3000, 0x3000)]

def isBlank (c : Char) : Bool :=
  blankRanges.any fun (first, last) => first ≤ c.toNat && c.toNat ≤ last

def trimEndWhile (drops : Char → Bool) (chars : List Char) : List Char :=
  (chars.reverse.dropWhile drops).reverse

def trim (chars : List Char) : List Char :=
  trimEndWhile isBlank (chars.dropWhile isBlank)

def allBlank (text : String) : Bool :=
  text.toList.all isBlank

end Courier.Text
