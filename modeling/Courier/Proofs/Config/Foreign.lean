import Courier.Config.Json
import Courier.Proofs.Json.Tokens

namespace Courier.Config.Reading

open Json

/-! Reading goes over the words of a text one by one. A value under a key that means nothing is
passed over as a whole, however deep it goes, and reading goes on behind it as if the member were
not there. -/

def through (reading : Reading) (words : List Word) : Except ParseError Reading :=
  (words.map Word.token).foldlM step reading

theorem through_nil (reading : Reading) : reading.through [] = .ok reading :=
  rfl

theorem through_cons (reading : Reading) (word : Word) (later : List Word) :
    reading.through (word :: later) =
      reading.step word.token >>= fun next => next.through later := by
  rw [through, List.map_cons, List.foldlM_cons]
  rfl

theorem through_append (reading : Reading) (words later : List Word) :
    reading.through (words ++ later) =
      reading.through words >>= fun next => next.through later := by
  rw [through, List.map_append, List.foldlM_append]
  rfl

theorem through_cons_of_step {reading next : Reading} {word : Word}
    (stepped : reading.step word.token = .ok next) (later : List Word) :
    reading.through (word :: later) = next.through later := by
  rw [through_cons, stepped]
  rfl

theorem through_append_of_through {reading next : Reading} {words : List Word}
    (went : reading.through words = .ok next) (later : List Word) :
    reading.through (words ++ later) = next.through later := by
  rw [through_append, went]
  rfl

/-- Where skipping leaves off, in the middle of a value or behind it. -/
def beyond (reading : Reading) : Option Skipping → Reading
  | some state => { reading with expects := .skipping state }
  | none => { reading with expects := .memberEnd }

theorem step_beyond (reading : Reading) {state : Skipping} {token : Token}
    {next : Option Skipping} (passed : state.step token = .ok next) :
    (reading.beyond (some state)).step token = .ok (reading.beyond next) := by
  cases next <;> simp only [beyond, step, skip, passed]

theorem through_beyond (reading : Reading) {state : Skipping} {word : Word} {next : Option Skipping}
    (passed : state.step word.token = .ok next) (later : List Word) :
    (reading.beyond (some state)).through (word :: later) = (reading.beyond next).through later :=
  through_cons_of_step (reading.step_beyond passed) later

/-- A value that stands first in its array is taken as any other is. -/
theorem through_firstElement (reading : Reading) (opened : List Bracket) (tree : Tree)
    (later : List Word) :
    (reading.beyond (some ⟨.firstElement, opened⟩)).through (tree.words ++ later) =
      (reading.beyond (some ⟨.value, opened⟩)).through (tree.words ++ later) := by
  obtain ⟨word, more, same, other⟩ := tree.words_eq_cons
  rw [same, List.cons_append]
  simp only [through_cons, beyond, step, skip, Skipping.step, if_neg other]

mutual

theorem through_value (reading : Reading) (opened : List Bracket) :
    (tree : Tree) → (reading.beyond (some ⟨.value, opened⟩)).through tree.words =
      .ok (reading.beyond (Skipping.finished opened))
  | .null | .boolean _ | .number _ | .string _ => by
      rw [Tree.words, reading.through_beyond rfl, through_nil]
  | .array [] | .object [] => by
      rw [Tree.words, reading.through_beyond rfl, reading.through_beyond rfl, through_nil]
  | .array (element :: later) => by
      rw [Tree.words, reading.through_beyond rfl, through_firstElement,
        through_append_of_through (reading.through_value (.array :: opened) element)]
      exact reading.through_laterElements opened later
  | .object ((key, value) :: later) => by
      rw [Tree.words, reading.through_beyond rfl, reading.through_beyond rfl,
        reading.through_beyond rfl,
        through_append_of_through (reading.through_value (.object :: opened) value)]
      exact reading.through_laterMembers opened later

theorem through_laterElements (reading : Reading) (opened : List Bracket) :
    (later : List Tree) →
      (reading.beyond (some ⟨.separator, .array :: opened⟩)).through (Tree.laterElements later) =
        .ok (reading.beyond (Skipping.finished opened))
  | [] => by
      rw [Tree.laterElements, reading.through_beyond rfl, through_nil]
  | element :: later => by
      rw [Tree.laterElements, reading.through_beyond rfl,
        through_append_of_through (reading.through_value (.array :: opened) element)]
      exact reading.through_laterElements opened later

theorem through_laterMembers (reading : Reading) (opened : List Bracket) :
    (later : List (List Glyph × Tree)) →
      (reading.beyond (some ⟨.separator, .object :: opened⟩)).through (Tree.laterMembers later) =
        .ok (reading.beyond (Skipping.finished opened))
  | [] => by
      rw [Tree.laterMembers, reading.through_beyond rfl, through_nil]
  | (key, value) :: later => by
      rw [Tree.laterMembers, reading.through_beyond rfl, reading.through_beyond rfl,
        reading.through_beyond rfl,
        through_append_of_through (reading.through_value (.object :: opened) value)]
      exact reading.through_laterMembers opened later

end

end Courier.Config.Reading
