import Courier.Proofs.Config.Partial
import Courier.Proofs.Json.Written

namespace Courier

open Json

/-! Whatever a setting holds can be written, so every choice of settings has a text, and the one
that is written for a configuration reads back. -/

def Content.tree : Content → Tree
  | .text value => .string (value.toList.map Glyph.of)
  | .count value => .number (.ofNat value)

theorem Content.holds_tree (content : Content) : content.tree.Holds content := by
  cases content with
  | text value => exact .text (spells_of value.toList)
  | count value => exact .count (counts_ofNat value)

namespace Config

def member (config : Config) (setting : Setting) : List Glyph × Tree :=
  (setting.name.toList.map Glyph.of, (config.content setting).tree)

theorem lists_members (config : Config) (named : List Setting) :
    Lists config named (named.map config.member) := by
  induction named with
  | nil => exact .nothing
  | cons setting named ih => exact .known (spells_of _) (Content.holds_tree _) ih

theorem chars_value (config : Config) (setting : Setting) :
    (config.content setting).tree.words.flatMap Word.chars = (config.valueText setting).toList := by
  cases setting <;> simp only [content, Content.tree, Tree.words, List.flatMap_cons,
    List.flatMap_nil, List.append_nil, chars_string, chars_number] <;> rfl

/-- A member as it is written. -/
def memberText (config : Config) (setting : Setting) : String :=
  writeString setting.name ++ ":" ++ config.valueText setting

theorem chars_member (config : Config) (setting : Setting) (later : List Word) :
    (Word.string (config.member setting).1 :: .colon ::
        ((config.member setting).2.words ++ later)).flatMap Word.chars =
      (config.memberText setting).toList ++ later.flatMap Word.chars := by
  simp only [member, memberText, List.flatMap_cons, List.flatMap_append, chars_string, chars_value,
    String.toList_append, List.append_assoc]
  rfl

theorem chars_laterMembers (config : Config) (named : List Setting) :
    (Tree.laterMembers (named.map config.member)).flatMap Word.chars =
      named.flatMap (fun setting => ',' :: (config.memberText setting).toList) ++ ['\x7d'] := by
  induction named with
  | nil => rfl
  | cons setting named ih =>
      change ',' :: (Word.string (config.member setting).1 :: .colon ::
        ((config.member setting).2.words ++ _)).flatMap Word.chars = _
      rw [chars_member, ih, List.flatMap_cons, List.cons_append, List.cons_append,
        List.append_assoc]

theorem intercalate_comma (first : List Char) (later : List (List Char)) :
    [','].intercalate (first :: later) = first ++ later.flatMap (',' :: ·) := by
  induction later generalizing first with
  | nil => simp [List.intercalate]
  | cons next later ih =>
      rw [List.intercalate_cons_cons, ih, List.flatMap_cons, List.append_assoc]
      rfl

theorem chars_object (config : Config) (named : List Setting) :
    (Tree.object (named.map config.member)).words.flatMap Word.chars =
      '\x7b' :: ([','].intercalate (named.map fun setting => (config.memberText setting).toList) ++
        ['\x7d']) := by
  cases named with
  | nil => rfl
  | cons setting later =>
      change '\x7b' :: (Word.string (config.member setting).1 :: .colon ::
        ((config.member setting).2.words ++ Tree.laterMembers (later.map config.member))).flatMap
          Word.chars = _
      rw [chars_member, chars_laterMembers, List.map_cons, intercalate_comma, List.flatMap_map,
        List.append_assoc]

theorem writtenAs_write (config : Config) :
    (Tree.object (Setting.all.map config.member)).WrittenAs config.write := by
  have written : config.write = "\x7b" ++ ",".intercalate (Setting.all.map config.memberText) ++
      "\x7d" := rfl
  have comma : ",".toList = [','] := rfl
  have chars : config.write.toList =
      (Tree.object (Setting.all.map config.member)).words.flatMap Word.chars := by
    rw [chars_object, written, String.toList_append, String.toList_append,
      String.toList_intercalate, comma, List.map_map]
    rfl
  rw [Tree.WrittenAs, chars]
  exact spaced_chars _

/-- Every choice of settings, with whatever they are to be, is what some text says. -/
theorem exists_parse_eq (config : Config) {named : List Setting} (once : named.Nodup) :
    ∃ text, parse text = .ok (config.only named) := by
  let object := Tree.object (named.map config.member)
  have written : object.WrittenAs (String.ofList (object.words.flatMap Word.chars)) := by
    rw [Tree.WrittenAs, String.toList_ofList]
    exact spaced_chars _
  exact ⟨_, parse_object_eq_ok once (config.lists_members named) written⟩

/-- What is written reads back as it was. -/
theorem parse_write (config : Config) : parse config.write = .ok config := by
  have every : config.only Setting.all = config := by
    simp only [only, Setting.mem_all, if_true]
  rw [parse_object_eq_ok nodup_all (config.lists_members Setting.all) config.writtenAs_write, every]

end Config

end Courier
