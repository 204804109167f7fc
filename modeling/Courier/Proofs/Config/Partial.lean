import Mathlib.Data.List.Forall2
import Courier.Proofs.Config.Members
import Courier.Proofs.Json.Written

namespace Courier.Config

open Json

/-! A configuration need only say what is not as usual: what it names is replaced, whatever the
order and whatever stands beside it, and all else is as in the defaults. -/

/-- The defaults, with the settings that are named as they are in the configuration. -/
def only (config : Config) (named : List Setting) : Config where
  host := if .host ∈ named then config.host else host {}
  port := if .port ∈ named then config.port else port {}
  channels := if .channels ∈ named then config.channels else channels {}
  maxPeers := if .maxPeers ∈ named then config.maxPeers else maxPeers {}
  maxUsers := if .maxUsers ∈ named then config.maxUsers else maxUsers {}
  pollTimeout := if .pollTimeout ∈ named then config.pollTimeout else pollTimeout {}
  sendChannel := if .sendChannel ∈ named then config.sendChannel else sendChannel {}
  logFilter := if .logFilter ∈ named then config.logFilter else logFilter {}

/-- The members of an object that names settings, in this order, and gives each the value that the
configuration has; among them are others whose keys name nothing. -/
inductive Lists (config : Config) : List Setting → List (List Glyph × Tree) → Prop
  | nothing : Lists config [] []
  | known {setting : Setting} {named : List Setting} {key : List Glyph} {value : Tree}
      {members : List (List Glyph × Tree)} (names : Spells key setting.name.toList)
      (holds : value.Holds (config.content setting)) (later : Lists config named members) :
      Lists config (setting :: named) ((key, value) :: members)
  | foreign {named : List Setting} {key : List Glyph} {name : String} {value : Tree}
      {members : List (List Glyph × Tree)} (spells : Spells key name.toList)
      (unknown : ∀ setting : Setting, setting.name ≠ name) (later : Lists config named members) :
      Lists config named ((key, value) :: members)

theorem adopt_only (values : Config) (named : List Setting) (setting : Setting) :
    (values.only named).adopt values setting = values.only (setting :: named) := by
  cases setting <;> simp [adopt, only]

theorem only_congr (values : Config) {named others : List Setting}
    (same : ∀ setting, setting ∈ named ↔ setting ∈ others) :
    values.only named = values.only others := by
  simp only [only, same]

theorem only_nil (values : Config) : values.only [] = {} :=
  rfl

theorem only_reverse (values : Config) (named : List Setting) :
    values.only named.reverse = values.only named :=
  only_congr values fun _ => List.mem_reverse

/-- Reading between two members, when these settings have been named, the last one first. -/
def told (values : Config) (named : List Setting) : Reading :=
  { expects := .memberEnd, config := values.only named, seen := named }

theorem through_known {values : Config} {setting : Setting} {key : List Glyph} {value : Tree}
    (names : Spells key setting.name.toList) (holds : value.Holds (values.content setting))
    {named : List Setting} (fresh : setting ∉ named) (later : List Word) :
    (values.told named).through (.comma :: .string key :: .colon :: (value.words ++ later)) =
      (values.told (setting :: named)).through later := by
  obtain ⟨word, same, stored⟩ := store_of_holds holds (values.only named)
  rw [adopt_only] at stored
  let keyed : Reading :=
    { expects := .value setting, config := values.only named, seen := setting :: named }
  have waits : keyed.expects = .value setting := rfl
  rw [Reading.through_member rfl, Reading.readKey_of_fresh names fresh]
  change Reading.through { keyed with expects := .colon (some setting) } _ = _
  rw [Reading.through_colon, same]
  exact Reading.through_value_of_ok waits stored later

theorem through_lists {values : Config} {named : List Setting} {members : List (List Glyph × Tree)}
    (lists : Lists values named members) (before : List Setting)
    (once : (before.reverse ++ named).Nodup) (later : List (List Glyph × Tree)) :
    (values.told before).through (Tree.laterMembers (members ++ later)) =
      (values.told (named.reverse ++ before)).through (Tree.laterMembers later) := by
  induction lists generalizing before with
  | nothing => rfl
  | @known setting named key value members names holds _ ih =>
      have fresh : setting ∉ before := by
        intro again
        have apart := (List.nodup_append.mp once).2.2
        exact apart _ (List.mem_reverse.mpr again) _ List.mem_cons_self rfl
      rw [List.cons_append, Tree.laterMembers, through_known names holds fresh,
        ih _ (by simpa using once)]
      simp
  | foreign spells unknown _ ih =>
      rw [List.cons_append, Tree.laterMembers, Reading.through_unknown spells unknown rfl,
        ih _ once]

theorem through_object (values : Config) (members : List (List Glyph × Tree)) :
    Reading.through {} (Tree.object members).words =
      (values.told []).through (Tree.laterMembers members) := by
  have start : values.told [] = { expects := .memberEnd } := by rw [told, only_nil]
  rw [start]
  cases members with
  | nil => rw [Tree.words, Tree.laterMembers]; rfl
  | cons member later =>
      obtain ⟨key, value⟩ := member
      rw [Tree.words, Tree.laterMembers, Reading.through_member rfl,
        Reading.through_cons_of_step rfl, Reading.through_cons]
      -- the first key and a later one are read alike
      rfl

theorem parse_of_writtenAs {tree : Tree} {text : String} (written : tree.WrittenAs text) :
    parse text = (Reading.through {} tree.words >>= Reading.finish).mapError .unparsable := by
  have read : ofTokens (tokens text.toList) =
      Reading.through {} tree.words >>= Reading.finish := by
    rw [Tree.tokens_of_writtenAs written]
    rfl
  rw [parse, read]
  cases Reading.through {} tree.words >>= Reading.finish <;> rfl

theorem parse_object_eq_ok {values : Config} {named : List Setting}
    {members : List (List Glyph × Tree)} {text : String} (once : named.Nodup)
    (lists : Lists values named members) (written : (Tree.object members).WrittenAs text) :
    parse text = .ok (values.only named) := by
  have went := through_lists lists [] once []
  rw [List.append_nil, List.append_nil] at went
  have closed : (values.told named.reverse).through (Tree.laterMembers []) =
      .ok (values.told named.reverse).close := rfl
  rw [parse_of_writtenAs written, through_object values, went, closed, ← only_reverse]
  rfl

theorem parse_object_eq_duplicate {values : Config} {named : List Setting} {setting : Setting}
    {before after : List (List Glyph × Tree)} {key : List Glyph} {value : Tree} {text : String}
    (once : named.Nodup) (lists : Lists values named before) (again : setting ∈ named)
    (names : Spells key setting.name.toList)
    (written : (Tree.object (before ++ (key, value) :: after)).WrittenAs text) :
    parse text = .error (.unparsable (.duplicate setting)) := by
  have went := through_lists lists [] once ((key, value) :: after)
  have seen : setting ∈ (values.told (named.reverse ++ [])).seen := by simpa [told] using again
  rw [parse_of_writtenAs written, through_object values, went, Tree.laterMembers,
    Reading.through_seen names rfl seen]
  rfl

namespace Reading

theorem error_of_seen {setting : Setting} {key : List Glyph}
    (names : Spells key setting.name.toList) (members : List (List Glyph × Tree))
    (member : ∃ value, (key, value) ∈ members) {reading : Reading}
    (waits : reading.expects = .memberEnd) (seen : setting ∈ reading.seen) :
    ∃ error, reading.through (Tree.laterMembers members) = .error error := by
  induction members generalizing reading with
  | nil =>
      obtain ⟨value, impossible⟩ := member
      cases impossible
  | cons first members ih =>
      obtain ⟨other, passed⟩ := first
      rw [Tree.laterMembers]
      obtain ⟨value, among⟩ := member
      obtain ⟨rfl, -⟩ | among : key = other ∧ value = passed ∨ (key, value) ∈ members := by
        simpa using among
      · exact ⟨_, through_seen names waits seen _⟩
      · obtain failed | ⟨next, waits, kept, -, went⟩ :=
          through_member_or_error waits other passed (Tree.laterMembers members)
        · exact failed
        · rw [went]
          exact ih ⟨value, among⟩ waits (kept seen)

theorem error_of_named_twice {setting : Setting} {first second : List Glyph × Tree}
    (one : Spells first.1 setting.name.toList) (two : Spells second.1 setting.name.toList)
    {members : List (List Glyph × Tree)} (both : [first, second].Sublist members)
    {reading : Reading} (waits : reading.expects = .memberEnd) :
    ∃ error, reading.through (Tree.laterMembers members) = .error error := by
  induction members generalizing reading with
  | nil => cases both
  | cons member members ih =>
      rw [Tree.laterMembers]
      obtain failed | ⟨next, waits, -, named, went⟩ :=
        through_member_or_error waits member.1 member.2 (Tree.laterMembers members)
      · exact failed
      · rw [went]
        cases both with
        | cons _ both => exact ih both waits
        | cons_cons _ rest =>
            have later : second ∈ members := List.singleton_sublist.mp rest
            exact error_of_seen two members ⟨second.2, later⟩ waits (named setting one)

end Reading

theorem parse_object_eq_error {setting : Setting} {first second : List Glyph × Tree}
    (one : Spells first.1 setting.name.toList) (two : Spells second.1 setting.name.toList)
    {members : List (List Glyph × Tree)} (both : [first, second].Sublist members) {text : String}
    (written : (Tree.object members).WrittenAs text) :
    ∃ error, parse text = .error (.unparsable error) := by
  have waits : (told {} []).expects = .memberEnd := rfl
  obtain ⟨error, failed⟩ := Reading.error_of_named_twice one two both waits
  refine ⟨error, ?_⟩
  rw [parse_of_writtenAs written, through_object {}, failed]
  rfl

theorem through_laterElements {values : Config} {named : List Setting} {elements : List Tree}
    (holds : List.Forall₂ (fun setting element => element.Holds (values.content setting)) named
      elements) (before later : List Setting) :
    Reading.through { expects := .elementEnd (named ++ later), config := values.only before }
        (Tree.laterElements elements) =
      .ok { expects := .nothing, config := values.only (named.reverse ++ before) } := by
  induction holds generalizing before with
  | nil => rfl
  | @cons setting element named elements one _ ih =>
      obtain ⟨word, same, stored⟩ := store_of_holds one (values.only before)
      rw [adopt_only] at stored
      have taken : Reading.step
            { expects := .element setting (named ++ later), config := values.only before }
            word.token =
          .ok { expects := .elementEnd (named ++ later),
                config := values.only (setting :: before) } := by
        simp only [Reading.step, Reading.readElement, Reading.readValue, stored]
        rfl
      rw [Tree.laterElements, same]
      refine (Reading.through_cons_of_step rfl _).trans ?_
      refine (Reading.through_cons_of_step taken _).trans ?_
      refine (ih (setting :: before)).trans ?_
      rw [List.reverse_cons, List.append_assoc]
      rfl

theorem through_array (elements : List Tree) :
    Reading.through {} (Tree.array elements).words =
      Reading.through { expects := .elementEnd Setting.all } (Tree.laterElements elements) := by
  cases elements with
  | nil => rw [Tree.words, Tree.laterElements]; rfl
  | cons element later =>
      obtain ⟨word, more, same, other⟩ := element.words_eq_cons
      rw [Tree.words, Tree.laterElements, same, Reading.through_cons_of_step rfl,
        Reading.through_cons_of_step rfl, List.cons_append]
      simp only [Reading.through_cons, Reading.step, if_neg other]
      rfl

theorem parse_array_eq_ok {values : Config} {named : List Setting} {elements : List Tree}
    {text : String} (starts : named <+: Setting.all)
    (holds : List.Forall₂ (fun setting element => element.Holds (values.content setting)) named
      elements) (written : (Tree.array elements).WrittenAs text) :
    parse text = .ok (values.only named) := by
  obtain ⟨later, all⟩ := starts
  have went := through_laterElements holds [] later
  rw [all, List.append_nil, only_reverse, only_nil] at went
  rw [parse_of_writtenAs written, through_array, went]
  rfl

theorem nodup_all : Setting.all.Nodup := by
  decide

/-- An object replaces exactly the settings that it names, in whatever order, by whatever spelling
and among whatever else it holds. To name a setting twice is an error whatever the values are, and
the error tells of that setting if nothing before it is wrong. An array of values is as good as an
object that names as many of the settings. -/
theorem named_settings_replace_defaults (values : Config) :
    (∀ named members text, named.Nodup → Lists values named members →
        (Tree.object members).WrittenAs text → parse text = .ok (values.only named)) ∧
      (∀ (setting : Setting) (key again : List Glyph) (value other : Tree) members text,
        [(key, value), (again, other)].Sublist members →
        Spells key setting.name.toList → Spells again setting.name.toList →
        (Tree.object members).WrittenAs text → ∃ error, parse text = .error (.unparsable error)) ∧
      (∀ (setting : Setting) (again : List Glyph) (other : Tree) named before after text,
        named.Nodup → Lists values named before → setting ∈ named →
        Spells again setting.name.toList →
        (Tree.object (before ++ (again, other) :: after)).WrittenAs text →
        parse text = .error (.unparsable (.duplicate setting))) ∧
      ∀ count elements text,
        List.Forall₂ (fun setting element => element.Holds (values.content setting))
          (Setting.all.take count) elements →
        (Tree.array elements).WrittenAs text →
        parse text = .ok (values.only (Setting.all.take count)) ∧
          ∀ named members other, named.Perm (Setting.all.take count) →
            Lists values named members → (Tree.object members).WrittenAs other →
            parse text = parse other := by
  refine ⟨?_, ?_, ?_, ?_⟩
  · intro named members text once lists written
    exact parse_object_eq_ok once lists written
  · intro setting key again value other members text both one two written
    exact parse_object_eq_error one two both written
  · intro setting again other named before after text once lists seen names written
    exact parse_object_eq_duplicate once lists seen names written
  · intro count elements text holds written
    have starts : Setting.all.take count <+: Setting.all := ⟨_, List.take_append_drop count _⟩
    have parsed := parse_array_eq_ok starts holds written
    refine ⟨parsed, ?_⟩
    intro named members other reordered lists writtenOther
    have distinct : (Setting.all.take count).Nodup :=
      nodup_all.sublist (List.take_sublist count Setting.all)
    have same : values.only named = values.only (Setting.all.take count) :=
      only_congr values fun _ => reordered.mem_iff
    rw [parsed, parse_object_eq_ok (reordered.nodup_iff.mpr distinct) lists writtenOther, same]

def local9999 : Config := { host := "::1", port := 9999 }

def nines : Digits :=
  ⟨Fin.last 9, List.replicate 3 (Fin.last 9)⟩

theorem nines_starts : nines.first = 0 → nines.later = [] :=
  nofun

def port9999 : List Glyph × Tree :=
  (.coded ⟨⟨0, false⟩, ⟨0, false⟩, ⟨7, false⟩, ⟨0, false⟩⟩ :: "ort".toList.map Glyph.of,
    .number { whole := nines, starts := nines_starts })

def hostLocal : List Glyph × Tree :=
  ("host".toList.map Glyph.of, .string ("::1".toList.map Glyph.of))

def note : List Glyph × Tree :=
  ("note".toList.map Glyph.of, .array [.null, .object [("port".toList.map Glyph.of, .array [])]])

theorem spells_port9999 : Spells port9999.1 Setting.port.name.toList :=
  .coded rfl (spells_of "ort".toList)

theorem lists_port9999 {named : List Setting} {members : List (List Glyph × Tree)}
    (later : Lists local9999 named members) :
    Lists local9999 (.port :: named) (port9999 :: members) :=
  .known spells_port9999 (.count ⟨rfl, rfl, rfl, rfl⟩) later

theorem lists_hostLocal {named : List Setting} {members : List (List Glyph × Tree)}
    (later : Lists local9999 named members) :
    Lists local9999 (.host :: named) (hostLocal :: members) :=
  .known (spells_of "host".toList) (.text (spells_of "::1".toList)) later

theorem lists_note {named : List Setting} {members : List (List Glyph × Tree)}
    (later : Lists local9999 named members) : Lists local9999 named (note :: members) :=
  .foreign (spells_of "note".toList) (by rintro ⟨⟩ <;> decide) later

theorem writtenAs_note_port9999 : (Tree.object [note, port9999]).WrittenAs
    "\x7b \"note\": [null,\x7b\"port\":[]\x7d],\t\"\\u0070ort\" :9999\x7d\n" :=
  .word [] (by decide) <| .word [' '] (by decide) <| .word [] (by decide) <|
    .word [' '] (by decide) <| .word [] (by decide) <| .word [] (by decide) <|
    .word [] (by decide) <| .word [] (by decide) <| .word [] (by decide) <|
    .word [] (by decide) <| .word [] (by decide) <| .word [] (by decide) <|
    .word [] (by decide) <| .word [] (by decide) <| .word ['\t'] (by decide) <|
    .word [' '] (by decide) <| .word [] (by decide) <| .word [] (by decide) <|
    .done ['\n'] (by decide)

theorem named_settings_replace_defaults_local9999 :
    parse "\x7b \"note\": [null,\x7b\"port\":[]\x7d],\t\"\\u0070ort\" :9999\x7d\n" =
        .ok { port := 9999 } ∧
      (∃ error, parse "\x7b\"\\u0070ort\":9999,\"\\u0070ort\":null\x7d" =
        .error (.unparsable error)) ∧
      parse "\x7b\"\\u0070ort\":9999,\"\\u0070ort\":null\x7d" =
        .error (.unparsable (.duplicate .port)) ∧
      parse "[\"::1\",9999]" = .ok local9999 ∧
      parse "[\"::1\",9999]" = parse "\x7b\"\\u0070ort\":9999,\"host\":\"::1\"\x7d" := by
  obtain ⟨object, twice, again, array⟩ := named_settings_replace_defaults local9999
  have written : (Tree.object [port9999, (port9999.1, .null)]).WrittenAs
      "\x7b\"\\u0070ort\":9999,\"\\u0070ort\":null\x7d" := spaced_chars _
  have once := lists_port9999 .nothing
  have both := lists_port9999 (lists_hostLocal .nothing)
  have holds : List.Forall₂ (fun setting element => element.Holds (local9999.content setting))
      (Setting.all.take 2) [hostLocal.2, port9999.2] :=
    .cons (.text (spells_of "::1".toList)) (.cons (.count ⟨rfl, rfl, rfl, rfl⟩) .nil)
  have listed := array 2 _ "[\"::1\",9999]" holds (spaced_chars _)
  refine ⟨?_, ?_, ?_, listed.1, ?_⟩
  · exact object [.port] _ _ (by decide) (lists_note once) writtenAs_note_port9999
  · exact twice .port _ _ _ _ _ _ (List.Sublist.refl _) spells_port9999 spells_port9999 written
  · exact again .port _ _ [.port] [port9999] [] _ (by decide) once List.mem_cons_self
      spells_port9999 written
  · exact listed.2 [.port, .host] _ _ (.swap _ _ _) both (spaced_chars _)

end Courier.Config
