import Courier.Options
import Courier.Proofs.Users.Consistent

namespace Courier

/-! What makes a configuration usable, one demand for each flaw. -/

namespace Config

structure Usable (config : Config) : Prop where
  host : ∃ c ∈ config.host.toList, ¬ Text.isBlank c
  channels : 1 ≤ config.channels.toNat
  sendChannel : config.sendChannel.toNat < config.channels.toNat
  maxPeers : 1 ≤ config.maxPeers.toNat
  maxUsers : config.maxUsers.toNat ≤ UserTable.maxCapacity

theorem allBlank_eq_false_iff (text : String) :
    Text.allBlank text = false ↔ ∃ c ∈ text.toList, ¬ Text.isBlank c := by
  simp [Text.allBlank]

theorem usable_iff (config : Config) : config.Usable ↔ config.flaw? = none := by
  rw [flaw?_eq_none_iff, allBlank_eq_false_iff]
  have channels : config.channels ≠ 0 ↔ 1 ≤ config.channels.toNat := by
    rw [Nat.one_le_iff_ne_zero, ne_eq, ne_eq, ← UInt8.toNat_inj]
    rfl
  have maxPeers : config.maxPeers ≠ 0 ↔ 1 ≤ config.maxPeers.toNat := by
    rw [Nat.one_le_iff_ne_zero, ne_eq, ne_eq, ← UInt64.toNat_inj]
    rfl
  rw [channels, maxPeers, UInt8.lt_iff_toNat_lt]
  constructor
  · intro usable
    exact ⟨usable.host, usable.channels, usable.sendChannel, usable.maxPeers, usable.maxUsers⟩
  · rintro ⟨host, channels, sendChannel, maxPeers, maxUsers⟩
    exact ⟨host, channels, sendChannel, maxPeers, maxUsers⟩

theorem validate_eq_ok_iff (config : Config) : config.validate = .ok () ↔ config.Usable := by
  rw [usable_iff, validate]
  cases config.flaw? <;> simp

theorem capacity_userTable {config : Config} (usable : config.Usable) :
    config.userTable.capacity = config.maxUsers.toNat := by
  rw [userTable, UserTable.capacity_ofSize]
  exact Nat.min_eq_left usable.maxUsers

end Config

namespace Options

/-- Beneath the options lie the settings of the file that is named, or the defaults where none is.
-/
inductive Based (options : Options) (readFile : String → Except String Bytes) : Config → Prop
  | defaults (unnamed : options.config = none) : Based options readFile {}
  | file {path : String} {bytes : Bytes} {text : String} {config : Config}
      (named : options.config = some path) (read : readFile path = .ok bytes)
      (legible : bytes.toText? = some text) (parsed : Config.parse text = .ok config) :
      Based options readFile config

/-- Four of the settings can be given as options, and the others are what they were. -/
structure Merges (options : Options) (base merged : Config) : Prop where
  host : merged.host = options.host.getD base.host
  port : merged.port = options.port.getD base.port
  maxUsers : merged.maxUsers = options.maxUsers.getD base.maxUsers
  logFilter : merged.logFilter = options.log.getD base.logFilter
  channels : merged.channels = base.channels
  maxPeers : merged.maxPeers = base.maxPeers
  pollTimeout : merged.pollTimeout = base.pollTimeout
  sendChannel : merged.sendChannel = base.sendChannel

theorem merges_iff (options : Options) (base merged : Config) :
    options.Merges base merged ↔ options.apply base = merged := by
  constructor
  · intro merges
    cases merged
    simp only [apply, Config.mk.injEq]
    exact ⟨merges.host.symm, merges.port.symm, merges.channels.symm, merges.maxPeers.symm,
      merges.maxUsers.symm, merges.pollTimeout.symm, merges.sendChannel.symm,
      merges.logFilter.symm⟩
  · rintro rfl
    constructor <;> rfl

variable (options : Options) (readFile : String → Except String Bytes)

theorem base_of_named {path : String} (named : options.config = some path) :
    options.base readFile = (Config.ofFile readFile path).mapError (.file path) := by
  rw [base, named]

theorem based_iff (config : Config) :
    options.Based readFile config ↔ options.base readFile = .ok config := by
  constructor
  · rintro (unnamed | ⟨named, read, legible, parsed⟩)
    · rw [base, unnamed]
    · rw [base_of_named options readFile named, Config.ofFile, read]
      dsimp only
      rw [legible]
      dsimp only
      rw [parsed, Except.mapError]
  · intro based
    cases named : options.config with
    | none =>
        rw [base, named] at based
        cases based
        exact .defaults named
    | some path =>
        rw [base_of_named options readFile named, Config.ofFile] at based
        split at based
        · cases based
        · next bytes read =>
          split at based
          · cases based
          · next text legible =>
            cases parsed : Config.parse text with
            | error error =>
                rw [parsed] at based
                cases based
            | ok config =>
                rw [parsed] at based
                cases based
                exact .file named read legible parsed

theorem load_of_base_error {error : LoadError} (failed : options.base readFile = .error error) :
    options.load readFile = .error error := by
  rw [load, failed]
  rfl

theorem load_of_merges {base merged : Config} (based : options.Based readFile base)
    (merges : options.Merges base merged) :
    options.load readFile =
      match merged.validate with
      | .ok () => .ok merged
      | .error error => .error (.merged error) := by
  obtain rfl := (merges_iff options base merged).mp merges
  rw [load, (based_iff options readFile base).mp based]
  dsimp only [Bind.bind, Except.bind]
  cases (options.apply base).validate <;> rfl

/-- Loading either fails on the file, or there is one result of the merge to be checked. -/
theorem file_error_or_merged :
    (∃ path error, options.config = some path ∧ Config.ofFile readFile path = .error error ∧
        options.load readFile = .error (.file path error)) ∨
      ∃ base merged, options.Based readFile base ∧ options.Merges base merged := by
  cases origin : options.base readFile with
  | ok base =>
      exact .inr ⟨base, options.apply base, (based_iff options readFile base).mpr origin,
        (merges_iff options base _).mpr rfl⟩
  | error error =>
      left
      have failed := load_of_base_error options readFile origin
      cases named : options.config with
      | none =>
          rw [base, named] at origin
          cases origin
      | some path =>
          rw [base_of_named options readFile named] at origin
          cases outcome : Config.ofFile readFile path with
          | ok config =>
              rw [outcome] at origin
              cases origin
          | error cause =>
              rw [outcome] at origin
              cases origin
              exact ⟨path, cause, rfl, outcome, failed⟩

theorem load_eq_ok_iff (config : Config) :
    options.load readFile = .ok config ↔
      ∃ base, options.Based readFile base ∧ options.Merges base config ∧
        config.validate = .ok () := by
  constructor
  · intro loaded
    obtain ⟨path, error, -, -, failed⟩ | ⟨base, merged, based, merges⟩ :=
      file_error_or_merged options readFile
    · rw [failed] at loaded
      cases loaded
    · rw [load_of_merges options readFile based merges] at loaded
      split at loaded
      · next accepted =>
        cases loaded
        exact ⟨base, based, merges, accepted⟩
      · cases loaded
  · rintro ⟨base, based, merges, accepted⟩
    rw [load_of_merges options readFile based merges, accepted]

theorem load_eq_file_iff (path : String) (error : ConfigError) :
    options.load readFile = .error (.file path error) ↔
      options.config = some path ∧ Config.ofFile readFile path = .error error := by
  constructor
  · intro loaded
    obtain ⟨named, cause, given, failed, told⟩ | ⟨base, merged, based, merges⟩ :=
      file_error_or_merged options readFile
    · rw [told] at loaded
      cases loaded
      exact ⟨given, failed⟩
    · rw [load_of_merges options readFile based merges] at loaded
      split at loaded <;> cases loaded
  · rintro ⟨named, failed⟩
    apply load_of_base_error
    rw [base_of_named options readFile named, failed]
    rfl

theorem load_eq_merged_iff (error : ConfigError) :
    options.load readFile = .error (.merged error) ↔
      ∃ base merged, options.Based readFile base ∧ options.Merges base merged ∧
        merged.validate = .error error := by
  constructor
  · intro loaded
    obtain ⟨path, cause, -, -, told⟩ | ⟨base, merged, based, merges⟩ :=
      file_error_or_merged options readFile
    · rw [told] at loaded
      cases loaded
    · rw [load_of_merges options readFile based merges] at loaded
      split at loaded
      · cases loaded
      · next refused =>
        cases loaded
        exact ⟨base, merged, based, merges, refused⟩
  · rintro ⟨base, merged, based, merges, refused⟩
    rw [load_of_merges options readFile based merges, refused]

theorem accepted_iff {base : Config} (based : options.Based readFile base) :
    (∃ config, options.load readFile = .ok config) ↔ (options.apply base).Usable := by
  rw [← Config.validate_eq_ok_iff,
    load_of_merges options readFile based ((merges_iff options base _).mpr rfl)]
  cases (options.apply base).validate <;> simp

/-- The options are put over the file, or over the defaults, and only what comes out is checked:
a setting of the file that an option replaces is never looked at, and an option that is out of range
is refused whatever the file says. -/
theorem merged_configuration_decides :
    (∀ config, options.load readFile = .ok config ↔
        ∃ base, options.Based readFile base ∧ options.Merges base config ∧
          config.validate = .ok ()) ∧
      (∀ base, options.Based readFile base →
        ((∃ config, options.load readFile = .ok config) ↔
          (∃ c ∈ (options.host.getD base.host).toList, ¬ Text.isBlank c) ∧
            1 ≤ base.channels.toNat ∧ base.sendChannel.toNat < base.channels.toNat ∧
            1 ≤ base.maxPeers.toNat ∧
            (options.maxUsers.getD base.maxUsers).toNat ≤ UserTable.maxCapacity)) ∧
      (∀ config, options.load readFile = .ok config →
        config.Usable ∧ config.userTable.capacity = config.maxUsers.toNat) ∧
      (∀ path error, options.load readFile = .error (.file path error) ↔
        options.config = some path ∧ Config.ofFile readFile path = .error error) ∧
      ∀ error, options.load readFile = .error (.merged error) ↔
        ∃ base merged, options.Based readFile base ∧ options.Merges base merged ∧
          merged.validate = .error error := by
  refine ⟨load_eq_ok_iff options readFile, ?_, ?_, load_eq_file_iff options readFile,
    load_eq_merged_iff options readFile⟩
  · intro base based
    rw [accepted_iff options readFile based]
    constructor
    · intro usable
      exact ⟨usable.host, usable.channels, usable.sendChannel, usable.maxPeers, usable.maxUsers⟩
    · rintro ⟨host, channels, sendChannel, maxPeers, maxUsers⟩
      exact ⟨host, channels, sendChannel, maxPeers, maxUsers⟩
  · intro config loaded
    obtain ⟨base, -, -, accepted⟩ := (load_eq_ok_iff options readFile config).mp loaded
    have usable := (Config.validate_eq_ok_iff config).mp accepted
    exact ⟨usable, Config.capacity_userTable usable⟩

end Options

end Courier
