import ChatMarkup.Proofs.Settings.Field
import ChatMarkup.Proofs.Settings.Winner

namespace ChatMarkup.Settings

variable {library : SettingsLibrary} (laws : library.Lawful) {sources : Sources}

theorem name_mem_names (field : Field) : field.name ∈ model.names := by
  cases field <;> decide

def won (library : SettingsLibrary) (sources : Sources) (field : Field) : Option Value :=
  library.winner sources field.name

def outcome (library : SettingsLibrary) (sources : Sources) (field : Field) : Checked field.Kind :=
  library.field field.declared (won library sources field)

include laws

theorem ofSources_eq (sources : Sources) : ofSources library sources =
    ((((Checked.valid Settings.mk).seq (outcome library sources .logFile)).seq
      (outcome library sources .logLevel)).seq
      (outcome library sources .escapesTelegramUrls)).seq
      (outcome library sources .discordDialect) := by
  have looked (field : Field) :
      (library.collect model.names sources).lookup field.name = won library sources field :=
    laws.lookup_collect (name_mem_names field) sources
  simp only [outcome, ← looked]
  unfold ofSources
  generalize library.collect model.names sources = entries
  simp only [model, laws.validation.validate_field, laws.validation.validate_build]
  rfl

theorem ofSources_eq_valid_iff {settings : Settings} : ofSources library sources = .valid settings ↔
    ∀ field : Field, field.Settles (won library sources field) (field.of settings) := by
  simp only [← Field.field_eq_valid_iff laws.validation, ofSources_eq laws, Checked.seq_eq_valid_iff]
  constructor
  · rintro ⟨_, _, ⟨_, _, ⟨_, _, ⟨_, _, ⟨⟩, file, rfl⟩, level, rfl⟩, flag, rfl⟩, dialect, rfl⟩ field
    cases field with
    | logFile => exact file
    | logLevel => exact level
    | escapesTelegramUrls => exact flag
    | discordDialect => exact dialect
  · intro known
    exact ⟨_, _, ⟨_, _, ⟨_, _, ⟨_, _, rfl, known .logFile, rfl⟩, known .logLevel, rfl⟩,
      known .escapesTelegramUrls, rfl⟩, known .discordDialect, rfl⟩

theorem errors_ofSources (sources : Sources) : (ofSources library sources).errors =
    Field.all.flatMap fun field => (outcome library sources field).errors := by
  have none_yet : (Checked.valid Settings.mk).errors = [] := rfl
  simp only [ofSources_eq laws, Checked.errors_seq, none_yet, Field.all, List.flatMap_cons,
    List.flatMap_nil, List.append_nil, List.nil_append, List.append_assoc]

theorem exists_valid_iff : (∃ settings, ofSources library sources = .valid settings) ↔
    ∀ field : Field, ∃ taken, field.Settles (won library sources field) taken := by
  simp only [ofSources_eq_valid_iff laws]
  constructor
  · rintro ⟨settings, settled⟩ field
    exact ⟨field.of settings, settled field⟩
  · intro settled
    obtain ⟨path, file⟩ := settled .logFile
    obtain ⟨known, level⟩ := settled .logLevel
    obtain ⟨escapes, flag⟩ := settled .escapesTelegramUrls
    obtain ⟨choice, dialect⟩ := settled .discordDialect
    refine ⟨⟨path, known, escapes, choice⟩, fun field => ?_⟩
    cases field with
    | logFile => exact file
    | logLevel => exact level
    | escapesTelegramUrls => exact flag
    | discordDialect => exact dialect

theorem errors_outcome_of_settles {field : Field} {taken : field.Kind}
    (settled : field.Settles (won library sources field) taken) :
    (outcome library sources field).errors = [] := by
  rw [outcome, (Field.field_eq_valid_iff laws.validation).mpr settled, Checked.errors]

theorem forall₂_errors (fields : List Field) (failing : Field → Prop) [DecidablePred failing]
    (exact_ : ∀ field, failing field ↔ ¬ ∃ taken, field.Settles (won library sources field) taken) :
    List.Forall₂ (fun field error => error.field = field.name ∧
        outcome library sources field = .invalid [error])
      (fields.filter failing) (fields.flatMap fun field => (outcome library sources field).errors) := by
  induction fields with
  | nil => exact .nil
  | cons field fields ih =>
    rw [List.flatMap_cons]
    by_cases fails : failing field
    · obtain ⟨mismatch, refused⟩ := Field.field_eq_invalid laws.validation ((exact_ field).mp fails)
      rw [List.filter_cons_of_pos (by simpa using fails), outcome, refused]
      exact .cons ⟨rfl, refused⟩ ih
    · obtain ⟨taken, settled⟩ := Classical.not_not.mp (mt (exact_ field).mpr fails)
      rw [List.filter_cons_of_neg (by simpa using fails), errors_outcome_of_settles laws settled]
      exact ih

omit laws

/-- Each field's part of what comes out is told by the value that won for the field alone. -/
structure PutTogether (library : SettingsLibrary) (winner : Field → Option Value)
    (resolved : Checked Settings) : Prop where
  settled : ∀ settings, resolved = .valid settings ↔
    ∀ field : Field, field.Settles (winner field) (field.of settings)
  passed : (∃ settings, resolved = .valid settings) ↔
    ∀ field : Field, ∃ taken, field.Settles (winner field) taken
  failed : ∀ errors, resolved = .invalid errors → ∃ failing : List Field, failing.Sublist Field.all ∧
    (∀ field, field ∈ failing ↔ ¬ ∃ taken, field.Settles (winner field) taken) ∧
    List.Forall₂ (fun field error => error.field = field.name ∧
      library.field field.declared (winner field) = .invalid [error]) failing errors

/-- Two outcomes agree in the errors about a field, and in its value where both have one. -/
def Agree (field : Field) (one other : Checked Settings) : Prop :=
  one.errors.filter (·.field = field.name) = other.errors.filter (·.field = field.name) ∧
    ∀ first second, one = .valid first → other = .valid second → field.of first = field.of second

theorem field_of_mem_errors {field : Field} {error : FieldError}
    (inside : error ∈ (outcome library sources field).errors) : error.field = field.name := by
  unfold outcome Validation.field Declared.checked at inside
  split at inside
  · cases inside
  · split at inside
    · cases inside
    · obtain ⟨misfit, -, rfl⟩ := List.mem_map.mp inside
      rfl

theorem filter_errors (field : Field) :
    (Field.all.flatMap fun other => (outcome library sources other).errors).filter
      (·.field = field.name) = (outcome library sources field).errors := by
  have own (other : Field) : (outcome library sources other).errors.filter (·.field = field.name) =
      if other = field then (outcome library sources field).errors else [] := by
    split
    · rename_i same
      rw [same, List.filter_eq_self]
      exact fun error inside => by simpa using field_of_mem_errors inside
    · rename_i different
      rw [List.filter_eq_nil_iff]
      intro error inside same
      rw [field_of_mem_errors inside, decide_eq_true_eq] at same
      exact different (Field.name_injective same)
  rw [List.filter_flatMap]
  simp only [own]
  cases field <;> simp [Field.all]

include laws

open Classical in
theorem putTogether_ofSources (sources : Sources) :
    PutTogether library (won library sources) (ofSources library sources) where
  settled _ := ofSources_eq_valid_iff laws
  passed := exists_valid_iff laws
  failed errors refused := by
    let failing := fun field : Field => ¬ ∃ taken, field.Settles (won library sources field) taken
    refine ⟨Field.all.filter failing, List.filter_sublist, fun field => ?_, ?_⟩
    · rw [List.mem_filter, decide_eq_true_eq]
      exact and_iff_right field.mem_all
    · have found := errors_ofSources laws sources
      rw [refused, Checked.errors] at found
      rw [found]
      exact forall₂_errors laws Field.all failing fun _ => Iff.rfl

theorem agree_of_won {field : Field} {other : Sources}
    (same : won library other field = won library sources field) :
    Agree field (ofSources library sources) (ofSources library other) := by
  have alike : outcome library other field = outcome library sources field := by
    rw [outcome, outcome, same]
  refine ⟨?_, fun first second one two => ?_⟩
  · rw [errors_ofSources laws, errors_ofSources laws, filter_errors, filter_errors, alike]
  · have left := (Field.field_eq_valid_iff laws.validation).mpr
      ((ofSources_eq_valid_iff laws).mp one field)
    have right := (Field.field_eq_valid_iff laws.validation).mpr
      ((ofSources_eq_valid_iff laws).mp two field)
    rw [← same, right] at left
    exact (Checked.valid.inj left).symm

omit laws

def Field.given (settings : Settings) : Field → Value
  | logFile => .text settings.logFile
  | logLevel => .text settings.logLevel.name
  | escapesTelegramUrls => .bool settings.escapesTelegramUrls
  | discordDialect => (settings.discordDialect.map (Value.text ·.name)).getD .null

theorem fields_eq (settings : Settings) :
    settings.fields = Field.all.map fun field => (field.name, field.given settings) := rfl

theorem mem_fields (settings : Settings) (field : Field) :
    (field.name, field.given settings) ∈ settings.fields := by
  rw [fields_eq]
  exact List.mem_map_of_mem (f := fun field : Field => (field.name, field.given settings)) field.mem_all

theorem Field.lower_name (field : Field) : field.name.lower = field.name := by
  cases field <;> decide

theorem Field.accepts_given (settings : Settings) (field : Field) :
    field.Accepts (field.given settings) (field.of settings) := by
  cases field with
  | logFile => exact rfl
  | logLevel =>
    change Text.upper settings.logLevel.name = settings.logLevel.name
    cases settings.logLevel <;> decide
  | escapesTelegramUrls => exact .bool _
  | discordDialect =>
    unfold given of Accepts
    cases settings.discordDialect with
    | none => exact .inl rfl
    | some dialect => exact rfl

include laws

theorem ofSources_fields (settings : Settings) (environment : Variables) (file : Text) :
    ofSources library { given := settings.fields, environment, file } = .valid settings := by
  rw [ofSources_eq_valid_iff laws]
  intro field
  let sources : Sources := { given := settings.fields, environment, file }
  have held : Named sources.given field.name := ⟨_, mem_fields settings field, field.lower_name⟩
  obtain ⟨value, found⟩ := SettingsLibrary.exists_given laws held
  have wins : won library sources field = some value := by
    rw [won, SettingsLibrary.winner, found]
    rfl
  -- only the field's own entry goes by its name
  obtain ⟨spelling, inside, named⟩ := laws.mem_given found
  change (spelling, value) ∈ settings.fields at inside
  rw [fields_eq, List.mem_map] at inside
  obtain ⟨other, -, same⟩ := inside
  obtain ⟨rfl, rfl⟩ := Prod.mk.inj same
  rw [Field.lower_name] at named
  obtain rfl := Field.name_injective named
  change other.Settles (won library sources other) (other.of settings)
  rw [wins]
  exact other.accepts_given settings

theorem discordDialect_of_won_empty {settings : Settings} (passed : ofSources library sources = .valid settings)
    (empty : won library sources .discordDialect = some (.text [])) : settings.discordDialect = none := by
  have settled := (ofSources_eq_valid_iff laws).mp passed .discordDialect
  rw [empty] at settled
  change Field.Accepts .discordDialect (.text []) settings.discordDialect at settled
  cases held : settings.discordDialect with
  | none => rfl
  | some dialect =>
    rw [held] at settled
    cases dialect <;> cases settled

/-- What wins for a field hides everything below it, valid or not. -/
theorem ofSources_field_by_field (sources : Sources) :
    let resolved := ofSources library sources
    let winner := fun field : Field => library.winner sources field.name
    PutTogether library winner resolved ∧
    (∀ field : Field, library.Winner sources field.name (winner field)) ∧
    (library.Distinct sources → ∀ (field : Field) found,
      library.Winner sources field.name found ↔ winner field = found) ∧
    (winner .discordDialect = some (.text []) →
      ∀ settings, resolved = .valid settings → settings.discordDialect = none) ∧
    (∀ (field : Field) other, library.winner other field.name = winner field →
      Agree field resolved (ofSources library other)) ∧
    (∀ field : Field, Named sources.given field.name → ∀ environment file,
      Agree field resolved (ofSources library { sources with environment, file })) ∧
    (∀ field : Field, Named sources.environment field.name → ∀ file,
      Agree field resolved (ofSources library { sources with file })) ∧
    ∀ (settings : Settings) environment file,
      ofSources library { given := settings.fields, environment, file } = .valid settings := by
  intro resolved winner
  refine ⟨putTogether_ofSources laws sources, fun field => library.winner_wins laws sources field.name,
    fun distinct field found => ⟨library.winner_eq laws distinct, ?_⟩, ?_, ?_, ?_, ?_, ?_⟩
  · rintro rfl
    exact library.winner_wins laws sources field.name
  · exact fun empty settings passed => discordDialect_of_won_empty laws passed empty
  · exact fun field other same => agree_of_won laws same
  · exact fun field held environment file => agree_of_won laws (library.winner_of_given laws held rfl)
  · exact fun field held file => agree_of_won laws (library.winner_of_environment laws held rfl rfl)
  · exact fun settings environment file => ofSources_fields laws settings environment file

omit laws

theorem ofSources_over_hidden :
    let sources : Sources := {
      given := [("log_level".toList, .text "info".toList)]
      environment := [("LOG_LEVEL".toList, "loud".toList), ("DISCORD_DIALECT".toList, "".toList)]
      file := "discord_dialect=slack\nLOG_FILE=a.log\nLOG_FILE=b.log".toList }
    SettingsLibrary.standard.Lawful ∧
      ofSources .standard sources = .valid { logFile := "b.log".toList, logLevel := .info } := by
  intro sources
  obtain ⟨together, -, won, -⟩ :=
    ofSources_field_by_field SettingsLibrary.standard_lawful sources
  refine ⟨SettingsLibrary.standard_lawful, (together.settled _).mpr fun field => ?_⟩
  have lines : Dotenv.bindings sources.file = [("discord_dialect".toList, "slack".toList),
      ("LOG_FILE".toList, "a.log".toList), ("LOG_FILE".toList, "b.log".toList)] := by decide
  have distinct : SettingsLibrary.standard.Distinct sources := by
    refine ⟨by decide, by decide, ?_⟩
    change ∀ one ∈ Dotenv.bindings sources.file, ∀ other ∈ Dotenv.bindings sources.file, _
    rw [lines]
    decide
  have wins {found : Option Value} (first : SettingsLibrary.standard.Winner sources field.name found) :
      SettingsLibrary.standard.winner sources field.name = found := (won distinct field found).mp first
  cases field with
  | logFile =>
    have last : Variables.Last (Dotenv.bindings sources.file) "LOG_FILE".toList "b.log".toList :=
      ⟨[_, _], [], lines, nofun⟩
    rw [wins (.file (not_named_iff.mpr (by decide)) (not_named_iff.mpr (by decide)) last (by decide))]
    exact rfl
  | logLevel =>
    rw [wins (.given (List.mem_singleton_self _) (by decide))]
    exact rfl
  | escapesTelegramUrls =>
    rw [wins (.missing (not_named_iff.mpr (by decide)) (not_named_iff.mpr (by decide)) ?_)]
    · exact rfl
    · change ¬ Named (Dotenv.bindings sources.file) _
      rw [lines, not_named_iff]
      decide
  | discordDialect =>
    rw [wins (.environment (not_named_iff.mpr (by decide))
      (List.mem_cons_of_mem _ List.mem_cons_self) (by decide))]
    exact .inr rfl

end ChatMarkup.Settings
