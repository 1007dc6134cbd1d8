import ChatMarkup.Proofs.Settings.Lawful
import ChatMarkup.Settings.Basic

namespace ChatMarkup

namespace Checked

variable {α β : Type}

def errors : Checked α → List FieldError
  | valid _ => []
  | invalid errors => errors

theorem errors_seq (f : Checked (α → β)) (part : Checked α) :
    (f.seq part).errors = f.errors ++ part.errors := by
  cases f <;> cases part <;> simp [seq, errors]

theorem seq_eq_valid_iff {f : Checked (α → β)} {part : Checked α} {whole : β} :
    f.seq part = valid whole ↔ ∃ g value, f = valid g ∧ part = valid value ∧ g value = whole := by
  cases f <;> cases part <;> simp [seq]

end Checked

namespace Settings

inductive Field where
  | logFile
  | logLevel
  | escapesTelegramUrls
  | discordDialect
  deriving DecidableEq

namespace Field

def all : List Field := [logFile, logLevel, escapesTelegramUrls, discordDialect]

theorem mem_all (field : Field) : field ∈ all := by
  cases field <;> decide

abbrev Kind : Field → Type
  | logFile => Text
  | logLevel => Level
  | escapesTelegramUrls => Bool
  | discordDialect => Option Dialect

def declared : (field : Field) → Declared field.Kind
  | logFile => logFileField
  | logLevel => logLevelField
  | escapesTelegramUrls => escapesTelegramUrlsField
  | discordDialect => discordDialectField

def name (field : Field) : Text := field.declared.name

def of (settings : Settings) : (field : Field) → field.Kind
  | logFile => settings.logFile
  | logLevel => settings.logLevel
  | escapesTelegramUrls => settings.escapesTelegramUrls
  | discordDialect => settings.discordDialect

theorem missing_declared (field : Field) : field.declared.missing = field.of {} := by
  cases field <;> rfl

theorem plain_declared (field : Field) : field.declared.shape.Plain := by
  cases field <;> trivial

theorem name_injective : Function.Injective name := by
  intro one other same
  cases one <;> cases other <;> first | rfl | exact absurd same (by decide)

/-- What a value has to be for a field to take it. -/
def Accepts : (field : Field) → Value → field.Kind → Prop
  | logFile, value, path => value = .text path
  | logLevel, value, level => value.shown.upper = Level.name level
  | escapesTelegramUrls, value, flag => value.StandsFor flag
  | discordDialect, value, none => value = .null ∨ value = .text []
  | discordDialect, value, some dialect => value = .text (Dialect.name dialect)

/-- A field comes out with this value, given the value that won for it. -/
def Settles (field : Field) (winner : Option Value) (taken : field.Kind) : Prop :=
  match winner with
  | none => taken = field.of {}
  | some value => field.Accepts value taken

end Field

end Settings

section Choice

variable {library : Validation} (laws : library.Lawful) {α : Type} {name : α → Text} {choices : List α}
  (own : ∀ choice, choices.find? (name · = name choice) = some choice) {value : Value} {choice : α}

include laws own

theorem Validation.Lawful.choice_named_iff :
    library.check (.choice name choices) value = .ok choice ↔ value = .text (name choice) := by
  rw [laws.choice_iff]
  constructor
  · rintro ⟨text, rfl, found⟩
    have named : name choice = text := by simpa using List.find?_some found
    rw [named]
  · rintro rfl
    exact ⟨_, rfl, own choice⟩

end Choice

namespace Settings.Field

theorem before_discordDialect_of_left {value : Value} (left : value = .null ∨ value = .text []) :
    discordDialectField.before value = .null := by
  rcases left with rfl | rfl <;> rfl

theorem before_discordDialect_of_given {value : Value} (given : ¬ (value = .null ∨ value = .text [])) :
    discordDialectField.before value = value := by
  cases value with
  | text t =>
    cases t with
    | nil => exact absurd (.inr rfl) given
    | cons c rest => rfl
  | null | bool | int | decimal | list | object => rfl

variable {library : Validation} (laws : library.Lawful) {field : Field} {winner : Option Value}

include laws

theorem check_discordDialect_of_left {value : Value} (left : value = .null ∨ value = .text []) :
    library.check discordDialectField.shape (discordDialectField.before value) = .ok none := by
  rw [before_discordDialect_of_left left]
  exact laws.optional_null _

theorem check_discordDialect_of_given {value : Value} (given : ¬ (value = .null ∨ value = .text [])) :
    library.check discordDialectField.shape (discordDialectField.before value) =
      (library.check (.choice Dialect.name Dialect.all) value).map some := by
  rw [before_discordDialect_of_given given]
  exact laws.optional_value _ fun null => given (.inl null)

theorem check_discordDialect_none_iff {value : Value} :
    library.check discordDialectField.shape (discordDialectField.before value) = .ok none ↔
      value = .null ∨ value = .text [] := by
  by_cases left : value = .null ∨ value = .text []
  · exact iff_of_true (check_discordDialect_of_left laws left) left
  · rw [check_discordDialect_of_given laws left]
    refine iff_of_false ?_ left
    cases library.check (.choice Dialect.name Dialect.all) value <;> exact nofun

theorem check_discordDialect_some_iff {value : Value} {dialect : Dialect} :
    library.check discordDialectField.shape (discordDialectField.before value) = .ok (some dialect) ↔
      value = .text dialect.name := by
  by_cases left : value = .null ∨ value = .text []
  · rw [check_discordDialect_of_left laws left]
    refine iff_of_false nofun ?_
    rintro rfl
    rcases left with same | same
    · cases same
    · cases dialect <;> cases same
  · rw [check_discordDialect_of_given laws left]
    refine Iff.trans ?_ (laws.choice_named_iff Dialect.ofName?_name)
    cases library.check (.choice Dialect.name Dialect.all) value <;> simp [Except.map]

theorem check_eq_ok_iff {value : Value} {taken : field.Kind} :
    library.check field.declared.shape (field.declared.before value) = .ok taken ↔
      field.Accepts value taken := by
  cases field with
  | logFile => exact laws.text_iff
  | logLevel =>
    have named : Value.text value.shown.upper = .text (Level.name taken) ↔
        value.shown.upper = Level.name taken := by rw [Value.text.injEq]
    exact (laws.choice_named_iff Level.ofName?_name).trans named
  | escapesTelegramUrls => exact laws.flag_iff
  | discordDialect =>
    cases taken with
    | none => exact check_discordDialect_none_iff laws
    | some dialect => exact check_discordDialect_some_iff laws

theorem field_eq_valid_iff {taken : field.Kind} :
    library.field field.declared winner = .valid taken ↔ field.Settles winner taken := by
  cases winner with
  | none =>
    rw [Settles, ← missing_declared]
    simp [Validation.field, Declared.checked, eq_comm]
  | some value =>
    rw [Settles, ← check_eq_ok_iff laws]
    simp only [Validation.field, Declared.checked]
    split
    · rename_i known read
      simp [read]
    · rename_i misfits read
      simp [read]

theorem field_eq_invalid (open_ : ¬ ∃ taken, field.Settles winner taken) : ∃ mismatch,
    library.field field.declared winner = .invalid [{ field := field.name, mismatch }] := by
  cases winner with
  | none => exact absurd ⟨_, rfl⟩ open_
  | some value =>
    cases read : library.check field.declared.shape (field.declared.before value) with
    | ok taken => exact absurd ⟨taken, (check_eq_ok_iff laws).mp read⟩ open_
    | error misfits =>
      obtain ⟨mismatch, rfl⟩ := laws.single field.plain_declared read
      refine ⟨mismatch, ?_⟩
      simp [Validation.field, Declared.checked, read, name]

end Settings.Field

end ChatMarkup
