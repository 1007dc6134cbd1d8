import ChatMarkup.Text.Case
import ChatMarkup.Value.Checked

namespace ChatMarkup

inductive Shape : Type → Type 1 where
  | text : Shape Text
  | flag : Shape Bool
  | choice {α : Type} (name : α → Text) (choices : List α) : Shape α
  | optional {α : Type} (shape : Shape α) : Shape (Option α)
  | textSet : Shape (List Text)

def Shape.Plain {α : Type} : Shape α → Prop
  | textSet => False
  | optional shape => shape.Plain
  | _ => True

/-- A value is taken through `before` and then checked; a missing one is not. -/
structure Declared (α : Type) where
  name : Text
  shape : Shape α
  missing : α
  before : Value → Value := id

/-- A declared record: what is put together, and its fields in order. -/
inductive Model : Type → Type 1 where
  | build {α : Type} (whole : α) : Model α
  | field {α β : Type} (front : Model (β → α)) (declared : Declared β) : Model α

namespace Model

def names {α : Type} : Model α → List Text
  | build _ => []
  | field front declared => front.names ++ [declared.name]

def unknown {α : Type} (model : Model α) (entries : Fields) : List FieldError :=
  entries.filterMap fun (name, _) =>
    if model.names.any (· = name) then none
    else some { field := name, mismatch := .unknownField : FieldError }

end Model

structure Misfit where
  item : Option Nat := none
  mismatch : Mismatch
  deriving DecidableEq, Repr

def Declared.checked {α : Type} (declared : Declared α) (check : Value → Except (List Misfit) α)
    (value : Option Value) : Checked α :=
  match value with
  | none => .valid declared.missing
  | some value =>
    match check (declared.before value) with
    | .ok checked => .valid checked
    | .error misfits => .invalid <| misfits.map fun misfit =>
      { field := declared.name, item := misfit.item, mismatch := misfit.mismatch }

/-- A library that checks values, and builds declared records of them. -/
structure Validation where
  check {α : Type} : Shape α → Value → Except (List Misfit) α
  validate {α : Type} : Model α → Fields → Checked α
  validateAll {α : Type} : Model α → Fields → Checked α

namespace Value

def trueWords : List Text := ["1", "true", "t", "on", "yes", "y"].map (·.toList)

def falseWords : List Text := ["0", "false", "f", "off", "no", "n"].map (·.toList)

inductive StandsFor : Value → Bool → Prop
  | bool (b : Bool) : StandsFor (.bool b) b
  | one : StandsFor (.int 1) true
  | zero : StandsFor (.int 0) false
  | decimalOne (places : Nat) : StandsFor (.decimal (Nat.pow 10 places) places) true
  | decimalZero (places : Nat) : StandsFor (.decimal 0 places) false
  | trueWord {word : Text} (listed : word.map Char.toLower ∈ trueWords) : StandsFor (.text word) true
  | falseWord {word : Text} (listed : word.map Char.toLower ∈ falseWords) : StandsFor (.text word) false

end Value

namespace Validation

def field {α : Type} (library : Validation) (declared : Declared α) (value : Option Value) : Checked α :=
  declared.checked (library.check declared.shape) value

structure Lawful (library : Validation) : Prop where
  text_iff {value : Value} {text : Text} : library.check .text value = .ok text ↔ value = .text text
  flag_iff {value : Value} {flag : Bool} : library.check .flag value = .ok flag ↔ value.StandsFor flag
  choice_iff {α : Type} {name : α → Text} {choices : List α} {value : Value} {choice : α} :
    library.check (.choice name choices) value = .ok choice ↔
      ∃ text, value = .text text ∧ choices.find? (name · = text) = some choice
  optional_null {α : Type} (shape : Shape α) : library.check (.optional shape) .null = .ok none
  optional_value {α : Type} (shape : Shape α) {value : Value} (given : value ≠ .null) :
    library.check (.optional shape) value = (library.check shape value).map some
  single {α : Type} {shape : Shape α} {value : Value} {misfits : List Misfit} (plain : shape.Plain)
    (refused : library.check shape value = .error misfits) : ∃ mismatch, misfits = [{ mismatch }]
  validate_build {α : Type} (whole : α) (entries : Fields) :
    library.validate (.build whole) entries = .valid whole
  validate_field {α β : Type} (front : Model (β → α)) (declared : Declared β) (entries : Fields) :
    library.validate (.field front declared) entries =
      (library.validate front entries).seq (library.field declared (entries.lookup declared.name))
  validateAll_eq {α : Type} (model : Model α) (entries : Fields) :
    library.validateAll model entries = (library.validate model entries).refuse (model.unknown entries)

end Validation

end ChatMarkup
