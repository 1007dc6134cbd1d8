import ChatMarkup.Text.Quoted
import ChatMarkup.Value.Checked

namespace ChatMarkup

inductive Fault where
  | unknownDialect (name : Text)
  | unknownPlatform (name : Text)
  | unknownLevel (name : Text)
  | unknownKind (name : Text)
  | unknownTable (name : Text)
  | unsupportedKind (name : Text)
  | noReservedCharacter
  | noFreeMark
  | unterminated (offset : Nat)
  | missing (placeholder : Text)
  | leftover (mark : Text)
  | invalid (errors : List FieldError)
  | unopened (path : Text)
  | misfit (message : Text)
  deriving DecidableEq, Repr

namespace Fault

def message? : Fault → Option Text
  | unknownDialect name => some (name.quoted ++ " is not a valid Dialect".toList)
  | unknownPlatform name => some (name.quoted ++ " is not a valid Platform".toList)
  | unknownLevel name => some ("Level '".toList ++ name ++ "' does not exist".toList)
  | unknownKind name => some name.quoted
  | unknownTable name => some name.quoted
  | unsupportedKind name => some ("Unsupported span kind: ".toList ++ name.quoted)
  | noReservedCharacter => none
  | noFreeMark => some "Input contains every placeholder sentinel candidate".toList
  | unterminated offset =>
    some ("Unterminated placeholder starting at offset ".toList ++ Text.ofNat offset)
  | missing placeholder => some ("Placeholder ".toList ++ placeholder.quoted ++ " not found".toList)
  | leftover _ => some "Unresolved placeholder left in output".toList
  | invalid _ | unopened _ | misfit _ => none

end Fault

def Checked.toExcept {α : Type} : Checked α → Except Fault α
  | valid value => .ok value
  | invalid errors => .error (.invalid errors)

end ChatMarkup
