import ChatMarkup.Value.Basic

namespace ChatMarkup

inductive Mismatch where
  | notText
  | notBool
  | unreadableBool
  | notSet
  | notOneOf (choices : List Text)
  | unknownField
  deriving DecidableEq, Repr

namespace Mismatch

def code : Mismatch → Text
  | notText => "string_type".toList
  | notBool => "bool_type".toList
  | unreadableBool => "bool_parsing".toList
  | notSet => "frozen_set_type".toList
  | notOneOf _ => "literal_error".toList
  | unknownField => "extra_forbidden".toList

def alternatives : List Text → Text
  | [] => []
  | [choice] => '\'' :: choice ++ ['\'']
  | [first, second] => '\'' :: first ++ "' or '".toList ++ second ++ ['\'']
  | choice :: rest => '\'' :: choice ++ "', ".toList ++ alternatives rest

def message : Mismatch → Text
  | notText => "Input should be a valid string".toList
  | notBool => "Input should be a valid boolean".toList
  | unreadableBool => "Input should be a valid boolean, unable to interpret input".toList
  | notSet => "Input should be a valid frozenset".toList
  | notOneOf choices => "Input should be ".toList ++ alternatives choices
  | unknownField => "Extra inputs are not permitted".toList

end Mismatch

structure FieldError where
  field : Text
  item : Option Nat := none
  mismatch : Mismatch
  deriving DecidableEq, Repr

inductive Checked (α : Type) where
  | valid (value : α)
  | invalid (errors : List FieldError)
  deriving Repr

namespace Checked

def seq {α β : Type} : Checked (α → β) → Checked α → Checked β
  | valid f, valid value => valid (f value)
  | valid _, invalid errors => invalid errors
  | invalid errors, valid _ => invalid errors
  | invalid errors, invalid more => invalid (errors ++ more)

def refuse {α : Type} (errors : List FieldError) : Checked α → Checked α
  | valid value => if errors = [] then valid value else invalid errors
  | invalid found => invalid (found ++ errors)

end Checked

end ChatMarkup
