import ChatMarkup.Value.Model

namespace ChatMarkup

namespace Value

def toText : Value → Except Mismatch Text
  | text t => .ok t
  | _ => .error .notText

/-- A number of more than 64 bits is refused as a number, not as an unreadable one. -/
def toBool : Value → Except Mismatch Bool
  | bool b => .ok b
  | int n =>
    if n = 0 then .ok false
    else if n = 1 then .ok true
    else if -9223372036854775808 ≤ n ∧ n ≤ 9223372036854775807 then .error .unreadableBool
    else .error .notBool
  | decimal mantissa places =>
    if mantissa = 0 then .ok false
    else if mantissa = Nat.pow 10 places then .ok true
    else .error .notBool
  | text t =>
    let word := t.map Char.toLower
    if trueWords.any (· = word) then .ok true
    else if falseWords.any (· = word) then .ok false
    else .error .unreadableBool
  | _ => .error .notBool

def toChoice {α : Type} (name : α → Text) (choices : List α) (value : Value) : Except Mismatch α :=
  let found := match value with
    | text t => choices.find? (name · = t)
    | _ => none
  match found with
  | some choice => .ok choice
  | none => .error (.notOneOf (choices.map name))

end Value

namespace Text

def insertSorted (text : Text) : List Text → List Text
  | [] => [text]
  | first :: rest =>
    if text < first then text :: first :: rest
    else if text = first then first :: rest
    else first :: insertSorted text rest

def sortedSet (texts : List Text) : List Text := texts.foldr insertSorted []

end Text

def Value.toTextSet : Value → Except (List Misfit) (List Text)
  | list items =>
    let misfits := items.zipIdx.filterMap fun (item, place) =>
      match item.toText with
      | .ok _ => none
      | .error mismatch => some { item := some place, mismatch : Misfit }
    if misfits = [] then .ok (Text.sortedSet (items.filterMap (·.toText.toOption)))
    else .error misfits
  | _ => .error [{ mismatch := .notSet }]

def Misfit.alone (mismatch : Mismatch) : List Misfit := [{ mismatch }]

def Shape.check {α : Type} : Shape α → Value → Except (List Misfit) α
  | text, value => value.toText.mapError Misfit.alone
  | flag, value => value.toBool.mapError Misfit.alone
  | choice name choices, value => (value.toChoice name choices).mapError Misfit.alone
  | optional _, .null => .ok none
  | optional shape, value => (shape.check value).map some
  | textSet, value => value.toTextSet

def Model.validate {α : Type} : Model α → Fields → Checked α
  | build whole, _ => .valid whole
  | field front declared, entries =>
    (front.validate entries).seq
      (declared.checked declared.shape.check (entries.lookup declared.name))

def Validation.standard : Validation where
  check := Shape.check
  validate := Model.validate
  validateAll model entries := (model.validate entries).refuse (model.unknown entries)

end ChatMarkup
