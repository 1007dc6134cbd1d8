import ChatMarkup.Value.Json

namespace ChatMarkup.Json

def isSpace (c : Char) : Bool := c = ' ' || c = '\t' || c = '\n' || c = '\r'

def skip (text : Text) : Text := text.dropWhile isSpace

def hexDigit? (c : Char) : Option Nat :=
  if '0' ≤ c ∧ c ≤ '9' then some (c.toNat - 48)
  else if 'a' ≤ c ∧ c ≤ 'f' then some (c.toNat - 87)
  else if 'A' ≤ c ∧ c ≤ 'F' then some (c.toNat - 55)
  else none

def numbered? (digits : Text) : Option Char :=
  (digits.mapM hexDigit?).bind fun values =>
    let n := values.foldl (16 * · + ·) 0
    if n.isValidChar then some (.ofNat n) else none

def named? (c : Char) : Option Char :=
  if c = '"' ∨ c = '\\' ∨ c = '/' then some c
  else if c = 'n' then some '\n'
  else if c = 'r' then some '\r'
  else if c = 't' then some '\t'
  else if c = 'b' then some '\x08'
  else if c = 'f' then some '\x0c'
  else none

def string? : Text → Option (Text × Text)
  | [] => none
  | '"' :: rest => some ([], rest)
  | '\\' :: 'u' :: a :: b :: c :: d :: rest =>
    (numbered? [a, b, c, d]).bind fun found =>
      (string? rest).map fun (text, after) => (found :: text, after)
  | '\\' :: c :: rest =>
    (named? c).bind fun found => (string? rest).map fun (text, after) => (found :: text, after)
  | c :: rest =>
    if c.toNat < 0x20 then none
    else (string? rest).map fun (text, after) => (c :: text, after)

def natural? (text : Text) : Option (Nat × Text) :=
  let digits := text.takeWhile Char.isDigit
  if digits = [] ∨ digits.head? = some '0' ∧ digits ≠ ['0'] then none
  else some (Nat.ofDigitChars 10 digits 0, text.drop digits.length)

def integer? (text : Text) : Option (Value × Text) :=
  match text with
  | '-' :: rest => (natural? rest).map fun (n, after) => (.int (-n), after)
  | _ => (natural? text).map fun (n, after) => (.int n, after)

def word? (word : String) (value : Value) (text : Text) : Option (Value × Text) :=
  (Text.after? word.toList text).map fun after => (value, after)

mutual

/-- The fuel bounds how deep values lie in one another, each behind those in front of it. -/
def value? : Nat → Text → Option (Value × Text)
  | 0, _ => none
  | fuel + 1, text =>
    match skip text with
    | [] => none
    | c :: rest =>
      if c = '"' then (string? rest).map fun (text, after) => (.text text, after)
      else if c = '[' then
        match skip rest with
        | ']' :: after => some (.list [], after)
        | _ => (items? fuel rest).map fun (items, after) => (.list items, after)
      else if c = '\x7b' then
        match skip rest with
        | '\x7d' :: after => some (.object [], after)
        | _ => (members? fuel rest).map fun (fields, after) => (.object fields, after)
      else if c.isDigit ∨ c = '-' then integer? (c :: rest)
      else
        word? "null" .null (c :: rest) <|> word? "true" (.bool true) (c :: rest) <|>
          word? "false" (.bool false) (c :: rest)

def items? : Nat → Text → Option (List Value × Text)
  | 0, _ => none
  | fuel + 1, text =>
    (value? fuel text).bind fun (item, rest) =>
      match skip rest with
      | ']' :: after => some ([item], after)
      | ',' :: more => (items? fuel more).map fun (items, after) => (item :: items, after)
      | _ => none

def members? : Nat → Text → Option (Fields × Text)
  | 0, _ => none
  | fuel + 1, text =>
    (Text.after? ['"'] (skip text)).bind fun body =>
      (string? body).bind fun (name, rest) =>
        (Text.after? [':'] (skip rest)).bind fun rest =>
          (value? fuel rest).bind fun (value, rest) =>
            match skip rest with
            | '\x7d' :: after => some ([(name, value)], after)
            | ',' :: more => (members? fuel more).map fun (fields, after) => ((name, value) :: fields, after)
            | _ => none

end

def read? (text : Text) : Option Value :=
  (value? (text.length + 1) text).bind fun (value, after) =>
    if skip after = [] then some value else none

example : (read? " \x7b\"a\\u0041\\n\": [1, -20 , \x7b\x7d],\"b\": null\x7d\n".toList).map Value.json =
    some "\x7b\"aA\\n\": [1, -20, \x7b\x7d], \"b\": null\x7d".toList := by decide +kernel

example : (read? "\x7b\"a\": 01\x7d".toList).isNone := by decide +kernel

end ChatMarkup.Json
