import ChatMarkup.Text.Quoted
import ChatMarkup.Value.Basic

namespace ChatMarkup

namespace Text

/-- Only the quote, the backslash and the characters below the space are escaped. -/
def jsonChar (c : Char) : Text :=
  if c = '"' then ['\\', '"']
  else if c = '\\' then ['\\', '\\']
  else if c = '\n' then ['\\', 'n']
  else if c = '\r' then ['\\', 'r']
  else if c = '\t' then ['\\', 't']
  else if c = '\x08' then ['\\', 'b']
  else if c = '\x0c' then ['\\', 'f']
  else if c.toNat < 0x20 then '\\' :: 'u' :: hex 4 c.toNat
  else [c]

def json (text : Text) : Text := '"' :: text.flatMap jsonChar ++ ['"']

def ofDecimal (mantissa : Int) (places : Nat) : Text :=
  let scale := Nat.pow 10 places
  let whole := mantissa.natAbs / scale
  let digits := ofNat (scale + mantissa.natAbs % scale)
  let fraction := (digits.drop 1).reverse.dropWhile (· = '0')
  (if mantissa < 0 then ['-'] else []) ++ ofNat whole ++ '.' ::
    if fraction = [] then ['0'] else fraction.reverse

end Text

namespace Value

mutual

def json : Value → Text
  | null => "null".toList
  | bool true => "true".toList
  | bool false => "false".toList
  | int n => Text.ofInt n
  | decimal mantissa places => Text.ofDecimal mantissa places
  | text t => t.json
  | list items => '[' :: (jsonItems items ++ [']'])
  | object fields => '\x7b' :: (jsonFields fields ++ ['\x7d'])

def jsonItems : List Value → Text
  | [] => []
  | [item] => json item
  | item :: rest => json item ++ ',' :: ' ' :: jsonItems rest

def jsonFields : List (Text × Value) → Text
  | [] => []
  | [(name, value)] => name.json ++ ':' :: ' ' :: json value
  | (name, value) :: rest => name.json ++ ':' :: ' ' :: (json value ++ ',' :: ' ' :: jsonFields rest)

end

end Value

end ChatMarkup
