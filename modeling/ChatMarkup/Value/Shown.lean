import ChatMarkup.Value.Json

namespace ChatMarkup.Value

mutual

def displayed : Value → Text
  | null => "None".toList
  | bool true => "True".toList
  | bool false => "False".toList
  | int n => Text.ofInt n
  | decimal mantissa places => Text.ofDecimal mantissa places
  | text t => t.quoted
  | list items => '[' :: (displayedItems items ++ [']'])
  | object fields => '\x7b' :: (displayedFields fields ++ ['\x7d'])

def displayedItems : List Value → Text
  | [] => []
  | [item] => displayed item
  | item :: rest => displayed item ++ ',' :: ' ' :: displayedItems rest

def displayedFields : List (Text × Value) → Text
  | [] => []
  | [(name, value)] => name.quoted ++ ':' :: ' ' :: displayed value
  | (name, value) :: rest =>
    name.quoted ++ ':' :: ' ' :: (displayed value ++ ',' :: ' ' :: displayedFields rest)

end

def shown : Value → Text
  | text t => t
  | value => value.displayed

end ChatMarkup.Value
