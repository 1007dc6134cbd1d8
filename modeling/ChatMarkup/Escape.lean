import ChatMarkup.Fault

namespace ChatMarkup.Text

/-- A backslash directly before a reserved character already escapes it: the pair stays. -/
def escapeChars (reserved : List Char) : Text → Text
  | [] => []
  | '\\' :: c :: rest =>
    if c ∈ reserved then '\\' :: c :: escapeChars reserved rest
    else if '\\' ∈ reserved then '\\' :: '\\' :: escapeChars reserved (c :: rest)
    else '\\' :: escapeChars reserved (c :: rest)
  | c :: rest =>
    if c ∈ reserved then '\\' :: c :: escapeChars reserved rest
    else c :: escapeChars reserved rest

/-- A set with members but without characters is refused, unless there is nothing to escape. -/
def escape (reserved : List Text) (text : Text) : Except Fault Text :=
  if text = [] ∨ reserved = [] then .ok text
  else if reserved.flatten = [] then .error .noReservedCharacter
  else .ok (escapeChars reserved.flatten text)

end ChatMarkup.Text
