import ChatMarkup.Text.Case

namespace ChatMarkup

abbrev Variables := List (Text × Text)

namespace Variables

def put (name value : Text) : Variables → Variables
  | [] => [(name, value)]
  | (known, old) :: rest =>
    if known = name then (name, value) :: rest else (known, old) :: put name value rest

def erase (name : Text) (entries : Variables) : Variables :=
  entries.filter (·.1 ≠ name)

end Variables

def Named {α : Type} (entries : List (Text × α)) (name : Text) : Prop :=
  ∃ entry ∈ entries, entry.1.lower = name

def Variables.Last (lines : Variables) (spelling value : Text) : Prop :=
  ∃ before after, lines = before ++ (spelling, value) :: after ∧ ∀ later ∈ after, later.1 ≠ spelling

end ChatMarkup
