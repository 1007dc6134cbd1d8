import ChatMarkup.Escape
import ChatMarkup.Log.Reported

namespace ChatMarkup.Placeholder

inductive Region where
  | outside (text : Text)
  | placeholder (text : Text)
  deriving DecidableEq, Repr

def Region.text : Region → Text
  | outside text => text
  | placeholder text => text

/-- The regions of a text that starts at `offset`. A placeholder ends with the first character of
    the next mark. If there is none, the regions stop before it and its place is answered with them.
    -/
def regions (mark : Text) (offset : Nat) (text : Text) : List Region × Option Nat :=
  match _opening : Text.breakOn? mark text with
  | none => ([.outside text], none)
  | some (_, []) => ([], some (offset + text.length))
  | some (before, first :: body) =>
    match _closing : Text.breakOn? mark body with
    | none => ([], some (offset + before.length))
    | some (inner, []) => ([.outside before, .placeholder (first :: inner)], none)
    | some (inner, last :: rest) =>
      let following := regions mark (offset + before.length + inner.length + 2) rest
      (.outside before :: .placeholder (first :: inner ++ [last]) :: following.1, following.2)
termination_by text.length
decreasing_by
  have outer := congrArg List.length (Text.breakOn?_append _opening)
  have inside := congrArg List.length (Text.breakOn?_append _closing)
  simp only [List.length_append, List.length_cons] at outer inside
  omega

def Region.escape (reserved : List Text) : Region → Except Fault Text
  | outside text => text.escape reserved
  | placeholder text => .ok text

def escapeAround (reserved : List Text) (mark text : Text) : Reported Text := do
  let found := regions mark 0 text
  let escaped ← Reported.ofExcept (found.1.mapM (Region.escape reserved))
  match found.2 with
  | none => return escaped.flatten
  | some offset =>
    .raise
      (.error "messaging.rendering.escaping" "escape_outside_placeholders"
        ("ESCAPE: unterminated placeholder at offset ".toList ++ Text.ofNat offset))
      (.unterminated offset)

end ChatMarkup.Placeholder
