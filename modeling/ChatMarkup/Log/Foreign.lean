import ChatMarkup.Fault
import ChatMarkup.Value.Shown

namespace ChatMarkup.Value

def shownWhole? : Value → Option Text
  | bool b => some (if b then ['1'] else ['0'])
  | int n => some (Text.ofInt n)
  | decimal mantissa places => some (Text.ofInt (mantissa.tdiv (Nat.pow 10 places)))
  | _ => none

/-- `%%` is a percent sign. Every argument has to be used, but for a single object. -/
def fillDirectives? (spare : Bool) : Text → List Value → Option Text
  | '%' :: '%' :: rest, arguments => (fillDirectives? spare rest arguments).map ('%' :: ·)
  | '%' :: 's' :: rest, argument :: arguments =>
    (fillDirectives? spare rest arguments).map (argument.shown ++ ·)
  | '%' :: 'd' :: rest, argument :: arguments => do
    let number ← argument.shownWhole?
    let filled ← fillDirectives? spare rest arguments
    return number ++ filled
  | '%' :: _, _ => none
  | c :: rest, arguments => (fillDirectives? spare rest arguments).map (c :: ·)
  | [], arguments => if arguments = [] ∨ spare then some [] else none

def fillMessage (message : Text) (arguments : List Value) : Except Fault Text :=
  let filled := match arguments with
    | [] => some message
    | [.object (_ :: _)] => fillDirectives? true message arguments
    | _ => fillDirectives? false message arguments
  match filled with
  | some whole => .ok whole
  | none => .error (.misfit message)

end ChatMarkup.Value
