import ChatMarkup.Text.Search

namespace ChatMarkup

inductive Level where
  | trace
  | debug
  | info
  | success
  | warning
  | error
  | critical
  deriving DecidableEq, Repr

namespace Level

def all : List Level := [trace, debug, info, success, warning, error, critical]

def name : Level → Text
  | trace => "TRACE".toList
  | debug => "DEBUG".toList
  | info => "INFO".toList
  | success => "SUCCESS".toList
  | warning => "WARNING".toList
  | error => "ERROR".toList
  | critical => "CRITICAL".toList

def number : Level → Nat
  | trace => 5
  | debug => 10
  | info => 20
  | success => 25
  | warning => 30
  | error => 40
  | critical => 50

def ofName? (name : Text) : Option Level := all.find? (·.name = name)

theorem ofName?_name (level : Level) : ofName? level.name = some level := by
  cases level <;> decide

theorem name_of_ofName? {name : Text} {level : Level} (found : ofName? name = some level) :
    level.name = name := by
  simpa using List.find?_some found

end Level

inductive Severity where
  | level (level : Level)
  | numbered (number : Nat)
  deriving DecidableEq, Repr

namespace Severity

def number : Severity → Nat
  | .level known => known.number
  | .numbered number => number

def name : Severity → Text
  | .level known => known.name
  | .numbered number => "Level ".toList ++ Text.ofNat number

def ofForeign (number : Nat) : Severity :=
  match [Level.debug, .info, .warning, .error, .critical].find? (·.number = number) with
  | some known => .level known
  | none => .numbered number

end Severity

end ChatMarkup
