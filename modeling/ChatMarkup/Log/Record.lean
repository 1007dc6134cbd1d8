import ChatMarkup.Fault
import ChatMarkup.Log.Level
import ChatMarkup.Value.Json

namespace ChatMarkup

structure Failure where
  kind : Text
  text : Text
  deriving DecidableEq, Repr

def Failure.shown (failure : Failure) : Text := failure.kind ++ '(' :: failure.text.quoted ++ [')']

structure Origin where
  component : Text
  function : Text
  deriving DecidableEq, Repr

/-- A log record. Names in its context may repeat, and the first one counts. -/
structure Record where
  severity : Severity
  message : Text
  origin : Origin
  time : Text := []
  sourceLine : Nat := 0
  context : Fields := []
  failure : Option Failure := none
  deriving Repr

structure Formatted where
  context : Fields
  template : Text

namespace Record

def error (component function : String) (message : Text) : Record where
  severity := .level .error
  message
  origin := ⟨component.toList, function.toList⟩

def shownContext (record : Record) (name : Text) : Fields :=
  match record.context.lookup name with
  | none | some .null => []
  | some value => [(name, value)]

def fields (record : Record) : Fields :=
  [("time".toList, .text record.time),
   ("level".toList, .text record.severity.name),
   ("message".toList, .text record.message),
   ("module".toList, .text record.origin.component),
   ("function".toList, .text record.origin.function),
   ("line".toList, .int record.sourceLine)] ++
  record.shownContext "dialect".toList ++
  record.shownContext "platform".toList ++
  match record.failure with
  | none => []
  | some failure => [("exception".toList, .text failure.shown)]

def line (record : Record) : Text := (Value.object record.fields).json

def lineName : Text := "_json".toList

def lineTemplate : Text := "\x7bextra[_json]\x7d\n".toList

/-- The formatter of the log files. It leaves the line in the context for the template to find. -/
def jsonLine (record : Record) : Formatted where
  context := (lineName, .text record.line) :: record.context
  template := lineTemplate

def within (context : Fields) (record : Record) : Record :=
  { record with context := record.context ++ context }

end Record

end ChatMarkup
