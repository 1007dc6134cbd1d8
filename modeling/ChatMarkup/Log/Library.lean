import ChatMarkup.Log.Record

namespace ChatMarkup

structure Sink (File : Type) where
  file : File
  threshold : Nat
  format : Record → Formatted

/-- A logging library on its file system. A program calls `removeAll`, `add`, `emit` and `emitNamed`;
    the other functions tell what those do. -/
structure LogLibrary where
  State : Type
  File : Type
  [decidableEqFile : DecidableEq File]
  start : State
  removeAll : State → State
  add (path level : Text) (format : Record → Formatted) : State → Except Fault Unit × State
  emit : Record → State → State
  emitNamed (level : Text) (record : Level → Record) : State → Except Fault Unit × State
  sinks : State → List (Sink File)
  opened? : State → Text → Option File
  content? : State → File → Option Text
  stamp : State → Record → Record
  fillTemplate : Fields → Text → Text

namespace LogLibrary

attribute [instance] LogLibrary.decidableEqFile

variable (library : LogLibrary)

/-- A formatter finds the context as the one before left it. -/
def texts (file : library.File) : List (Sink library.File) → Record → List Text
  | [], _ => []
  | sink :: rest, record =>
    if sink.threshold ≤ record.severity.number then
      let formatted := sink.format record
      let later := texts file rest { record with context := formatted.context }
      if sink.file = file then
        library.fillTemplate formatted.context formatted.template :: later
      else later
    else texts file rest record

/-- What a program may rely on. -/
structure Lawful : Prop where
  sinks_start : library.sinks library.start = []
  content_start (file : library.File) : library.content? library.start file = none
  sinks_removeAll (state : library.State) : library.sinks (library.removeAll state) = []
  content_removeAll (state : library.State) (file : library.File) :
    library.content? (library.removeAll state) file = library.content? state file
  add_of_opened {state : library.State} {path : Text} {file : library.File}
    (opens : library.opened? state path = some file) (level : Level) (format : Record → Formatted) :
    let added := library.add path level.name format state
    added.1 = .ok () ∧ library.sinks added.2 = library.sinks state ++ [⟨file, level.number, format⟩] ∧
      ∀ other, library.content? added.2 other =
        if other = file then some ((library.content? state other).getD []) else library.content? state other
  add_unopened {state : library.State} {path : Text} (closed : library.opened? state path = none)
    (level : Text) (format : Record → Formatted) :
    ∃ fault, (library.add path level format state).1 = .error fault
  add_unknown {state : library.State} {path : Text} {file : library.File} {level : Text}
    (opens : library.opened? state path = some file) (unknown : Level.ofName? level = none)
    (format : Record → Formatted) :
    (library.add path level format state).1 = .error (.unknownLevel level)
  add_failed {state : library.State} {path level : Text} {format : Record → Formatted} {fault : Fault}
    (failed : (library.add path level format state).1 = .error fault) :
    let after := (library.add path level format state).2
    library.sinks after = library.sinks state ∧
      ∀ file, library.content? after file = library.content? state file ∨
        library.content? state file = none ∧ library.content? after file = some []
  sinks_emit (state : library.State) (record : Record) :
    library.sinks (library.emit record state) = library.sinks state
  content_emit (state : library.State) (record : Record) (file : library.File) :
    library.content? (library.emit record state) file = (library.content? state file).map
      (· ++ (library.texts file (library.sinks state) (library.stamp state record)).flatten)
  stamp_eq (state : library.State) (record : Record) :
    ∃ time sourceLine, library.stamp state record = { record with time, sourceLine }
  emitNamed_known {name : Text} {level : Level} (known : Level.ofName? name = some level)
    (record : Level → Record) (state : library.State) :
    library.emitNamed name record state = (.ok (), library.emit (record level) state)
  emitNamed_unknown {name : Text} (unknown : Level.ofName? name = none) (record : Level → Record)
    (state : library.State) :
    let after := (library.emitNamed name record state).2
    library.sinks after = library.sinks state ∧
      ∀ file, library.content? after file = library.content? state file
  fillTemplate_extra {context : Fields} {name text : Text} (plain : ∀ c ∈ name, c.isAlpha ∨ c = '_')
    (held : context.lookup name = some (.text text)) :
    library.fillTemplate context ("\x7bextra[".toList ++ name ++ "]\x7d\n".toList) = text ++ ['\n']

end LogLibrary

end ChatMarkup
