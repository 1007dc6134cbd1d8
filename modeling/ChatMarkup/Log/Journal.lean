import ChatMarkup.Log.Library

namespace ChatMarkup

namespace LogPath

/-- The part of a path in front of its last slash, without slashes at its end. -/
def directory (path : Text) : Text :=
  let front := (path.reverse.dropWhile (· ≠ '/')).reverse
  if front.all (· = '/') then front else (front.reverse.dropWhile (· = '/')).reverse

def errorFile (path : Text) : Text :=
  let parent := directory path
  if parent = [] ∨ parent.getLast? = some '/' then parent ++ "error.log".toList
  else parent ++ "/error.log".toList

end LogPath

/-- A handler at the root of the other loggers. Only the bridge leads to the log files. -/
inductive Handler where
  | bridge
  | other
  deriving DecidableEq, Repr

/-- The root of the other loggers starts without a handler and lets warnings pass. -/
structure Journal (library : LogLibrary) where
  configured : Bool := false
  handlers : List Handler := []
  rootLevel : Int := Level.warning.number
  state : library.State := library.start

namespace Journal

variable {library : LogLibrary}

def write (journal : Journal library) (record : Record) : Journal library :=
  { journal with state := library.emit record journal.state }

def writeAll (journal : Journal library) (records : List Record) : Journal library :=
  records.foldl write journal

/-- Nothing happens once logging was configured, unless it is forced. -/
def configure (journal : Journal library) (path level : Text) (force : Bool) :
    Except Fault Unit × Journal library :=
  if journal.configured ∧ !force then (.ok (), journal)
  else
    let cleared := library.removeAll journal.state
    match library.add path level Record.jsonLine cleared with
    | (.error fault, state) => (.error fault, { journal with configured := true, state })
    | (.ok (), state) =>
      match library.add (LogPath.errorFile path) Level.error.name Record.jsonLine state with
      | (.error fault, state) => (.error fault, { journal with configured := true, state })
      | (.ok (), state) =>
        (.ok (), {
          configured := true
          handlers := [.bridge]
          rootLevel := Level.debug.number
          state })

/-- Each bridge fills in the message itself, and what fails there ends the round. -/
def handle (journal : Journal library) (record : Except Fault Record) :
    List Handler → Except Fault Unit × Journal library
  | [] => (.ok (), journal)
  | .other :: rest => handle journal record rest
  | .bridge :: rest =>
    match record with
    | .ok filled => handle (journal.write filled) record rest
    | .error fault => (.error fault, journal)

def writeForeign (journal : Journal library) (number : Int) (record : Except Fault Record) :
    Except Fault Unit × Journal library :=
  if number < journal.rootLevel then (.ok (), journal)
  else journal.handle record journal.handlers

end Journal

end ChatMarkup
