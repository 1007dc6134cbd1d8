import ChatMarkup.Log.Library
import ChatMarkup.Value.Shown

namespace ChatMarkup

abbrev FilePath := List Text

namespace FilePath

def resolve (directory : FilePath) (path : Text) : FilePath :=
  let start := if path.head? = some '/' then [] else directory
  (Text.pieces (· = '/') path).foldl (fun found part =>
    if part = [] ∨ part = ['.'] then found
    else if part = ['.', '.'] then found.dropLast
    else found ++ [part]) start

end FilePath

namespace Record

def templateEntry (context : Fields) (name : Text) : Text :=
  match Text.after? "extra[".toList name with
  | some rest => ((context.lookup rest.dropLast).map Value.shown).getD []
  | none => []

/-- Fills a template. The name in the open brace is collected up to the closing one. -/
def fillTemplate (context : Fields) : Option Text → Text → Text
  | none, '\x7b' :: rest => fillTemplate context (some []) rest
  | none, c :: rest => c :: fillTemplate context none rest
  | some name, '\x7d' :: rest => templateEntry context name ++ fillTemplate context none rest
  | some name, c :: rest => fillTemplate context (some (name ++ [c])) rest
  | _, [] => []

end Record

structure MemoryLog where
  sinks : List (Sink FilePath) := []
  files : List (FilePath × Text) := []

namespace MemoryLog

def touch (path : FilePath) (files : List (FilePath × Text)) : List (FilePath × Text) :=
  if (files.lookup path).isSome then files else files ++ [(path, [])]

def extend (path : FilePath) (text : Text) (files : List (FilePath × Text)) :
    List (FilePath × Text) :=
  files.map fun (known, old) => (known, if known = path then old ++ text else old)

/-- The file of a path, unless a directory or a file on the way is where it would be. Braces in a path
    call for values that there are none of. -/
def opened? (directory : FilePath) (log : MemoryLog) (path : Text) : Option FilePath :=
  let file := FilePath.resolve directory path
  let taken := file <+: directory ∨ log.files.any fun (known, _) =>
    known ≠ file ∧ (file <+: known ∨ known <+: file)
  if taken ∨ path.any (fun c => c = '\x7b' ∨ c = '\x7d') then none else some file

def add (directory : FilePath) (path level : Text) (format : Record → Formatted) (log : MemoryLog) :
    Except Fault Unit × MemoryLog :=
  match log.opened? directory path with
  | none => (.error (.unopened path), log)
  | some file =>
    let files := touch file log.files
    match Level.ofName? level with
    | none => (.error (.unknownLevel level), { log with files })
    | some level => (.ok (), { sinks := log.sinks ++ [⟨file, level.number, format⟩], files })

def write (record : Record) : List (Sink FilePath) → List (FilePath × Text) → List (FilePath × Text)
  | [], files => files
  | sink :: rest, files =>
    if sink.threshold ≤ record.severity.number then
      let formatted := sink.format record
      let text := Record.fillTemplate formatted.context none formatted.template
      write { record with context := formatted.context } rest (extend sink.file text files)
    else write record rest files

def stamp (time : Text) (sourceLine : Nat) (record : Record) : Record := { record with time, sourceLine }

end MemoryLog

abbrev LogLibrary.memory (directory : FilePath) (time : Text) (sourceLine : Nat) : LogLibrary where
  State := MemoryLog
  File := FilePath
  start := {}
  removeAll log := { log with sinks := [] }
  add := MemoryLog.add directory
  emit record log := { log with
    files := MemoryLog.write (MemoryLog.stamp time sourceLine record) log.sinks log.files }
  emitNamed level record log :=
    match Level.ofName? level with
    | some level => (.ok (), { log with
        files := MemoryLog.write (MemoryLog.stamp time sourceLine (record level)) log.sinks log.files })
    | none => (if log.sinks.isEmpty then .ok () else .error (.unknownLevel level), log)
  sinks := MemoryLog.sinks
  opened? := MemoryLog.opened? directory
  content? log file := log.files.lookup file
  stamp _ := MemoryLog.stamp time sourceLine
  fillTemplate context := Record.fillTemplate context none

end ChatMarkup
