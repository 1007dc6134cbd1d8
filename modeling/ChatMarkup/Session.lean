import ChatMarkup.Libraries
import ChatMarkup.Log.Journal
import ChatMarkup.Platform

namespace ChatMarkup

structure Session (libraries : Libraries) where
  environment : Variables := []
  remembered : Option Settings := none
  journal : Journal libraries.logging := {}
  context : Fields := []

namespace Session

/-- A call on the session. Settings given with it come as unchecked fields. -/
inductive Command where
  | setVariable (name value : Text)
  | eraseVariable (name : Text)
  | forgetSettings
  | readSettings
  | dialect (platform : Text) (given : Option Fields)
  | format (platform text : Text) (given : Option Fields)
  | configure (path level : Text) (force : Bool)
  | configureFrom (given : Option Fields) (force : Bool)
  | log (level message : Text) (origin : Origin) (context : Fields) (failure : Option Failure)
  | logForeign (number : Int) (message : Text) (arguments : List Value) (origin : Origin)
      (context : Fields) (failure : Option Failure)
  | convert (dialect text : Text)
  | escape (text : Text) (reserved : List Text) (mark : Text)
  | fill (text : Text) (finals : List (Text × Text)) (mark : Text)

inductive Answer where
  | nothing
  | text (text : Text)
  | settings (settings : Settings)
  | dialect (dialect : Option Dialect)
  deriving DecidableEq, Repr

abbrev Answered (libraries : Libraries) := Except Fault Answer × Session libraries

variable {libraries : Libraries}

def currentSettings (session : Session libraries) (given : Fields) : Except Fault Settings :=
  (Settings.ofSources libraries.settings { given, environment := session.environment }).toExcept

/-- The settings given, else the remembered ones, else those of the environment, then remembered. -/
def settings (session : Session libraries) : Option Settings → Except Fault Settings × Session libraries
  | some given => (.ok given, session)
  | none =>
    match session.remembered with
    | some known => (.ok known, session)
    | none =>
      match session.currentSettings [] with
      | .ok fresh => (.ok fresh, { session with remembered := some fresh })
      | .error fault => (.error fault, session)

def publish (session : Session libraries) (reported : Reported Text) : Answered libraries :=
  (reported.result.map .text, { session with
    journal := session.journal.writeAll (reported.log session.context)
    context := reported.after session.context })

def withGiven (session : Session libraries) (given : Option Fields)
    (call : Option Settings → Answered libraries) : Answered libraries :=
  match given.mapM session.currentSettings with
  | .ok given => call given
  | .error fault => (.error fault, session)

def withSettings (session : Session libraries) (given : Option Settings)
    (call : Settings → Session libraries → Answered libraries) : Answered libraries :=
  match session.settings given with
  | (.ok settings, session) => call settings session
  | (.error fault, session) => (.error fault, session)

def withPlatform (session : Session libraries) (name : Text)
    (call : Platform → Answered libraries) : Answered libraries :=
  match Platform.ofName name with
  | .ok platform => call platform
  | .error fault => (.error fault, session)

def configure (session : Session libraries) (path level : Text) (force : Bool) : Answered libraries :=
  let configured := session.journal.configure path level force
  (configured.1.map fun _ => .nothing, { session with journal := configured.2 })

def log (session : Session libraries) (level : Text) (record : Level → Record) : Answered libraries :=
  let logged := libraries.logging.emitNamed level (fun level => (record level).within session.context)
    session.journal.state
  (logged.1.map fun _ => .nothing,
    { session with journal := { session.journal with state := logged.2 } })

def logForeign (session : Session libraries) (number : Int) (message : Except Fault Text)
    (record : Text → Record) : Answered libraries :=
  let logged := session.journal.writeForeign number <|
    message.map fun text => (record text).within session.context
  (logged.1.map fun _ => .nothing, { session with journal := logged.2 })

def run (session : Session libraries) : Command → Answered libraries
  | .setVariable name value =>
    (.ok .nothing, { session with environment := session.environment.put name value })
  | .eraseVariable name =>
    (.ok .nothing, { session with environment := session.environment.erase name })
  | .forgetSettings => (.ok .nothing, { session with remembered := none })
  | .readSettings =>
    session.withSettings none fun settings session => (.ok (.settings settings), session)
  | .dialect platform given =>
    session.withGiven given fun given =>
      session.withPlatform platform fun platform =>
        match platform.fixedDialect? with
        | some dialect => (.ok (.dialect (some dialect)), session)
        | none =>
          session.withSettings given fun settings session =>
            (.ok (.dialect settings.discordDialect), session)
  | .format platform text given =>
    session.withGiven given fun given =>
      session.withPlatform platform fun platform =>
        session.withSettings given fun settings session =>
          session.publish (platform.format settings text)
  | .configure path level force => session.configure path level force
  | .configureFrom given force =>
    session.withGiven given fun given =>
      session.withSettings given fun settings session =>
        session.configure settings.logFile settings.logLevel.name force
  | .log level message origin context failure =>
    session.log level fun level => { severity := .level level, message, origin, context, failure }
  | .logForeign number message arguments origin context failure =>
    session.logForeign number (libraries.fillMessage message arguments) fun message =>
      { severity := .ofForeign number.toNat, message, origin, context, failure }
  | .convert dialect text => session.publish (convertNamed dialect none text)
  | .escape text reserved mark => session.publish (Placeholder.escapeAround reserved mark text)
  | .fill text finals mark => session.publish (Placeholder.fill text finals mark)

def runAll (session : Session libraries) : List Command → List (Except Fault Answer) × Session libraries
  | [] => ([], session)
  | command :: rest =>
    let first := session.run command
    let others := runAll first.2 rest
    (first.1 :: others.1, others.2)

end Session

end ChatMarkup
