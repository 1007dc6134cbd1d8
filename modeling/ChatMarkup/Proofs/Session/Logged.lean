import ChatMarkup.Proofs.Log.History
import ChatMarkup.Proofs.Log.Lawful
import ChatMarkup.Proofs.Session.Step
import ChatMarkup.Standard

namespace ChatMarkup

namespace Journal

variable {library : LogLibrary}

theorem handle_ok (journal : Journal library) (record : Record) (handlers : List Handler) :
    journal.handle (.ok record) handlers =
      (.ok (), journal.writeAll ((handlers.filter (· = .bridge)).map fun _ => record)) := by
  induction handlers generalizing journal with
  | nil => rfl
  | cons handler rest ih => cases handler <;> exact ih _

theorem handle_error (journal : Journal library) (fault : Fault) (handlers : List Handler) :
    journal.handle (.error fault) handlers =
      (if .bridge ∈ handlers then .error fault else .ok (), journal) := by
  induction handlers with
  | nil => rfl
  | cons handler rest ih =>
    cases handler with
    | bridge => rw [handle, if_pos List.mem_cons_self]
    | other =>
      rw [handle, ih]
      simp

def opening (journal : Journal library) (path level : Text) (force : Bool) : List (Event library) :=
  if journal.Reaches force then
    match Level.ofName? level, journal.files? path level with
    | some level, some (file, errors) => [.opened file errors level]
    | _, _ => []
  else []

/-- If the call goes on, its level is known and its files can be opened. -/
def Fits (journal : Journal library) (path level : Text) (force : Bool) : Prop :=
  journal.Reaches force → (Level.ofName? level).isSome ∧ (journal.files? path level).isSome

variable {journal : Journal library} {past : List (Event library)} {path level : Text} {force : Bool}

section Lawful

variable (laws : library.Lawful)

include laws

theorem configure_of_fits (reaches : journal.Reaches force) (fits : journal.Fits path level force) :
    ∃ file errors known, Level.name known = level ∧ journal.files? path level = some (file, errors) ∧
      (journal.configure path level force).1 = .ok () ∧
      journal.Installed (journal.configure path level force).2 file errors known := by
  obtain ⟨known, opens⟩ := fits reaches
  rcases configure_cases laws reaches path level with
    ⟨file, errors, found, rfl, files, passed, installed⟩ | ⟨closed | unknown, -⟩
  · exact ⟨file, errors, found, rfl, files, passed, installed⟩
  · rw [closed] at opens
    cases opens
  · rw [unknown] at known
    cases known

theorem Projects.configure (kept : Projects journal past) (fits : journal.Fits path level force) :
    Projects (journal.configure path level force).2 (past ++ journal.opening path level force) := by
  by_cases reaches : journal.Reaches force
  · obtain ⟨file, errors, known, rfl, files, -, installed⟩ := configure_of_fits laws reaches fits
    simp only [opening, if_pos reaches, Level.ofName?_name, files]
    exact kept.opened installed
  · rw [configure_of_not_reaches reaches, opening, if_neg reaches, List.append_nil]
    exact kept

end Lawful

end Journal

namespace Session

open Journal

variable {libraries : Libraries}

def settingsOf (session : Session libraries) (given : Option Fields) : Except Fault Settings :=
  match given.mapM session.currentSettings with
  | .ok given => (session.settings given).1
  | .error fault => .error fault

def foreignRecord (session : Session libraries) (number : Int) (message : Text) (origin : Origin)
    (context : Fields) (failure : Option Failure) : Record :=
  Record.within session.context { severity := .ofForeign number.toNat, message, origin, context, failure }

/-- The records that a command makes, those of other loggers once for each bridge. -/
def made (session : Session libraries) : Command → List Record
  | .log level message origin context failure =>
    match Level.ofName? level with
    | some level =>
      [Record.within session.context { severity := .level level, message, origin, context, failure }]
    | none => []
  | .logForeign number message arguments origin context failure =>
    if number < session.journal.rootLevel then []
    else
      match libraries.fillMessage message arguments with
      | .ok filled => (session.journal.handlers.filter (· = .bridge)).map fun _ =>
        session.foreignRecord number filled origin context failure
      | .error _ => []
  | .format platform text given =>
    match Platform.ofName platform with
    | .ok platform =>
      match session.settingsOf given with
      | .ok settings => (platform.format settings text).log session.context
      | .error _ => []
    | .error _ => []
  | .convert dialect text => (convertNamed dialect none text).log session.context
  | .escape text reserved mark => (Placeholder.escapeAround reserved mark text).log session.context
  | .fill text finals mark => (Placeholder.fill text finals mark).log session.context
  | _ => []

/-- The file, the level and the force of the call to configure logging that a command comes to. -/
def asks? (session : Session libraries) : Command → Option (Text × Text × Bool)
  | .configure path level force => some (path, level, force)
  | .configureFrom given force =>
    match session.settingsOf given with
    | .ok settings => some (settings.logFile, settings.logLevel.name, force)
    | .error _ => none
  | _ => none

def events (session : Session libraries) (command : Command) : List (Event libraries.logging) :=
  match session.asks? command with
  | some (path, level, force) => session.journal.opening path level force
  | none => (session.journal.stamped (session.made command)).map .emitted

def history (session : Session libraries) : List Command → List (Event libraries.logging)
  | [] => []
  | command :: rest => session.events command ++ (session.run command).2.history rest

def Fits (session : Session libraries) (command : Command) : Prop :=
  match session.asks? command with
  | some (path, level, force) => session.journal.Fits path level force
  | none => True

variable {session : Session libraries} {past : List (Event libraries.logging)}

theorem withGiven_eq (session : Session libraries) (given : Option Fields)
    (call : Settings → Session libraries → Answered libraries) :
    ∃ cache, (session.withGiven given fun given => session.withSettings given call) =
      match session.settingsOf given with
      | .ok settings => call settings { session with remembered := cache }
      | .error fault => (.error fault, { session with remembered := cache }) := by
  unfold withGiven settingsOf
  cases given.mapM session.currentSettings with
  | error fault => exact ⟨session.remembered, rfl⟩
  | ok given => exact withSettings_eq session given call

theorem run_configureFrom (session : Session libraries) (given : Option Fields) (force : Bool) :
    ∃ cache, session.run (.configureFrom given force) = match session.settingsOf given with
      | .ok settings => ({ session with remembered := cache } : Session libraries).configure
        settings.logFile settings.logLevel.name force
      | .error fault => (.error fault, { session with remembered := cache }) :=
  session.withGiven_eq given fun settings session =>
    session.configure settings.logFile settings.logLevel.name force

theorem journal_run_of_asks {command : Command} {path level : Text} {force : Bool}
    (asks : session.asks? command = some (path, level, force)) :
    (session.run command).2.journal = (session.journal.configure path level force).2 := by
  cases command with
  | configure =>
    cases asks
    rfl
  | configureFrom given forced =>
    simp only [asks?] at asks
    obtain ⟨cache, same⟩ := session.run_configureFrom given forced
    rw [same]
    split at asks
    · cases asks
      rfl
    · cases asks
  | setVariable | eraseVariable | forgetSettings | readSettings | dialect | format | log | logForeign
    | convert | escape | fill => cases asks

theorem made_of_asks {command : Command} {call : Text × Text × Bool}
    (asks : session.asks? command = some call) : session.made command = [] := by
  cases command with
  | configure | configureFrom => rfl
  | setVariable | eraseVariable | forgetSettings | readSettings | dialect | format | log | logForeign
    | convert | escape | fill => cases asks

theorem run_logForeign (session : Session libraries) (number : Int) (message : Text)
    (arguments : List Value) (origin : Origin) (context : Fields) (failure : Option Failure) :
    let command : Command := .logForeign number message arguments origin context failure
    session.run command =
      if number < session.journal.rootLevel then (.ok .nothing, session)
      else match libraries.fillMessage message arguments with
        | .ok _ =>
          (.ok .nothing, { session with journal := session.journal.writeAll (session.made command) })
        | .error fault =>
          (if .bridge ∈ session.journal.handlers then .error fault else .ok .nothing, session) := by
  simp only [run, logForeign, writeForeign, made]
  split
  · rfl
  · cases libraries.fillMessage message arguments with
    | ok filled => simp only [Except.map, handle_ok, foreignRecord]
    | error fault =>
      simp only [Except.map, handle_error]
      by_cases bridged : .bridge ∈ session.journal.handlers <;> simp [bridged]

theorem run_configure_idle (idle : ¬ session.journal.Reaches false) (path level : Text) :
    session.run (.configure path level false) = (.ok .nothing, session) := by
  simp only [run, configure, configure_of_not_reaches idle]
  rfl

section Lawful

variable (laws : libraries.logging.Lawful)

include laws

theorem journal_run_of_not_asks {command : Command} (other : session.asks? command = none) :
    (session.run command).2.journal.Alike (session.journal.writeAll (session.made command)) := by
  cases command with
  | configure => cases other
  | configureFrom given force =>
    simp only [asks?] at other
    obtain ⟨cache, same⟩ := session.run_configureFrom given force
    rw [same]
    split at other
    · cases other
    · exact .refl _
  | setVariable | eraseVariable | forgetSettings | convert | escape | fill => exact .refl _
  | readSettings => exact .of_eq (withSettings_keeps journal (fun _ => rfl) fun _ _ => rfl)
  | dialect name given =>
    refine .of_eq (withGiven_keeps journal fun given => withPlatform_keeps journal fun platform => ?_)
    split
    · rfl
    · exact withSettings_keeps journal (fun _ => rfl) fun _ _ => rfl
  | format name text given =>
    refine .of_eq ?_
    simp only [run, withPlatform, made]
    cases Platform.ofName name with
    | error fault => exact withGiven_keeps journal fun _ => rfl
    | ok platform =>
      obtain ⟨cache, same⟩ := session.withGiven_eq given fun settings session =>
        session.publish (platform.format settings text)
      dsimp only
      rw [same]
      cases session.settingsOf given <;> rfl
  | log level message origin context failure =>
    simp only [run, log, made]
    cases known : Level.ofName? level with
    | none =>
      obtain ⟨sinks, contents⟩ := laws.emitNamed_unknown known
        (fun level => Record.within session.context
          { severity := .level level, message, origin, context, failure }) session.journal.state
      exact ⟨⟨rfl, rfl, rfl, sinks⟩, contents⟩
    | some level =>
      rw [laws.emitNamed_known known]
      exact .refl _
  | logForeign number message arguments origin context failure =>
    refine .of_eq ?_
    simp only [run_logForeign, made]
    by_cases low : number < session.journal.rootLevel
    · simp only [if_pos low]
      rfl
    · simp only [if_neg low]
      cases libraries.fillMessage message arguments <;> rfl

omit laws

end Lawful

end Session

end ChatMarkup
