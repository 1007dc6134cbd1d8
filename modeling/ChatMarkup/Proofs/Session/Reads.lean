import ChatMarkup.Session

namespace ChatMarkup

theorem Platform.name_of_ofName {name : Text} {platform : Platform}
    (found : Platform.ofName name = .ok platform) : platform.name = name := by
  unfold ofName at found
  split at found
  · rename_i known first
    cases found
    simpa using List.find?_some first
  · cases found

namespace Session

variable {libraries : Libraries}

/-- The commands that ask for the remembered settings. -/
def Command.Reads : Command → Prop
  | .readSettings | .configureFrom none _ => True
  | .dialect platform none => platform = Platform.discord.name
  | .format platform _ none => ∃ known : Platform, known.name = platform
  | _ => False

def Command.given? : Command → Option Fields
  | .dialect _ given | .format _ _ given | .configureFrom given _ => given
  | _ => none

def Command.OnSettings : Command → Prop
  | .setVariable _ _ | .eraseVariable _ | .forgetSettings | .readSettings | .dialect _ _
  | .format _ _ _ => True
  | _ => False

theorem settings_of_remembered {session : Session libraries} {known : Settings}
    (held : session.remembered = some known) : session.settings none = (.ok known, session) := by
  simp only [settings, held]

theorem settings_of_fresh {session : Session libraries} {fresh : Settings} (empty : session.remembered = none)
    (made : session.currentSettings [] = .ok fresh) :
    session.settings none = (.ok fresh, { session with remembered := some fresh }) := by
  simp only [settings, empty, made]

theorem settings_of_fault {session : Session libraries} {fault : Fault} (empty : session.remembered = none)
    (failed : session.currentSettings [] = .error fault) :
    session.settings none = (.error fault, session) := by
  simp only [settings, empty, failed]

theorem run_of_reads {command : Command} (reads : command.Reads) :
    ∃ call : Settings → Session libraries → Answered libraries,
      (∀ settings session, (call settings session).2.remembered = session.remembered) ∧
      ∀ session : Session libraries, session.run command = session.withSettings none call := by
  cases command with
  | readSettings => exact ⟨_, fun _ _ => rfl, fun _ => rfl⟩
  | dialect platform given =>
    cases given with
    | some given => exact reads.elim
    | none =>
      cases reads
      exact ⟨_, fun _ _ => rfl, fun _ => rfl⟩
  | format platform text given =>
    cases given with
    | some given => exact reads.elim
    | none =>
      obtain ⟨known, rfl⟩ := reads
      refine ⟨fun settings session => session.publish (known.format settings text), fun _ _ => rfl, ?_⟩
      intro session
      cases known <;> rfl
  | configureFrom given force =>
    cases given with
    | some given => exact reads.elim
    | none => exact ⟨_, fun _ _ => rfl, fun _ => rfl⟩
  | setVariable | eraseVariable | forgetSettings | configure | log | logForeign | convert | escape | fill =>
    exact reads.elim

def Blind (call : Session libraries → Answered libraries) : Prop :=
  ∀ session cache, call { session with remembered := cache } =
    ((call session).1, { (call session).2 with remembered := cache })

theorem run_blind {command : Command} (silent : ¬ command.Reads) (kept : command ≠ .forgetSettings) :
    Blind fun session : Session libraries => session.run command := by
  intro session cache
  have same : currentSettings { session with remembered := cache } = session.currentSettings := rfl
  dsimp only
  cases command with
  | setVariable | eraseVariable | configure | log | logForeign | convert | escape | fill => rfl
  | forgetSettings => exact absurd rfl kept
  | readSettings => exact absurd trivial silent
  | dialect platform given =>
    cases given with
    | none =>
      simp only [run, withGiven, withPlatform]
      cases found : Platform.ofName platform with
      | error fault => rfl
      | ok known =>
        cases known with
        | slack | telegram => rfl
        | discord => exact absurd (Platform.name_of_ofName found).symm silent
    | some given =>
      simp only [run, withGiven, withPlatform, same, Option.mapM_some]
      cases session.currentSettings given with
      | error fault => rfl
      | ok given =>
        cases Platform.ofName platform with
        | error fault => rfl
        | ok known => cases known <;> rfl
  | format platform text given =>
    cases given with
    | none =>
      simp only [run, withGiven, withPlatform]
      cases found : Platform.ofName platform with
      | error fault => rfl
      | ok known => exact absurd ⟨known, Platform.name_of_ofName found⟩ silent
    | some given =>
      simp only [run, withGiven, withPlatform, same, Option.mapM_some]
      cases session.currentSettings given with
      | error fault => rfl
      | ok given => cases Platform.ofName platform <;> rfl
  | configureFrom given force =>
    cases given with
    | none => exact absurd trivial silent
    | some given =>
      simp only [run, withGiven, same, Option.mapM_some]
      cases session.currentSettings given <;> rfl

theorem run_of_fault {command : Command} (reads : command.Reads) {session : Session libraries}
    (empty : session.remembered = none) {fault : Fault}
    (failed : session.currentSettings [] = .error fault) : session.run command = (.error fault, session) := by
  obtain ⟨call, _, asks⟩ := run_of_reads reads
  rw [asks, withSettings, settings_of_fault empty failed]

theorem remembered_run_of_fresh {command : Command} (reads : command.Reads) {session : Session libraries}
    (empty : session.remembered = none) {fresh : Settings}
    (made : session.currentSettings [] = .ok fresh) : (session.run command).2.remembered = some fresh := by
  obtain ⟨call, kept, asks⟩ := run_of_reads reads
  rw [asks, withSettings, settings_of_fresh empty made]
  exact kept fresh _

theorem remembered_run_of_silent {command : Command} (silent : ¬ command.Reads)
    (kept : command ≠ .forgetSettings) (session : Session libraries) :
    (session.run command).2.remembered = session.remembered :=
  congrArg (·.2.remembered) (run_blind silent kept session session.remembered)

theorem remembered_run_of_known {command : Command} (kept : command ≠ .forgetSettings)
    {session : Session libraries} {known : Settings} (held : session.remembered = some known) :
    (session.run command).2.remembered = some known := by
  by_cases reads : command.Reads
  · obtain ⟨call, same, asks⟩ := run_of_reads reads
    rw [asks, withSettings, settings_of_remembered held]
    exact (same known session).trans held
  · exact (remembered_run_of_silent reads kept session).trans held

theorem remembered_runAll_of_known {commands : List Command} (kept : .forgetSettings ∉ commands)
    {session : Session libraries} {known : Settings} (held : session.remembered = some known) :
    (session.runAll commands).2.remembered = some known := by
  induction commands generalizing session with
  | nil => exact held
  | cons command rest ih =>
    rw [List.mem_cons, not_or] at kept
    exact ih kept.2 (remembered_run_of_known (Ne.symm kept.1) held)

def Command.answered (known : Settings) : Command → Except Fault Answer
  | .readSettings => .ok (.settings known)
  | .dialect platform _ =>
    (Platform.ofName platform).map fun platform => .dialect (platform.dialect? known)
  | .format platform text _ =>
    (Platform.ofName platform).bind fun platform => (platform.format known text).result.map .text
  | _ => .ok .nothing

theorem run_of_known {command : Command} (onSettings : command.OnSettings) (own : command.given? = none)
    {session : Session libraries} {known : Settings} (held : session.remembered = some known) :
    (session.run command).1 = command.answered known := by
  have found := settings_of_remembered held
  cases command with
  | setVariable | eraseVariable | forgetSettings => rfl
  | readSettings => simp only [run, withSettings, found, Command.answered]
  | dialect platform given =>
    cases own
    simp only [run, withGiven, withPlatform, Command.answered]
    cases Platform.ofName platform with
    | error fault => rfl
    | ok platform =>
      cases platform with
      | slack | telegram => rfl
      | discord =>
        change (session.withSettings none _).1 = _
        rw [withSettings, found]
        rfl
  | format platform text given =>
    cases own
    simp only [run, withGiven, withPlatform, Command.answered]
    cases Platform.ofName platform with
    | error fault => rfl
    | ok platform =>
      change (session.withSettings none _).1 = _
      rw [withSettings, found]
      rfl
  | configure | configureFrom | log | logForeign | convert | escape | fill => exact onSettings.elim

end Session

end ChatMarkup
