import ChatMarkup.Session

namespace ChatMarkup.Session

variable {libraries : Libraries}

theorem runAll_concat (session : Session libraries) (commands : List Command) (command : Command) :
    (session.runAll (commands ++ [command])).2 = ((session.runAll commands).2.run command).2 := by
  induction commands generalizing session with
  | nil => rfl
  | cons first rest ih => exact ih (session.run first).2

def Command.change : Command → Variables → Variables
  | .setVariable name value => (·.put name value)
  | .eraseVariable name => (·.erase name)
  | _ => id

theorem settings_keeps (session : Session libraries) (given : Option Settings) :
    ∃ cache, (session.settings given).2 = { session with remembered := cache } := by
  cases given with
  | some given => exact ⟨_, rfl⟩
  | none =>
    unfold settings
    cases session.remembered with
    | some known => exact ⟨_, rfl⟩
    | none => cases session.currentSettings [] <;> exact ⟨_, rfl⟩

theorem withSettings_eq (session : Session libraries) (given : Option Settings)
    (call : Settings → Session libraries → Answered libraries) :
    ∃ cache, session.withSettings given call =
      match (session.settings given).1 with
      | .ok settings => call settings { session with remembered := cache }
      | .error fault => (.error fault, { session with remembered := cache }) := by
  obtain ⟨cache, same⟩ := settings_keeps session given
  refine ⟨cache, ?_⟩
  rw [← same, withSettings]
  cases session.settings given with
  | mk result next => cases result <;> rfl

section Keeps

variable {α : Type} (view : Session libraries → α) {session : Session libraries}

theorem withGiven_keeps {given : Option Fields}
    {call : Option Settings → Answered libraries}
    (kept : ∀ given, view (call given).2 = view session) :
    view (session.withGiven given call).2 = view session := by
  unfold withGiven
  cases given.mapM session.currentSettings with
  | ok given => exact kept given
  | error fault => rfl

theorem withPlatform_keeps {name : Text} {call : Platform → Answered libraries}
    (kept : ∀ platform, view (call platform).2 = view session) :
    view (session.withPlatform name call).2 = view session := by
  unfold withPlatform
  cases Platform.ofName name with
  | ok platform => exact kept platform
  | error fault => rfl

theorem withSettings_keeps (blind : ∀ cache, view { session with remembered := cache } = view session)
    {given : Option Settings} {call : Settings → Session libraries → Answered libraries}
    (kept : ∀ settings next, view (call settings next).2 = view next) :
    view (session.withSettings given call).2 = view session := by
  obtain ⟨cache, same⟩ := withSettings_eq session given call
  rw [same]
  cases (session.settings given).1 with
  | ok settings => exact (kept settings _).trans (blind cache)
  | error fault => exact blind cache

end Keeps

theorem environment_run (session : Session libraries) (command : Command) :
    (session.run command).2.environment = command.change session.environment := by
  cases command with
  | setVariable | eraseVariable | forgetSettings | configure | log | logForeign | convert | escape | fill =>
    rfl
  | readSettings => exact withSettings_keeps environment (fun _ => rfl) fun _ _ => rfl
  | dialect platform given =>
    refine withGiven_keeps environment fun given => withPlatform_keeps environment fun platform => ?_
    split
    · rfl
    · exact withSettings_keeps environment (fun _ => rfl) fun _ _ => rfl
  | format platform text given =>
    exact withGiven_keeps environment fun given => withPlatform_keeps environment fun platform =>
      withSettings_keeps environment (fun _ => rfl) fun _ _ => rfl
  | configureFrom given force =>
    exact withGiven_keeps environment fun given =>
      withSettings_keeps environment (fun _ => rfl) fun _ _ => rfl

def environmentAfter (start : Variables) (commands : List Command) : Variables :=
  commands.foldl (fun environment command => command.change environment) start

theorem environment_runAll (session : Session libraries) (commands : List Command) :
    (session.runAll commands).2.environment = environmentAfter session.environment commands := by
  induction commands generalizing session with
  | nil => rfl
  | cons command rest ih =>
    rw [runAll, ih, environment_run, environmentAfter, environmentAfter, List.foldl_cons]

end ChatMarkup.Session
