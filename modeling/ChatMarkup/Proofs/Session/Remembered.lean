import ChatMarkup.Proofs.Session.Reads
import ChatMarkup.Proofs.Session.Step
import ChatMarkup.Standard
import Mathlib.Data.List.Induction

namespace ChatMarkup

namespace Session

variable (libraries : Libraries)

def settingsIn (environment : Variables) : Except Fault Settings :=
  ({ environment } : Session libraries).currentSettings []

/-- No reading command since the last forgetting found valid settings in the environment. -/
def Unread (start : Variables) (commands : List Command) : Prop :=
  ∀ before command after, commands = before ++ command :: after → .forgetSettings ∉ after →
    command.Reads → ∃ fault, settingsIn libraries (environmentAfter start before) = .error fault

def FirstRead (start : Variables) (commands : List Command) (settings : Settings) : Prop :=
  ∃ before command after, commands = before ++ command :: after ∧ .forgetSettings ∉ after ∧
    command.Reads ∧ settingsIn libraries (environmentAfter start before) = .ok settings ∧ Unread libraries start before

variable {libraries} {start : Variables} {commands : List Command}

theorem Unread.concat (unread : Unread libraries start commands) {command : Command}
    (last : command.Reads → ∃ fault, settingsIn libraries (environmentAfter start commands) = .error fault) :
    Unread libraries start (commands ++ [command]) := by
  intro before other after whole kept reads
  rcases List.eq_nil_or_concat after with rfl | ⟨after, final, rfl⟩
  · obtain ⟨rfl, same⟩ := List.append_inj' whole rfl
    cases same
    exact last reads
  · rw [List.concat_eq_append, ← List.cons_append, ← List.append_assoc] at whole
    obtain ⟨rfl, _⟩ := List.append_inj' whole rfl
    exact unread before other after rfl (fun inside => kept (by simp [inside])) reads

theorem unread_forget : Unread libraries start (commands ++ [.forgetSettings]) := by
  intro before other after whole kept reads
  rcases List.eq_nil_or_concat after with rfl | ⟨after, final, rfl⟩
  · obtain ⟨_, same⟩ := List.append_inj' whole rfl
    cases same
    exact reads.elim
  · rw [List.concat_eq_append, ← List.cons_append, ← List.append_assoc] at whole
    obtain ⟨_, same⟩ := List.append_inj' whole rfl
    cases same
    exact absurd (by simp) kept

theorem FirstRead.concat {settings : Settings} (first : FirstRead libraries start commands settings)
    {command : Command} (kept : command ≠ .forgetSettings) :
    FirstRead libraries start (commands ++ [command]) settings := by
  obtain ⟨before, reader, after, rfl, free, reads, found, unread⟩ := first
  refine ⟨before, reader, after ++ [command], by simp, ?_, reads, found, unread⟩
  simp [free, kept.symm]

theorem FirstRead.not_unread {settings : Settings} (first : FirstRead libraries start commands settings) :
    ¬ Unread libraries start commands := by
  obtain ⟨before, reader, after, whole, free, reads, found, _⟩ := first
  intro unread
  obtain ⟨fault, failed⟩ := unread before reader after whole free reads
  cases found.symm.trans failed

theorem eq_of_unread {before more after later : List Command} {reader command : Command}
    {one other : Settings} (same : reader :: after = more ++ command :: later)
    (free : .forgetSettings ∉ after) (reads : reader.Reads)
    (found : settingsIn libraries (environmentAfter start before) = .ok one)
    (settled : settingsIn libraries (environmentAfter start (before ++ more)) = .ok other)
    (unread : Unread libraries start (before ++ more)) : one = other := by
  cases more with
  | nil =>
    rw [List.append_nil] at settled
    exact Except.ok.inj (found.symm.trans settled)
  | cons d more =>
    cases same
    have between : .forgetSettings ∉ more := fun inside => free (by simp [inside])
    -- the earlier read would be one that failed, being made before the later one
    obtain ⟨fault, failed⟩ := unread before reader more rfl between reads
    cases found.symm.trans failed

theorem FirstRead.unique {one other : Settings} (first : FirstRead libraries start commands one)
    (second : FirstRead libraries start commands other) : one = other := by
  obtain ⟨before, reader, after, rfl, free, reads, found, unread⟩ := first
  obtain ⟨earlier, command, later, whole, kept, asks, settled, unasked⟩ := second
  rcases List.append_eq_append_iff.mp whole with ⟨more, rfl, same⟩ | ⟨more, rfl, same⟩
  · exact eq_of_unread same free reads found settled unasked
  · exact (eq_of_unread same kept asks settled found unread).symm

theorem currentSettings_runAll (libraries : Libraries) (start : Variables) (commands : List Command) :
    (({ environment := start } : Session libraries).runAll commands).2.currentSettings [] =
      settingsIn libraries (environmentAfter start commands) := by
  rw [currentSettings, environment_runAll]
  rfl

theorem remembered_history (libraries : Libraries) (start : Variables) (commands : List Command) :
    match (({ environment := start } : Session libraries).runAll commands).2.remembered with
    | none => Unread libraries start commands
    | some settings => FirstRead libraries start commands settings := by
  induction commands using List.reverseRecOn with
  | nil => exact fun before command after whole => by simp at whole
  | append_singleton commands command ih =>
    have current := currentSettings_runAll libraries start commands
    rw [runAll_concat]
    by_cases forgotten : command = .forgetSettings
    · subst forgotten
      exact unread_forget
    cases held : (({ environment := start } : Session libraries).runAll commands).2.remembered with
    | some known =>
      rw [held] at ih
      rw [remembered_run_of_known forgotten held]
      exact ih.concat forgotten
    | none =>
      rw [held] at ih
      by_cases reads : command.Reads
      · cases found : settingsIn libraries (environmentAfter start commands) with
        | error fault =>
          rw [run_of_fault reads held (current.trans found), held]
          exact ih.concat fun _ => ⟨fault, found⟩
        | ok settings =>
          rw [remembered_run_of_fresh reads held (current.trans found)]
          exact ⟨commands, command, [], rfl, by simp, reads, found, ih⟩
      · rw [remembered_run_of_silent reads forgotten, held]
        exact ih.concat fun asks => absurd asks reads

theorem remembered_eq_some_iff {settings : Settings} :
    (({ environment := start } : Session libraries).runAll commands).2.remembered = some settings ↔
      FirstRead libraries start commands settings := by
  have history := remembered_history libraries start commands
  cases held : (({ environment := start } : Session libraries).runAll commands).2.remembered with
  | none =>
    rw [held] at history
    exact ⟨(nomatch ·), fun first => absurd history first.not_unread⟩
  | some known =>
    rw [held] at history
    exact ⟨fun same => Option.some.inj same ▸ history, fun first => congrArg some (history.unique first)⟩

theorem remembered_eq_none_iff :
    (({ environment := start } : Session libraries).runAll commands).2.remembered = none ↔ Unread libraries start commands := by
  have history := remembered_history libraries start commands
  cases held : (({ environment := start } : Session libraries).runAll commands).2.remembered with
  | none =>
    rw [held] at history
    exact ⟨fun _ => history, fun _ => rfl⟩
  | some known =>
    rw [held] at history
    exact ⟨(nomatch ·), fun unread => absurd unread history.not_unread⟩

theorem currentSettings_invalid {session : Session libraries} {given : Fields} {fault : Fault}
    (failed : session.currentSettings given = .error fault) : ∃ errors, fault = .invalid errors := by
  unfold currentSettings at failed
  cases read : Settings.ofSources libraries.settings { given, environment := session.environment } with
  | valid settings =>
    rw [read] at failed
    cases failed
  | invalid errors =>
    rw [read] at failed
    cases failed
    exact ⟨errors, rfl⟩

/-- Settings stay from the first reading command that finds valid ones until they are forgotten. -/
theorem remembered_runAll (libraries : Libraries) (start : Variables) (commands : List Command) :
    let session := (({ environment := start } : Session libraries).runAll commands).2
    (session.remembered = none ↔ Unread libraries start commands) ∧
    (∀ settings, session.remembered = some settings ↔ FirstRead libraries start commands settings) ∧
    (∀ command, command.Reads → session.remembered = none →
      (∀ fault, session.currentSettings [] = .error fault →
        session.run command = (.error fault, session)) ∧
      ∀ fresh, session.currentSettings [] = .ok fresh →
        (session.run command).2.remembered = some fresh) ∧
    (∀ command cache, ¬ command.Reads → command ≠ .forgetSettings →
      ({ session with remembered := cache } : Session libraries).run command =
        ((session.run command).1, { (session.run command).2 with remembered := cache })) ∧
    (∀ known later command, session.remembered = some known → .forgetSettings ∉ later →
      command.OnSettings → command.given? = none →
      ((session.runAll later).2.run command).1 = command.answered known) ∧
    ∀ fault, session.remembered = none → session.currentSettings [] = .error fault →
      (∃ errors, fault = .invalid errors) ∧
      (∀ (platform : Platform) text,
        (session.run (.format platform.name text none)).1 = .error fault) ∧
      ∀ platform : Platform,
        (∃ other, (session.run (.dialect platform.name none)).1 = .error other) ↔ platform = .discord := by
  intro session
  refine ⟨remembered_eq_none_iff, fun _ => remembered_eq_some_iff, ?_, ?_, ?_, ?_⟩
  · intro command reads empty
    exact ⟨fun _ => run_of_fault reads empty, fun _ => remembered_run_of_fresh reads empty⟩
  · exact fun command cache silent kept => run_blind silent kept session cache
  · intro known later command held kept onSettings own
    exact run_of_known onSettings own (remembered_runAll_of_known kept held)
  · intro fault empty failed
    refine ⟨currentSettings_invalid failed, fun platform text => ?_, fun platform => ?_⟩
    · have reads : Command.Reads (.format platform.name text none) := ⟨platform, rfl⟩
      rw [run_of_fault reads empty failed]
    · cases platform with
      | slack | telegram =>
        constructor
        · rintro ⟨_, answered⟩
          cases answered
        · intro same
          cases same
      | discord =>
        have reads : Command.Reads (.dialect Platform.discord.name none) := rfl
        exact ⟨fun _ => rfl, fun _ => ⟨fault, by rw [run_of_fault reads empty failed]⟩⟩

theorem remembered_runAll_retried :
    let libraries : Libraries := .standard [] [] 0
    let refused : List Command := [.setVariable "LOG_LEVEL".toList "LOUD".toList]
    let mended := refused ++ [.readSettings, .setVariable "LOG_LEVEL".toList "info".toList]
    let change : List Command := [.setVariable "LOG_LEVEL".toList "error".toList]
    let forgotten := mended ++ .readSettings :: change ++ [.forgetSettings]
    let after := fun commands => (({} : Session libraries).runAll commands).2
    (∃ fault, (after refused).run .readSettings = (.error fault, after refused)) ∧
    ((after mended).run .readSettings).2.remembered = some { logLevel := .info } ∧
    (((after (mended ++ [.readSettings])).runAll change).2.run .readSettings).1 =
      .ok (.settings { logLevel := .info }) ∧
    ((after forgotten).run .readSettings).2.remembered = some { logLevel := .error } := by
  intro libraries refused mended change forgotten after
  have reads (commands : List Command) (empty : (after commands).remembered = none) :
      (∀ fault, (after commands).currentSettings [] = .error fault →
        (after commands).run .readSettings = (.error fault, after commands)) ∧
      ∀ fresh, (after commands).currentSettings [] = .ok fresh →
        ((after commands).run .readSettings).2.remembered = some fresh :=
    (remembered_runAll libraries [] commands).2.2.1 .readSettings trivial empty
  have lasts (commands : List Command) (known : Settings) (held : (after commands).remembered = some known) :
      (((after commands).runAll change).2.run .readSettings).1 = .ok (.settings known) :=
    (remembered_runAll libraries [] commands).2.2.2.2.1 known change .readSettings held (by simp [change])
      trivial rfl
  have unknown : (after refused).currentSettings [] = .error (.invalid [{
      field := "log_level".toList, mismatch := .notOneOf (Level.all.map Level.name) }]) := by
    decide +kernel
  have info : (after mended).currentSettings [] = .ok { logLevel := .info } := by decide +kernel
  have error : (after forgotten).currentSettings [] = .ok { logLevel := .error } := by decide +kernel
  refine ⟨⟨_, (reads refused (by decide +kernel)).1 _ unknown⟩, (reads mended (by decide +kernel)).2 _ info,
    lasts _ _ (by decide +kernel), (reads forgotten (by decide +kernel)).2 _ error⟩

end Session

end ChatMarkup
