import ChatMarkup.Proofs.Session.Written
import Mathlib.Data.List.Induction

namespace ChatMarkup

namespace Journal

variable {library : LogLibrary}

/-- Logging counts as configured, but not both sinks are there. -/
structure Stranded (journal : Journal library) : Prop where
  configured : journal.configured = true
  few : journal.sinks.length ≤ 1

variable {journal after : Journal library}

theorem length_sinksLeft (journal : Journal library) (path level : Text) :
    (journal.sinksLeft path level).length ≤ 1 := by
  unfold sinksLeft
  split <;> simp

theorem Failed.stranded {path level : Text} (failed : journal.Failed after path level) : after.Stranded where
  configured := failed.configured
  few := failed.sinks ▸ journal.length_sinksLeft path level

theorem Installed.not_stranded {file errors : library.File} {level : Level}
    (installed : journal.Installed after file errors level) : ¬ after.Stranded := by
  intro stranded
  have few := stranded.few
  rw [installed.sinks] at few
  exact Nat.not_succ_le_self 1 few

theorem SetAlike.stranded_iff (same : after.SetAlike journal) : after.Stranded ↔ journal.Stranded := by
  constructor
  · rintro ⟨configured, few⟩
    exact ⟨same.configured.symm.trans configured, same.sinks ▸ few⟩
  · rintro ⟨configured, few⟩
    exact ⟨same.configured.trans configured, same.sinks ▸ few⟩

theorem not_reaches_of_configured (configured : journal.configured = true) : ¬ journal.Reaches false := by
  simp [Reaches, configured]

theorem content?_writeAll_of_no_sinks (laws : library.Lawful) (empty : journal.sinks = [])
    (records : List Record) (file : library.File) :
    (journal.writeAll records).content? file = journal.content? file := by
  induction records generalizing journal with
  | nil => rfl
  | cons record rest ih =>
    have sound : journal.Sound := by
      intro sink inside
      rw [empty] at inside
      cases inside
    have later := ih ((sinks_write laws journal record).trans empty)
    rw [content?_write laws sound, empty] at later
    refine later.trans ?_
    cases journal.content? file with
    | none => rfl
    | some text => exact congrArg some (List.append_nil text)

end Journal

namespace Session

open Journal

variable {libraries : Libraries}

/-- The command comes to a call to configure logging that goes on but fails. -/
def Refuses (session : Session libraries) (command : Command) : Prop :=
  ∃ path level force, session.asks? command = some (path, level, force) ∧ session.journal.Reaches force ∧
    (session.journal.files? path level = none ∨ Level.ofName? level = none)

def Installs (session : Session libraries) (command : Command) : Prop :=
  ∃ path level force, session.asks? command = some (path, level, force) ∧ session.journal.Reaches force ∧
    (session.journal.files? path level).isSome ∧ (Level.ofName? level).isSome

/-- Some call to configure logging failed, and none went through since. -/
def LastRefused (start : Session libraries) (commands : List Command) : Prop :=
  ∃ before command after, commands = before ++ command :: after ∧
    (start.runAll before).2.Refuses command ∧
    ∀ middle later rest, after = middle ++ later :: rest →
      ¬ (start.runAll (before ++ command :: middle)).2.Installs later

def Command.Forced : Command → Prop
  | .configure _ _ force | .configureFrom _ force => force = true
  | _ => False

variable {session start : Session libraries} {command : Command} {commands : List Command}

theorem force_of_unforced {path level : Text} {force : Bool} (unforced : ¬ command.Forced)
    (asks : session.asks? command = some (path, level, force)) : force = false := by
  cases command with
  | configure =>
    cases asks
    exact Bool.not_eq_true _ ▸ unforced
  | configureFrom =>
    simp only [asks?] at asks
    split at asks
    · cases asks
      exact Bool.not_eq_true _ ▸ unforced
    · cases asks
  | setVariable | eraseVariable | forgetSettings | readSettings | dialect | format | log | logForeign
    | convert | escape | fill => cases asks

theorem lastRefused_concat_iff : LastRefused start (commands ++ [command]) ↔
    (start.runAll commands).2.Refuses command ∨
      LastRefused start commands ∧ ¬ (start.runAll commands).2.Installs command := by
  constructor
  -- the last command is either the failed call itself or one of those behind it
  · rintro ⟨before, refusing, after, whole, refused, none_since⟩
    rcases List.eq_nil_or_concat after with rfl | ⟨after, last, rfl⟩
    · obtain ⟨rfl, same⟩ := List.append_inj' whole rfl
      cases same
      exact .inl refused
    · rw [List.concat_eq_append, ← List.cons_append, ← List.append_assoc] at whole
      obtain ⟨rfl, same⟩ := List.append_inj' whole rfl
      cases same
      refine .inr ⟨⟨before, refusing, after, rfl, refused, ?_⟩, none_since after command [] (by simp)⟩
      rintro middle later rest rfl
      exact none_since middle later (rest ++ [command]) (by simp)
  · rintro (refused | ⟨⟨before, refusing, after, rfl, refused, none_since⟩, quiet⟩)
    · exact ⟨commands, command, [], rfl, refused, by simp⟩
    · refine ⟨before, refusing, after ++ [command], by simp, refused, ?_⟩
      intro middle later rest whole
      rcases List.eq_nil_or_concat rest with rfl | ⟨rest, last, rfl⟩
      · obtain ⟨rfl, same⟩ := List.append_inj' whole rfl
        cases same
        exact quiet
      · rw [List.concat_eq_append, ← List.cons_append, ← List.append_assoc] at whole
        obtain ⟨rfl, _⟩ := List.append_inj' whole rfl
        exact none_since middle later rest rfl

theorem run_configure_fst_eq_error_iff {path level : Text} {force : Bool} {fault : Fault} :
    (session.run (.configure path level force)).1 = .error fault ↔
      (session.journal.configure path level force).1 = .error fault := by
  change (session.journal.configure path level force).1.map (fun _ => Answer.nothing) = _ ↔ _
  cases (session.journal.configure path level force).1 <;> simp [Except.map]

section Lawful

variable (laws : libraries.logging.Lawful)

include laws

theorem Refuses.stranded (refused : session.Refuses command) :
    (session.run command).2.journal.Stranded := by
  obtain ⟨path, level, force, asks, reaches, why⟩ := refused
  rw [journal_run_of_asks asks]
  rcases configure_cases laws reaches path level with
    ⟨file, errors, known, rfl, files, -⟩ | ⟨-, fault, -, failed⟩
  · rw [files, Level.ofName?_name] at why
    rcases why with why | why <;> cases why
  · exact failed.stranded

theorem Installs.not_stranded (installs : session.Installs command) :
    ¬ (session.run command).2.journal.Stranded := by
  obtain ⟨path, level, force, asks, reaches, files, known⟩ := installs
  rw [journal_run_of_asks asks]
  rcases configure_cases laws reaches path level with
    ⟨file, errors, known, -, -, -, installed⟩ | ⟨closed | unknown, -⟩
  · exact installed.not_stranded
  · rw [closed] at files
    cases files
  · rw [unknown] at known
    cases known

theorem setAlike_run (kept : ¬ session.Refuses command) (quiet : ¬ session.Installs command) :
    (session.run command).2.journal.SetAlike session.journal := by
  cases asks : session.asks? command with
  | none =>
    exact (journal_run_of_not_asks laws asks).toSetAlike.trans (setAlike_writeAll laws _ _)
  | some call =>
    obtain ⟨path, level, force⟩ := call
    rw [journal_run_of_asks asks, configure_of_not_reaches]
    · exact .refl _
    · intro reaches
      cases files : session.journal.files? path level with
      | none => exact kept ⟨path, level, force, asks, reaches, .inl files⟩
      | some pair =>
        cases known : Level.ofName? level with
        | none => exact kept ⟨path, level, force, asks, reaches, .inr known⟩
        | some level => exact quiet ⟨path, _, force, asks, reaches, by simp [files], by simp [known]⟩

theorem stranded_run_iff : (session.run command).2.journal.Stranded ↔
    session.Refuses command ∨ session.journal.Stranded ∧ ¬ session.Installs command := by
  by_cases refused : session.Refuses command
  · exact iff_of_true (refused.stranded laws) (.inl refused)
  by_cases installs : session.Installs command
  · exact iff_of_false (installs.not_stranded laws) (by simp [refused, installs])
  · rw [(setAlike_run laws refused installs).stranded_iff, or_iff_right refused, and_iff_left installs]

/-- Logging is stranded exactly from a failed configuration to the next that goes through. -/
theorem stranded_runAll_iff (fresh : start.journal.configured = false) (commands : List Command) :
    (start.runAll commands).2.journal.Stranded ↔ LastRefused start commands := by
  induction commands using List.reverseRecOn with
  | nil =>
    refine iff_of_false (fun stranded => ?_) ?_
    · exact Bool.false_ne_true (fresh.symm.trans stranded.configured)
    · rintro ⟨before, command, after, whole, -⟩
      simp at whole
  | append_singleton commands command ih =>
    rw [runAll_concat, stranded_run_iff laws, lastRefused_concat_iff, ih]

theorem journal_run_of_unforced (configured : session.journal.configured = true)
    (unforced : ¬ command.Forced) :
    (session.run command).2.journal.Alike (session.journal.writeAll (session.made command)) := by
  cases asks : session.asks? command with
  | none => exact journal_run_of_not_asks laws asks
  | some call =>
    obtain ⟨path, level, force⟩ := call
    obtain rfl := force_of_unforced unforced asks
    rw [journal_run_of_asks asks, made_of_asks asks,
      configure_of_not_reaches (not_reaches_of_configured configured)]
    exact .refl _

theorem setAlike_runAll_of_unforced (configured : session.journal.configured = true)
    (unforced : ∀ command ∈ commands, ¬ command.Forced) :
    (session.runAll commands).2.journal.SetAlike session.journal := by
  induction commands generalizing session with
  | nil => exact .refl _
  | cons command rest ih =>
    rw [List.forall_mem_cons] at unforced
    have first : (session.run command).2.journal.SetAlike session.journal :=
      (journal_run_of_unforced laws configured unforced.1).toSetAlike.trans (setAlike_writeAll laws _ _)
    exact (ih (first.configured.trans configured) unforced.2).trans first

theorem content?_runAll_of_unforced (configured : session.journal.configured = true)
    (empty : session.journal.sinks = []) (unforced : ∀ command ∈ commands, ¬ command.Forced)
    (file : libraries.logging.File) :
    (session.runAll commands).2.journal.content? file = session.journal.content? file := by
  induction commands generalizing session with
  | nil => rfl
  | cons command rest ih =>
    rw [List.forall_mem_cons] at unforced
    have first := journal_run_of_unforced laws configured unforced.1
    have set := first.toSetAlike.trans (setAlike_writeAll laws _ _)
    rw [runAll, ih (set.configured.trans configured) (set.sinks.trans empty) unforced.2, first.content?,
      content?_writeAll_of_no_sinks laws empty]

/-- A failed call leaves logging configured all the same, with one sink at most, until one is forced. -/
theorem failed_configure (start : Session libraries) (commands : List Command) (fresh : start.journal = {})
    (path level : Text) (force : Bool) :
    let before := (start.runAll commands).2
    let answered := before.run (.configure path level force)
    let after := answered.2
    ((∃ fault, answered.1 = .error fault) ↔ before.journal.Reaches force ∧
      (before.journal.files? path level = none ∨ Level.ofName? level = none)) ∧
    ∀ fault, answered.1 = .error fault →
      before.journal.Failed after.journal path level ∧
      (after.journal.SetAlike before.journal → LastRefused start commands) ∧
      (∀ path level, after.run (.configure path level false) = (.ok .nothing, after)) ∧
      ∀ later, (∀ command ∈ later, ¬ Command.Forced command) →
        let final := (after.runAll later).2.journal
        final.SetAlike after.journal ∧
        (after.journal.sinks = [] → ∀ file, final.content? file = after.journal.content? file) := by
  intro before answered after
  simp only [answered, run_configure_fst_eq_error_iff]
  refine ⟨configure_error_iff laws, fun fault broken => ?_⟩
  have reaches : before.journal.Reaches force := ((configure_error_iff laws).mp ⟨fault, broken⟩).1
  have failed : before.journal.Failed after.journal path level := by
    rcases configure_cases laws reaches path level with
      ⟨file, errors, known, -, -, passed, -⟩ | ⟨-, other, -, failed⟩
    · rw [passed] at broken
      cases broken
    · exact failed
  refine ⟨failed, fun same => ?_, ?_, fun later unforced => ⟨?_, fun empty file => ?_⟩⟩
  · rw [← stranded_runAll_iff laws (by rw [fresh]) commands]
    exact same.stranded_iff.mp failed.stranded
  · exact run_configure_idle (not_reaches_of_configured failed.configured)
  · exact setAlike_runAll_of_unforced laws failed.configured unforced
  · exact content?_runAll_of_unforced laws failed.configured empty unforced file

end Lawful

theorem failed_configure_by_force :
    let libraries : Libraries := .standard [] [] 0
    let commands : List Command := [.configure "a.log".toList "INFO".toList false]
    let later : List Command :=
      [.configure "a.log".toList "INFO".toList false, .log "INFO".toList ['x'] ⟨[], []⟩ [] none]
    let before := (({} : Session libraries).runAll commands).2
    let refused := before.run (.configure "a.log".toList "LOUD".toList true)
    let blocked := before.run (.configure "d/".toList "INFO".toList true)
    refused.1 = .error (.unknownLevel "LOUD".toList) ∧ refused.2.journal.sinks = [] ∧
      ¬ refused.2.journal.SetAlike before.journal ∧
      (∀ file, (refused.2.runAll later).2.journal.content? file = refused.2.journal.content? file) ∧
      blocked.1 = .error (.unopened "d/error.log".toList) ∧ blocked.2.journal.sinks.length = 1 ∧
      blocked.2.journal.Stranded := by
  intro libraries commands later before refused blocked
  have laws : libraries.logging.Lawful := LogLibrary.memory_lawful [] [] 0
  have error : refused.1 = .error (.unknownLevel "LOUD".toList) := by decide +kernel
  have closed : blocked.1 = .error (.unopened "d/error.log".toList) := by decide +kernel
  have two : before.journal.sinks.length = 2 := by decide +kernel
  have empty : refused.2.journal.sinks = [] := List.isEmpty_iff.mp (by decide +kernel)
  obtain ⟨-, -, -, lost⟩ := (failed_configure laws {} commands rfl _ _ _).2 _ error
  obtain ⟨failed, -⟩ := (failed_configure laws {} commands rfl _ _ _).2 _ closed
  refine ⟨error, empty, fun same => ?_, (lost later ?_).2 empty, closed, by decide +kernel, failed.stranded⟩
  · rw [← same.sinks, empty] at two
    cases two
  · simp [later, Command.Forced]

/-- A failed first call sets the flag all the same, so the next one does nothing. -/
theorem failed_configure_changes :
    let libraries : Libraries := .standard [] [] 0
    let start : Session libraries := {}
    let file : libraries.logging.File := ["a.log".toList]
    (¬ ∀ (commands : List Command) (path level : Text) (force : Bool) (fault : Fault),
      let before := (start.runAll commands).2
      let answered := before.run (.configure path level force)
      answered.1 = .error fault → answered.2.journal.SetAlike before.journal) ∧
    (start.runAll [.configure "a.log".toList "LOUD".toList false,
      .configure "a.log".toList "INFO".toList false,
      .log "INFO".toList ['x'] ⟨[], []⟩ [] none]).2.journal.content? file = some [] := by
  intro libraries start file
  refine ⟨fun kept => ?_, by decide +kernel⟩
  have flag := (kept [] "a.log".toList "LOUD".toList false (.unknownLevel "LOUD".toList)
    (by decide +kernel)).configured
  exact absurd flag (by decide +kernel)

end Session

end ChatMarkup
