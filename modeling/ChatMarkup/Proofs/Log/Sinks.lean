import ChatMarkup.Log.Journal
import ChatMarkup.Proofs.Log.Line

namespace ChatMarkup

namespace LogPath

end LogPath

namespace LogLibrary

variable {library : LogLibrary}

/-- A record as often as the sinks of a file take it. -/
def copies (file : library.File) (sinks : List (Sink library.File)) (record : Record) : List Record :=
  List.replicate
    (sinks.countP fun sink => sink.file = file ∧ sink.threshold ≤ record.severity.number) record

theorem copies_cons (file : library.File) (sink : Sink library.File) (rest : List (Sink library.File))
    (record : Record) : copies file (sink :: rest) record =
      (if sink.file = file ∧ sink.threshold ≤ record.severity.number then [record] else []) ++
        copies file rest record := by
  unfold copies
  by_cases takes : sink.file = file ∧ sink.threshold ≤ record.severity.number
  · rw [List.countP_cons_of_pos (by simpa using takes), if_pos takes, List.replicate_succ]
    rfl
  · rw [List.countP_cons_of_neg (by simpa using takes), if_neg takes, List.nil_append]

theorem copies_of_absent {file : library.File} {sinks : List (Sink library.File)}
    (absent : ∀ sink ∈ sinks, sink.file ≠ file) (record : Record) : copies file sinks record = [] := by
  have none_takes : sinks.countP (fun sink => sink.file = file ∧ sink.threshold ≤ record.severity.number) = 0 := by
    rw [List.countP_eq_zero]
    exact fun sink inside => by simp [absent sink inside]
  rw [copies, none_takes, List.replicate_zero]

theorem lines_copies_of_left (file : library.File) (sinks : List (Sink library.File)) (record : Record) :
    (copies file sinks { record with context := record.jsonLine.context }).map Record.line =
      (copies file sinks record).map Record.line := by
  simp only [copies, List.map_replicate]
  exact congrArg _ (record.line_of_left record.line)

variable (laws : library.Lawful)

include laws

theorem Lawful.fillTemplate_jsonLine (record : Record) :
    library.fillTemplate record.jsonLine.context record.jsonLine.template = record.line ++ ['\n'] := by
  have plain : ∀ c ∈ Record.lineName, c.isAlpha ∨ c = '_' := by simp [Record.lineName]
  have held : record.jsonLine.context.lookup Record.lineName = some (.text record.line) :=
    List.lookup_cons_self
  exact laws.fillTemplate_extra plain held

theorem Lawful.flatten_texts {sinks : List (Sink library.File)}
    (json : ∀ sink ∈ sinks, sink.format = Record.jsonLine) (file : library.File) (record : Record) :
    (library.texts file sinks record).flatten = linesText ((copies file sinks record).map Record.line) := by
  induction sinks generalizing record with
  | nil => rfl
  | cons sink rest ih =>
    rw [List.forall_mem_cons] at json
    -- the next formatter finds this line in the context, but does not show it
    have later := ih json.2 { record with context := record.jsonLine.context }
    rw [lines_copies_of_left] at later
    rw [texts, json.1, copies_cons, List.map_append, linesText_append]
    dsimp only
    rw [laws.fillTemplate_jsonLine]
    by_cases takes : sink.threshold ≤ record.severity.number
    · by_cases same : sink.file = file
      · rw [if_pos takes, if_pos same, if_pos ⟨same, takes⟩, List.flatten_cons, later]
        simp [linesText]
      · rw [if_pos takes, if_neg same, if_neg (fun both => same both.1), later]
        rfl
    · rw [if_neg takes, if_neg (fun both => takes both.2), ih json.2]
      rfl

end LogLibrary

namespace Journal

variable {library : LogLibrary}

def sinks (journal : Journal library) : List (Sink library.File) := library.sinks journal.state

def content? (journal : Journal library) (file : library.File) : Option Text :=
  library.content? journal.state file

def content (journal : Journal library) (file : library.File) : Text := (journal.content? file).getD []

structure SetAlike (one other : Journal library) : Prop where
  configured : one.configured = other.configured
  handlers : one.handlers = other.handlers
  rootLevel : one.rootLevel = other.rootLevel
  sinks : one.sinks = other.sinks

/-- Nothing that a program can see tells the two apart. -/
structure Alike (one other : Journal library) : Prop extends SetAlike one other where
  content? : ∀ file, one.content? file = other.content? file

theorem SetAlike.refl (journal : Journal library) : journal.SetAlike journal := ⟨rfl, rfl, rfl, rfl⟩

theorem SetAlike.trans {one middle other : Journal library} (first : one.SetAlike middle)
    (second : middle.SetAlike other) : one.SetAlike other :=
  ⟨first.configured.trans second.configured, first.handlers.trans second.handlers,
    first.rootLevel.trans second.rootLevel, first.sinks.trans second.sinks⟩

theorem Alike.refl (journal : Journal library) : journal.Alike journal := ⟨.refl journal, fun _ => rfl⟩

theorem Alike.of_eq {one other : Journal library} (same : one = other) : one.Alike other := by
  subst same
  exact .refl one

/-- Every sink writes lines to a file that is there. -/
def Sound (journal : Journal library) : Prop :=
  ∀ sink ∈ journal.sinks, sink.format = Record.jsonLine ∧ (journal.content? sink.file).isSome

def stamped (journal : Journal library) : List Record → List Record
  | [] => []
  | record :: rest => library.stamp journal.state record :: (journal.write record).stamped rest

def Kept (before after : Option Text) : Prop := after = before ∨ before = none ∧ after = some []

namespace Kept

variable {before middle after : Option Text}

theorem getD_eq (kept : Kept before after) : after.getD [] = before.getD [] := by
  rcases kept with rfl | ⟨rfl, rfl⟩ <;> rfl

theorem isSome (kept : Kept before after) (made : before.isSome) : after.isSome := by
  rcases kept with rfl | ⟨rfl, rfl⟩
  · exact made
  · rfl

theorem trans (first : Kept before middle) (second : Kept middle after) : Kept before after := by
  rcases first with rfl | ⟨rfl, rfl⟩
  · exact second
  · rcases second with rfl | ⟨⟨⟩, -⟩
    exact .inr ⟨rfl, rfl⟩

theorem opened (old : Option Text) : Kept old (some (old.getD [])) := by
  cases old with
  | none => exact .inr ⟨rfl, rfl⟩
  | some text => exact .inl rfl

end Kept

def Reaches (journal : Journal library) (force : Bool) : Prop :=
  journal.configured = false ∨ force = true

instance (journal : Journal library) (force : Bool) : Decidable (journal.Reaches force) :=
  inferInstanceAs (Decidable (_ ∨ _))

def mainAdded (journal : Journal library) (path level : Text) : Except Fault Unit × library.State :=
  library.add path level Record.jsonLine (library.removeAll journal.state)

def errorsAdded (journal : Journal library) (path level : Text) : Except Fault Unit × library.State :=
  library.add (LogPath.errorFile path) Level.error.name Record.jsonLine (journal.mainAdded path level).2

def files? (journal : Journal library) (path level : Text) : Option (library.File × library.File) :=
  (library.opened? (library.removeAll journal.state) path).bind fun file =>
    (library.opened? (journal.mainAdded path level).2 (LogPath.errorFile path)).map fun errors =>
      (file, errors)

def sinksFor (file errors : library.File) (level : Level) : List (Sink library.File) :=
  [⟨file, level.number, Record.jsonLine⟩, ⟨errors, Level.error.number, Record.jsonLine⟩]

structure Installed (before after : Journal library) (file errors : library.File) (level : Level) :
    Prop where
  configured : after.configured = true
  handlers : after.handlers = [.bridge]
  rootLevel : after.rootLevel = Level.debug.number
  sinks : after.sinks = sinksFor file errors level
  content? : ∀ other, after.content? other =
    if other = file ∨ other = errors then some (before.content other) else before.content? other

/-- The sinks that a failing call leaves: that of the main file, if this much was possible. -/
def sinksLeft (journal : Journal library) (path level : Text) : List (Sink library.File) :=
  match library.opened? (library.removeAll journal.state) path, Level.ofName? level with
  | some file, some known => [⟨file, known.number, Record.jsonLine⟩]
  | _, _ => []

structure Failed (before after : Journal library) (path level : Text) : Prop where
  configured : after.configured = true
  handlers : after.handlers = before.handlers
  rootLevel : after.rootLevel = before.rootLevel
  sinks : after.sinks = before.sinksLeft path level
  sound : after.Sound
  content? : ∀ file, Kept (before.content? file) (after.content? file)

variable {journal : Journal library}

theorem configure_of_not_reaches {force : Bool} (idle : ¬ journal.Reaches force) (path level : Text) :
    journal.configure path level force = (.ok (), journal) := by
  obtain ⟨configured, unforced⟩ := not_or.mp idle
  exact if_pos ⟨by simpa using configured, by simpa using unforced⟩

variable {path level : Text} {force : Bool} {fault : Fault}

theorem configure_of_reaches (reaches : journal.Reaches force) (path level : Text) :
    journal.configure path level force =
      match (journal.mainAdded path level).1 with
      | .error fault =>
        (.error fault, { journal with configured := true, state := (journal.mainAdded path level).2 })
      | .ok () =>
        let state := (journal.errorsAdded path level).2
        match (journal.errorsAdded path level).1 with
        | .error fault => (.error fault, { journal with configured := true, state })
        | .ok () => (.ok (), {
            configured := true, handlers := [.bridge], rootLevel := Level.debug.number, state }) := by
  have goes : ¬ (journal.configured ∧ !force) := by
    rcases reaches with fresh | forced
    · simp [fresh]
    · simp [forced]
  rw [configure, if_neg goes]
  simp only [errorsAdded, mainAdded]
  rcases library.add path level Record.jsonLine (library.removeAll journal.state) with ⟨_ | _, first⟩
  · rfl
  · dsimp only
    rcases library.add (LogPath.errorFile path) Level.error.name Record.jsonLine first with ⟨_ | _, _⟩ <;> rfl

section Lawful

variable (laws : library.Lawful)

include laws

theorem sinks_write (journal : Journal library) (record : Record) :
    (journal.write record).sinks = journal.sinks :=
  laws.sinks_emit journal.state record

theorem content?_write (sound : journal.Sound) (record : Record) (file : library.File) :
    (journal.write record).content? file = (journal.content? file).map (· ++ linesText
      ((LogLibrary.copies file journal.sinks (library.stamp journal.state record)).map Record.line)) := by
  rw [← laws.flatten_texts fun sink inside => (sound sink inside).1]
  exact laws.content_emit journal.state record file

theorem content_write (sound : journal.Sound) (record : Record) (file : library.File) :
    (journal.write record).content file = journal.content file ++ linesText
      ((LogLibrary.copies file journal.sinks (library.stamp journal.state record)).map Record.line) := by
  rw [content, content, content?_write laws sound]
  cases there : journal.content? file with
  | some text => rfl
  | none =>
    -- no sink writes to a file that is not there
    have absent : ∀ sink ∈ journal.sinks, sink.file ≠ file := by
      rintro sink inside rfl
      have made := (sound sink inside).2
      rw [there] at made
      cases made
    rw [LogLibrary.copies_of_absent absent]
    rfl

theorem Sound.write (sound : journal.Sound) (record : Record) : (journal.write record).Sound := by
  intro sink inside
  rw [sinks_write laws] at inside
  obtain ⟨json, made⟩ := sound sink inside
  rw [content?_write laws sound, Option.isSome_map]
  exact ⟨json, made⟩

theorem setAlike_writeAll (journal : Journal library) (records : List Record) :
    (journal.writeAll records).SetAlike journal := by
  induction records generalizing journal with
  | nil => exact .refl journal
  | cons record rest ih => exact (ih (journal.write record)).trans ⟨rfl, rfl, rfl, sinks_write laws journal record⟩

theorem Sound.writeAll (sound : journal.Sound) (records : List Record) : (journal.writeAll records).Sound := by
  induction records generalizing journal with
  | nil => exact sound
  | cons record rest ih => exact ih (sound.write laws record)

theorem content_writeAll (sound : journal.Sound) (records : List Record) (file : library.File) :
    (journal.writeAll records).content file = journal.content file ++ linesText
      (((journal.stamped records).flatMap (LogLibrary.copies file journal.sinks)).map Record.line) := by
  induction records generalizing journal with
  | nil => exact (List.append_nil _).symm
  | cons record rest ih =>
    have later := ih (sound.write laws record)
    rw [content_write laws sound, sinks_write laws, List.append_assoc, ← linesText_append,
      ← List.map_append] at later
    exact later

theorem mainAdded_opened {file : library.File}
    (opens : library.opened? (library.removeAll journal.state) path = some file) (level : Level) :
    let added := journal.mainAdded path level.name
    added.1 = .ok () ∧ library.sinks added.2 = [⟨file, level.number, Record.jsonLine⟩] ∧
      ∀ other, library.content? added.2 other =
        if other = file then some (journal.content other) else journal.content? other := by
  have added := laws.add_of_opened opens level Record.jsonLine
  rw [laws.sinks_removeAll, List.nil_append] at added
  simp only [laws.content_removeAll] at added
  exact added

theorem failed_of_main (failed : (journal.mainAdded path level).1 = .error fault)
    (none_left : journal.sinksLeft path level = []) :
    journal.Failed { journal with configured := true, state := (journal.mainAdded path level).2 }
      path level := by
  obtain ⟨sinks, files⟩ := laws.add_failed failed
  rw [laws.sinks_removeAll] at sinks
  simp only [laws.content_removeAll] at files
  refine ⟨rfl, rfl, rfl, sinks.trans none_left.symm, fun sink inside => ?_, files⟩
  rw [Journal.sinks, mainAdded, sinks] at inside
  cases inside

theorem failed_of_errors {file : library.File} {level : Level}
    (opens : library.opened? (library.removeAll journal.state) path = some file)
    (failed : (journal.errorsAdded path level.name).1 = .error fault) :
    journal.Failed { journal with configured := true, state := (journal.errorsAdded path level.name).2 }
      path level.name := by
  obtain ⟨sinks, files⟩ := laws.add_failed failed
  obtain ⟨-, one, made⟩ := mainAdded_opened laws opens level
  rw [one] at sinks
  have kept (other : library.File) : Kept (journal.content? other)
      (library.content? (journal.errorsAdded path level.name).2 other) := by
    refine Kept.trans ?_ (files other)
    rw [made]
    split
    · exact Kept.opened _
    · exact .inl rfl
  have left : journal.sinksLeft path level.name = [⟨file, level.number, Record.jsonLine⟩] := by
    simp only [sinksLeft, opens, Level.ofName?_name]
  refine ⟨rfl, rfl, rfl, sinks.trans left.symm, fun sink inside => ?_, kept⟩
  rw [Journal.sinks, errorsAdded, sinks, List.mem_singleton] at inside
  subst inside
  refine ⟨rfl, Kept.isSome (files file) ?_⟩
  rw [made, if_pos rfl]
  rfl

theorem installed_of_both {file errors : library.File} {level : Level}
    (opens : library.opened? (library.removeAll journal.state) path = some file)
    (also : library.opened? (journal.mainAdded path level.name).2 (LogPath.errorFile path) = some errors) :
    (journal.errorsAdded path level.name).1 = .ok () ∧ journal.Installed {
      configured := true
      handlers := [.bridge]
      rootLevel := Level.debug.number
      state := (journal.errorsAdded path level.name).2 } file errors level := by
  obtain ⟨passed, two, files⟩ := laws.add_of_opened also .error Record.jsonLine
  obtain ⟨-, one, made⟩ := mainAdded_opened laws opens level
  rw [one] at two
  refine ⟨passed, rfl, rfl, rfl, two, fun other => ?_⟩
  rw [Journal.content?, errorsAdded, files, made]
  by_cases first : other = file
  · simp [first]
  · simp [first, content]

/-- A call goes through with both files open and a level that is known, else it fails. -/
theorem configure_cases (reaches : journal.Reaches force) (path level : Text) :
    let configured := journal.configure path level force
    (∃ file errors known, Level.name known = level ∧ journal.files? path level = some (file, errors) ∧
      configured.1 = .ok () ∧ journal.Installed configured.2 file errors known) ∨
    ((journal.files? path level = none ∨ Level.ofName? level = none) ∧
      ∃ fault, configured.1 = .error fault ∧ journal.Failed configured.2 path level) := by
  intro configured
  obtain configured_eq : configured = _ := configure_of_reaches reaches path level
  cases main : library.opened? (library.removeAll journal.state) path with
  | none =>
    obtain ⟨fault, failed⟩ := laws.add_unopened main level Record.jsonLine
    rw [← mainAdded] at failed
    refine .inr ⟨.inl (by simp [files?, main]), fault, ?_⟩
    rw [configured_eq, failed]
    exact ⟨rfl, failed_of_main laws failed (by simp only [sinksLeft, main])⟩
  | some file =>
    cases named : Level.ofName? level with
    | none =>
      have failed := laws.add_unknown main named Record.jsonLine
      rw [← mainAdded] at failed
      refine .inr ⟨.inr rfl, .unknownLevel level, ?_⟩
      rw [configured_eq, failed]
      exact ⟨rfl, failed_of_main laws failed (by simp only [sinksLeft, main, named])⟩
    | some known =>
      obtain rfl := Level.name_of_ofName? named
      have passed := (mainAdded_opened laws main known).1
      cases beside : library.opened? (journal.mainAdded path known.name).2 (LogPath.errorFile path) with
      | none =>
        obtain ⟨fault, failed⟩ := laws.add_unopened beside Level.error.name Record.jsonLine
        rw [← errorsAdded] at failed
        refine .inr ⟨.inl (by simp [files?, main, beside]), fault, ?_⟩
        rw [configured_eq, passed, failed]
        exact ⟨rfl, failed_of_errors laws main failed⟩
      | some errors =>
        obtain ⟨also, installed⟩ := installed_of_both laws main beside
        refine .inl ⟨file, errors, known, rfl, by simp [files?, main, beside], ?_⟩
        rw [configured_eq, passed, also]
        exact ⟨rfl, installed⟩

theorem configure_error_iff : (∃ fault, (journal.configure path level force).1 = .error fault) ↔
    journal.Reaches force ∧ (journal.files? path level = none ∨ Level.ofName? level = none) := by
  by_cases reaches : journal.Reaches force
  · rw [and_iff_right reaches]
    rcases configure_cases laws reaches path level with
      ⟨file, errors, known, rfl, opens, passed, -⟩ | ⟨why, fault, failed, -⟩
    · rw [passed, opens, Level.ofName?_name]
      simp
    · exact iff_of_true ⟨fault, failed⟩ why
  · rw [configure_of_not_reaches reaches]
    simp [reaches]

omit laws in
theorem Installed.sound {after : Journal library} {file errors : library.File} {level : Level}
    (installed : journal.Installed after file errors level) : after.Sound := by
  intro sink inside
  rw [installed.sinks, sinksFor, List.mem_cons, List.mem_singleton] at inside
  rw [installed.content?]
  rcases inside with rfl | rfl
  · exact ⟨rfl, by rw [if_pos (.inl rfl)]; rfl⟩
  · exact ⟨rfl, by rw [if_pos (.inr rfl)]; rfl⟩

omit laws in
theorem Installed.content {after : Journal library} {file errors : library.File} {level : Level}
    (installed : journal.Installed after file errors level) (other : library.File) :
    after.content other = journal.content other := by
  rw [Journal.content, installed.content?]
  split <;> rfl

theorem Sound.configure (sound : journal.Sound) (path level : Text) (force : Bool) :
    (journal.configure path level force).2.Sound := by
  by_cases reaches : journal.Reaches force
  · rcases configure_cases laws reaches path level with
      ⟨file, errors, known, -, -, -, installed⟩ | ⟨-, fault, -, failed⟩
    · exact installed.sound
    · exact failed.sound
  · rw [configure_of_not_reaches reaches]
    exact sound

theorem content_configure (journal : Journal library) (path level : Text) (force : Bool)
    (file : library.File) : (journal.configure path level force).2.content file = journal.content file := by
  by_cases reaches : journal.Reaches force
  · rcases configure_cases laws reaches path level with
      ⟨main, errors, known, -, -, -, installed⟩ | ⟨-, fault, -, failed⟩
    · exact installed.content file
    · exact (failed.content? file).getD_eq
  · rw [configure_of_not_reaches reaches]

end Lawful

end Journal

end ChatMarkup
