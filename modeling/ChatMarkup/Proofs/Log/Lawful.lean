import ChatMarkup.Log.Memory

namespace ChatMarkup

namespace Record

theorem fillTemplate_braced {name : Text} (plain : '\x7d' ∉ name) (context : Fields) (front rest : Text) :
    fillTemplate context (some front) (name ++ '\x7d' :: rest) =
      templateEntry context (front ++ name) ++ fillTemplate context none rest := by
  induction name generalizing front with
  | nil => simp [fillTemplate]
  | cons c name ih =>
    rw [List.mem_cons, not_or] at plain
    rw [List.cons_append, fillTemplate, ih plain.2, List.append_assoc, List.singleton_append]
    exact Ne.symm plain.1

theorem fillTemplate_entry {context : Fields} {name text : Text} (plain : ∀ c ∈ name, c.isAlpha ∨ c = '_')
    (held : context.lookup name = some (.text text)) :
    fillTemplate context none ("\x7bextra[".toList ++ name ++ "]\x7d\n".toList) = text ++ ['\n'] := by
  have unbraced : '\x7d' ∉ "extra[".toList ++ name ++ [']'] := by
    simp only [List.mem_append, not_or]
    exact ⟨⟨by decide, fun inside => absurd (plain _ inside) (by decide)⟩, by decide⟩
  have opening : "\x7bextra[".toList ++ name ++ "]\x7d\n".toList =
      '\x7b' :: (("extra[".toList ++ name ++ [']']) ++ '\x7d' :: ['\n']) := by simp
  have after : Text.after? "extra[".toList ("extra[".toList ++ name ++ [']']) = some (name ++ [']']) :=
    Text.after?_eq_some_iff.mpr (List.append_assoc ..)
  rw [opening, fillTemplate, fillTemplate_braced unbraced, List.nil_append, templateEntry, after]
  simp [held, Value.shown, fillTemplate]

end Record

namespace MemoryLog

theorem lookup_append_one (files : List (FilePath × Text)) (path other : FilePath) (text : Text) :
    (files ++ [(path, text)]).lookup other =
      (files.lookup other).or (if other = path then some text else none) := by
  rw [List.lookup_append, List.lookup_cons]
  by_cases same : other = path
  · simp [same]
  · simp [same, beq_false_of_ne same]

theorem lookup_touch (files : List (FilePath × Text)) (path other : FilePath) :
    (touch path files).lookup other =
      if other = path then some ((files.lookup other).getD []) else files.lookup other := by
  unfold touch
  split
  · rename_i known
    split
    · rename_i same
      rw [same]
      exact (Option.some_get known).symm.trans (by rw [Option.get_eq_getD])
    · rfl
  · rename_i fresh
    rw [Option.not_isSome_iff_eq_none] at fresh
    rw [lookup_append_one]
    split
    · rename_i same
      rw [same, fresh]
      rfl
    · rw [Option.or_none]

theorem lookup_touch_cases (files : List (FilePath × Text)) (path other : FilePath) :
    (touch path files).lookup other = files.lookup other ∨
      files.lookup other = none ∧ (touch path files).lookup other = some [] := by
  rw [lookup_touch]
  split
  · cases files.lookup other with
    | none => exact .inr ⟨rfl, rfl⟩
    | some text => exact .inl rfl
  · exact .inl rfl

theorem lookup_extend (files : List (FilePath × Text)) (path other : FilePath) (text : Text) :
    (extend path text files).lookup other =
      (files.lookup other).map (· ++ if path = other then text else []) := by
  induction files with
  | nil => rfl
  | cons first rest ih =>
    obtain ⟨known, old⟩ := first
    rw [extend, List.map_cons, ← extend, List.lookup_cons, List.lookup_cons, ih]
    by_cases same : other = known
    · subst same
      by_cases written : path = other
      · simp [written]
      · simp [written, Ne.symm written]
    · simp [beq_false_of_ne same]

variable {directory : FilePath} {time : Text} {sourceLine : Nat}

theorem lookup_write (sinks : List (Sink FilePath)) (record : Record) (files : List (FilePath × Text))
    (file : FilePath) : (write record sinks files).lookup file = (files.lookup file).map
      (· ++ ((LogLibrary.memory directory time sourceLine).texts file sinks record).flatten) := by
  induction sinks generalizing record files with
  | nil => simp [write, LogLibrary.texts]
  | cons sink rest ih =>
    rw [write, LogLibrary.texts]
    split
    · -- the context of the record goes on as the formatter left it
      simp only [ih, lookup_extend, Option.map_map]
      split
      · congr 1
        funext old
        simp [LogLibrary.memory]
      · simp [Function.comp_def]
    · exact ih record files

variable {log : MemoryLog} {path : Text} {file : FilePath}

theorem add_known (opens : log.opened? directory path = some file) (level : Level)
    (format : Record → Formatted) : log.add directory path level.name format =
      (.ok (), { sinks := log.sinks ++ [⟨file, level.number, format⟩], files := touch file log.files }) := by
  simp only [add, opens, Level.ofName?_name]

theorem add_unknown (opens : log.opened? directory path = some file) {level : Text}
    (unknown : Level.ofName? level = none) (format : Record → Formatted) :
    log.add directory path level format =
      (.error (.unknownLevel level), { log with files := touch file log.files }) := by
  simp only [add, opens, unknown]

theorem add_unopened (closed : log.opened? directory path = none) (level : Text)
    (format : Record → Formatted) : log.add directory path level format = (.error (.unopened path), log) := by
  simp only [add, closed]

theorem add_opened (opens : log.opened? directory path = some file) (level : Level)
    (format : Record → Formatted) :
    let added := log.add directory path level.name format
    added.1 = .ok () ∧ added.2.sinks = log.sinks ++ [⟨file, level.number, format⟩] ∧
      ∀ other, added.2.files.lookup other =
        if other = file then some ((log.files.lookup other).getD []) else log.files.lookup other := by
  rw [add_known opens]
  exact ⟨rfl, rfl, lookup_touch log.files file⟩

theorem add_failed {level : Text} {format : Record → Formatted} {fault : Fault}
    (failed : (log.add directory path level format).1 = .error fault) :
    let after := (log.add directory path level format).2
    after.sinks = log.sinks ∧
      ∀ file, after.files.lookup file = log.files.lookup file ∨
        log.files.lookup file = none ∧ after.files.lookup file = some [] := by
  cases opens : log.opened? directory path with
  | none =>
    rw [add_unopened opens]
    exact ⟨rfl, fun _ => .inl rfl⟩
  | some file =>
    cases known : Level.ofName? level with
    | none =>
      rw [add_unknown opens known]
      exact ⟨rfl, lookup_touch_cases log.files file⟩
    | some level =>
      rw [← Level.name_of_ofName? known, add_known opens] at failed
      cases failed

end MemoryLog

theorem LogLibrary.memory_lawful (directory : FilePath) (time : Text) (sourceLine : Nat) :
    (LogLibrary.memory directory time sourceLine).Lawful where
  sinks_start := rfl
  content_start _ := rfl
  sinks_removeAll _ := rfl
  content_removeAll _ _ := rfl
  add_of_opened opens level format := MemoryLog.add_opened opens level format
  add_unopened closed level format := ⟨_, congrArg Prod.fst (MemoryLog.add_unopened closed level format)⟩
  add_unknown opens unknown format := congrArg Prod.fst (MemoryLog.add_unknown opens unknown format)
  add_failed failed := MemoryLog.add_failed failed
  sinks_emit _ _ := rfl
  content_emit state record file := MemoryLog.lookup_write state.sinks _ state.files file
  stamp_eq _ _ := ⟨time, sourceLine, rfl⟩
  emitNamed_known known record state := by
    simp [LogLibrary.memory, known]
  emitNamed_unknown unknown record state := by
    simp [LogLibrary.memory, unknown]
  fillTemplate_extra := Record.fillTemplate_entry

end ChatMarkup
