import ChatMarkup.Proofs.Log.Sinks

namespace ChatMarkup

namespace Journal

/-- What matters to the log files: two of them are opened, or a record is written. -/
inductive Event (library : LogLibrary) where
  | opened (file errors : library.File) (level : Level)
  | emitted (record : Record)

variable {library : LogLibrary}

def Event.opening? : Event library → Option (library.File × library.File × Level)
  | .opened file errors level => some (file, errors, level)
  | .emitted _ => none

def Event.files : Event library → List library.File
  | .opened file errors _ => [file, errors]
  | .emitted _ => []

def sinksAfter (past : List (Event library)) : List (Sink library.File) :=
  match (past.filterMap Event.opening?).getLast? with
  | none => []
  | some (file, errors, level) => sinksFor file errors level

def Opened (past : List (Event library)) : Prop := ∃ event ∈ past, event.opening?.isSome

instance (past : List (Event library)) : Decidable (Opened past) :=
  inferInstanceAs (Decidable (∃ event ∈ past, event.opening?.isSome = true))

def Event.records (file : library.File) (past : List (Event library)) : Event library → List Record
  | .opened _ _ _ => []
  | .emitted record => LogLibrary.copies file (sinksAfter past) record

/-- What is written to a file, each record by the sinks there were at its time. -/
def recordsOf (file : library.File) (past : List (Event library)) : List (Event library) → List Record
  | [] => []
  | event :: rest => event.records file past ++ recordsOf file (past ++ [event]) rest

theorem recordsOf_concat (file : library.File) (past events : List (Event library))
    (event : Event library) : recordsOf file past (events ++ [event]) =
      recordsOf file past events ++ event.records file (past ++ events) := by
  induction events generalizing past with
  | nil => simp [recordsOf]
  | cons first rest ih => simp [recordsOf, ih]

theorem opened_concat_iff {past : List (Event library)} {event : Event library} :
    Opened (past ++ [event]) ↔ Opened past ∨ event.opening?.isSome := by
  simp [Opened, or_and_right, exists_or]

theorem sinksAfter_opened (past : List (Event library)) (file errors : library.File) (level : Level) :
    sinksAfter (past ++ [.opened file errors level]) = sinksFor file errors level := by
  simp [sinksAfter, List.filterMap_append, Event.opening?]

theorem sinksAfter_emitted (past : List (Event library)) (record : Record) :
    sinksAfter (past ++ [.emitted record]) = sinksAfter past := by
  simp [sinksAfter, List.filterMap_append, Event.opening?]

theorem files_emitted (past : List (Event library)) (record : Record) :
    (past ++ [Event.emitted record]).flatMap Event.files = past.flatMap Event.files := by
  simp [Event.files]

theorem mem_sinksAfter {past : List (Event library)} {sink : Sink library.File}
    (installed : sink ∈ sinksAfter past) :
    sink.format = Record.jsonLine ∧ sink.file ∈ past.flatMap Event.files := by
  unfold sinksAfter at installed
  split at installed
  · cases installed
  · rename_i file errors level last
    obtain ⟨event, inside, same⟩ := List.mem_filterMap.mp (List.mem_of_getLast? last)
    cases event with
    | emitted record => cases same
    | opened _ _ _ =>
      cases same
      rw [sinksFor, List.mem_cons, List.mem_singleton] at installed
      rcases installed with rfl | rfl
      · exact ⟨rfl, List.mem_flatMap.mpr ⟨_, inside, by simp [Event.files]⟩⟩
      · exact ⟨rfl, List.mem_flatMap.mpr ⟨_, inside, by simp [Event.files]⟩⟩

theorem recordsOf_of_absent {file : library.File} {past events : List (Event library)}
    (absent : file ∉ (past ++ events).flatMap Event.files) : recordsOf file past events = [] := by
  induction events generalizing past with
  | nil => rfl
  | cons event rest ih =>
    have now : event.records file past = [] := by
      cases event with
      | opened _ _ _ => rfl
      | emitted record =>
        refine LogLibrary.copies_of_absent (fun sink inside => ?_) record
        rintro rfl
        exact absent (by rw [List.flatMap_append]; exact List.mem_append_left _ (mem_sinksAfter inside).2)
    rw [recordsOf, now, List.nil_append]
    exact ih (by simpa using absent)

/-- A journal as its history tells it. -/
structure Projects (journal : Journal library) (past : List (Event library)) : Prop where
  configured : journal.configured ↔ Opened past
  handlers : journal.handlers = if Opened past then [.bridge] else []
  rootLevel : journal.rootLevel = if Opened past then (Level.debug.number : Int) else Level.warning.number
  sinks : journal.sinks = sinksAfter past
  content? : ∀ file, journal.content? file =
    if file ∈ past.flatMap Event.files then some (linesText ((recordsOf file [] past).map Record.line))
    else none

variable {journal after : Journal library} {past : List (Event library)}

theorem Projects.alike (kept : Projects journal past) (same : after.Alike journal) : Projects after past where
  configured := by rw [same.configured, kept.configured]
  handlers := same.handlers.trans kept.handlers
  rootLevel := same.rootLevel.trans kept.rootLevel
  sinks := same.sinks.trans kept.sinks
  content? file := (same.content? file).trans (kept.content? file)

theorem Projects.sound (kept : Projects journal past) : journal.Sound := by
  intro sink inside
  rw [kept.sinks] at inside
  obtain ⟨json, made⟩ := mem_sinksAfter inside
  rw [kept.content?, if_pos made]
  exact ⟨json, rfl⟩

theorem Projects.opened (kept : Projects journal past) {file errors : library.File} {level : Level}
    (installed : journal.Installed after file errors level) :
    Projects after (past ++ [.opened file errors level]) := by
  have opened : Opened (past ++ [.opened file errors level]) := opened_concat_iff.mpr (.inr rfl)
  refine ⟨iff_of_true installed.configured opened, ?_, ?_, ?_, fun other => ?_⟩
  · rw [installed.handlers, if_pos opened]
  · rw [installed.rootLevel, if_pos opened]
  · rw [installed.sinks, sinksAfter_opened]
  · have among : other ∈ (past ++ [Event.opened file errors level]).flatMap Event.files ↔
        (other = file ∨ other = errors) ∨ other ∈ past.flatMap Event.files := by
      rw [List.flatMap_append, List.mem_append, or_comm]
      simp [Event.files]
    have written : recordsOf other [] (past ++ [.opened file errors level]) = recordsOf other [] past := by
      rw [recordsOf_concat, Event.records, List.append_nil]
    have text : journal.content other = linesText ((recordsOf other [] past).map Record.line) := by
      rw [content, kept.content?]
      split
      · rfl
      · rename_i absent
        rw [recordsOf_of_absent absent]
        rfl
    rw [installed.content?, kept.content?, written, text]
    simp only [among]
    split
    · rename_i named
      rw [if_pos (.inl named)]
    · rename_i unnamed
      simp only [unnamed, false_or]

section Lawful

variable (laws : library.Lawful)

include laws

theorem Projects.emitted (kept : Projects journal past) (record : Record) :
    Projects (journal.write record) (past ++ [.emitted (library.stamp journal.state record)]) := by
  have opened : Opened (past ++ [.emitted (library.stamp journal.state record)]) ↔ Opened past := by
    simp [opened_concat_iff, Event.opening?]
  refine ⟨kept.configured.trans opened.symm, ?_, ?_, ?_, fun file => ?_⟩
  · simp only [opened]
    exact kept.handlers
  · simp only [opened]
    exact kept.rootLevel
  · rw [sinksAfter_emitted, sinks_write laws, kept.sinks]
  · rw [content?_write laws kept.sound, kept.content?, kept.sinks, files_emitted, recordsOf_concat,
      List.map_append, linesText_append]
    split <;> rfl

end Lawful

end Journal

end ChatMarkup
