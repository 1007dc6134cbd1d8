import ChatMarkup.Proofs.Session.Recorded

namespace ChatMarkup

namespace Journal

variable {library : LogLibrary} {journal after : Journal library}

theorem Alike.content_eq (same : after.Alike journal) (file : library.File) :
    after.content file = journal.content file := by
  rw [content, content, same.content?]

theorem Alike.sound (same : after.Alike journal) (sound : journal.Sound) : after.Sound := by
  intro sink inside
  rw [same.content?]
  exact sound sink (same.sinks ▸ inside)

end Journal

namespace Session

open Journal

variable {libraries : Libraries}

def written (file : libraries.logging.File) (session : Session libraries) (command : Command) : List Record :=
  (session.journal.stamped (session.made command)).flatMap (LogLibrary.copies file session.journal.sinks)

def writtenTo (file : libraries.logging.File) (session : Session libraries) : List Command → List Record
  | [] => []
  | command :: rest => session.written file command ++ (session.run command).2.writtenTo file rest

section Lawful

variable (laws : libraries.logging.Lawful) {session : Session libraries} (sound : session.journal.Sound)

include laws sound

theorem sound_run (command : Command) : (session.run command).2.journal.Sound := by
  cases asks : session.asks? command with
  | some call =>
    rw [journal_run_of_asks asks]
    exact sound.configure laws _ _ _
  | none => exact (journal_run_of_not_asks laws asks).sound (sound.writeAll laws _)

theorem content_run (command : Command) (file : libraries.logging.File) :
    (session.run command).2.journal.content file =
      session.journal.content file ++ linesText ((session.written file command).map Record.line) := by
  cases asks : session.asks? command with
  | some call =>
    rw [journal_run_of_asks asks, content_configure laws, written, made_of_asks asks]
    exact (List.append_nil _).symm
  | none =>
    rw [(journal_run_of_not_asks laws asks).content_eq, content_writeAll laws sound]
    rfl

theorem content_runAll (commands : List Command) (file : libraries.logging.File) :
    (session.runAll commands).2.journal.content file =
      session.journal.content file ++ linesText ((session.writtenTo file commands).map Record.line) := by
  induction commands generalizing session with
  | nil => exact (List.append_nil _).symm
  | cons command rest ih =>
    rw [runAll, ih (sound_run laws sound command), content_run laws sound, writtenTo, List.map_append,
      linesText_append, List.append_assoc]

end Lawful

def Command.Readable : Command → Prop
  | .log _ _ _ context _ | .logForeign _ _ _ _ context _ => ChatMarkup.Readable context
  | _ => True

theorem readable_append {own outer : Fields} (first : ChatMarkup.Readable own)
    (second : ChatMarkup.Readable outer) : ChatMarkup.Readable (own ++ outer) := by
  intro name known value found
  rw [List.lookup_append, Option.or_eq_some_iff] at found
  rcases found with found | ⟨-, found⟩
  · exact first name known value found
  · exact second name known value found

theorem Command.Binds.readable {command : Command} {own : Fields} (binds : command.Binds own)
    (readable : command.Readable) : ChatMarkup.Readable own := by
  cases command with
  | log | logForeign =>
    rw [Command.Binds] at binds
    rw [binds]
    exact readable
  | convert name text =>
    rw [Command.Binds] at binds
    rw [binds]
    exact readable_of_whole (by simp [Json.Whole])
  | format name text given =>
    obtain ⟨target, same⟩ := binds
    rw [same]
    exact readable_of_whole (by simp [Json.Whole])
  | setVariable | eraseVariable | forgetSettings | readSettings | dialect | configure | configureFrom
    | escape | fill =>
    have empty : own = [] := binds
    rw [empty]
    exact readable_of_whole (List.forall_mem_nil _)

theorem context_of_stamped {library : LogLibrary} (laws : library.Lawful) {journal : Journal library}
    {records : List Record} {record : Record} (inside : record ∈ journal.stamped records) :
    ∃ made ∈ records, record.context = made.context := by
  induction records generalizing journal with
  | nil => cases inside
  | cons first rest ih =>
    rcases List.mem_cons.mp inside with rfl | later
    · obtain ⟨time, sourceLine, same⟩ := laws.stamp_eq journal.state first
      exact ⟨first, List.mem_cons_self, by rw [same]⟩
    · obtain ⟨made, known, same⟩ := ih later
      exact ⟨made, List.mem_cons_of_mem _ known, same⟩

theorem readable_of_writtenTo (laws : libraries.logging.Lawful) {file : libraries.logging.File}
    {session : Session libraries} {commands : List Command} (ambient : ChatMarkup.Readable session.context)
    (readable : ∀ command ∈ commands, command.Readable) {record : Record}
    (inside : record ∈ session.writtenTo file commands) : ChatMarkup.Readable record.context := by
  induction commands generalizing session with
  | nil => cases inside
  | cons command rest ih =>
    rw [List.forall_mem_cons] at readable
    rcases List.mem_append.mp inside with now | later
    · obtain ⟨stamped, known, taken⟩ := List.mem_flatMap.mp now
      obtain ⟨made, among, same⟩ := context_of_stamped laws known
      obtain ⟨own, binds, carries⟩ := binds_of_made among
      rw [List.eq_of_mem_replicate taken, same, carries]
      exact readable_append (binds.readable readable.1) ambient
    · exact ih (context_run session command ▸ ambient) readable.2 later

theorem sound_start {library : LogLibrary} (laws : library.Lawful) : ({} : Journal library).Sound := by
  intro sink inside
  rw [Journal.sinks, laws.sinks_start] at inside
  cases inside

/-- Each record is one line that tells it, and a file is read back as the records written to it. -/
theorem lines_read_back :
    (∀ record : Record, '\n' ∉ record.line ∧ '\r' ∉ record.line) ∧
    (∀ record : Record, ChatMarkup.Readable record.context →
      ∃ entries, Json.read? record.line = some (.object entries) ∧ record.ToldBy entries) ∧
    ∀ {libraries : Libraries} (start : Session libraries) (commands : List Command)
      (file : libraries.logging.File) (text : Text),
      libraries.logging.Lawful → start.journal = {} → ChatMarkup.Readable start.context →
      (∀ command ∈ commands, command.Readable) →
      (start.runAll commands).2.journal.content? file = some text →
      ∃ lines, Text.pieces (· = '\n') text = lines ++ [[]] ∧
        List.Forall₂ (fun line (record : Record) =>
            ∃ entries, Json.read? line = some (.object entries) ∧ record.ToldBy entries)
          lines (start.writtenTo file commands) := by
  refine ⟨?_, fun record => Record.read?_line, ?_⟩
  · intro record
    exact ⟨record.oneLine_line.not_mem (by decide), record.oneLine_line.not_mem (by decide)⟩
  · intro libraries start commands file text laws fresh ambient readable found
    have grown := content_runAll laws (fresh ▸ sound_start laws) commands file
    have empty : start.journal.content file = [] := by
      rw [fresh, content, Journal.content?, laws.content_start]
      rfl
    rw [empty, List.nil_append, content, found] at grown
    change text = _ at grown
    refine ⟨(start.writtenTo file commands).map Record.line, ?_, ?_⟩
    · rw [grown]
      refine pieces_linesText fun line inside => ?_
      obtain ⟨record, -, rfl⟩ := List.mem_map.mp inside
      exact record.oneLine_line.not_mem (by decide)
    · rw [List.forall₂_map_left_iff, List.forall₂_same]
      exact fun record inside => Record.read?_line (readable_of_writtenTo laws ambient readable inside)

theorem lines_read_back_hostile :
    let libraries : Libraries := .standard [] "2024-01-01".toList 7
    let context : Fields := [("dialect".toList, .null), ("platform".toList, .text "p\"\n".toList),
      ("user".toList, .decimal 15 1)]
    let failure : Failure := ⟨"KeyError".toList, "it's".toList⟩
    let record : Record := {
      severity := .level .error, message := "a\n\r\x7b0\x7d\\\x00\u2028".toList, origin := ⟨[], []⟩,
      context, failure := some failure }
    let commands : List Command :=
      [.configure "a.log".toList "LOUD".toList false, .configure "a.log".toList "INFO".toList true,
        .log "ERROR".toList record.message record.origin context (some failure),
        .convert "slack".toList ['b'], .convert "slack".toList Placeholder.Table.markCandidates]
    let file : libraries.logging.File := ["error.log".toList]
    let start : Session libraries := {}
    (∃ entries, Json.read? record.line = some (.object entries) ∧ record.ToldBy entries) ∧
    ∃ text lines, (start.runAll commands).2.journal.content? file = some text ∧
      Text.pieces (· = '\n') text = lines ++ [[]] ∧ lines.length = 2 ∧
      List.Forall₂ (fun line (record : Record) =>
          ∃ entries, Json.read? line = some (.object entries) ∧ record.ToldBy entries)
        lines (start.writtenTo file commands) := by
  intro libraries context failure record commands file start
  obtain ⟨-, reads, files⟩ := lines_read_back
  have readable : ChatMarkup.Readable context := by
    intro name known value found
    rw [Record.contextNames, List.mem_cons, List.mem_singleton] at known
    rcases known with rfl | rfl
    · cases found
      trivial
    · cases found
      trivial
  have three : ((start.runAll commands).2.journal.content? file).map
      (fun text => (Text.pieces (· = '\n') text).length) = some 3 := by
    decide +kernel
  obtain ⟨text, found, count⟩ := Option.map_eq_some_iff.mp three
  obtain ⟨lines, cut, told⟩ := files start commands file text (LogLibrary.memory_lawful _ _ _) rfl
    (readable_of_whole (List.forall_mem_nil _)) (by simp [commands, Command.Readable, record, readable]) found
  have two : lines.length = 2 := by
    rw [cut, List.length_append] at count
    exact Nat.succ.inj count
  exact ⟨reads record readable, text, lines, found, cut, two, told⟩

end Session

end ChatMarkup
