import ChatMarkup.Log.Record
import ChatMarkup.Proofs.Json.OneLine

namespace ChatMarkup

namespace Text

theorem pieces_append_cons {separator : Char → Bool} {piece : Text}
    (free : ∀ c ∈ piece, separator c = false) {c : Char} (cuts : separator c = true) (rest : Text) :
    pieces separator (piece ++ c :: rest) = piece :: pieces separator rest := by
  induction piece with
  | nil => simp [pieces, cuts]
  | cons d piece ih =>
    rw [List.forall_mem_cons] at free
    simp [pieces, free.1, ih free.2]

end Text

def linesText (lines : List Text) : Text := lines.flatMap (· ++ ['\n'])

theorem linesText_append (lines more : List Text) :
    linesText (lines ++ more) = linesText lines ++ linesText more :=
  List.flatMap_append

theorem pieces_linesText {lines : List Text} (whole : ∀ line ∈ lines, '\n' ∉ line) :
    Text.pieces (· = '\n') (linesText lines) = lines ++ [[]] := by
  induction lines with
  | nil => rfl
  | cons line lines ih =>
    rw [List.forall_mem_cons] at whole
    have free : ∀ c ∈ line, decide (c = '\n') = false := by
      intro c inside
      rw [decide_eq_false_iff_not]
      rintro rfl
      exact whole.1 inside
    rw [linesText, List.flatMap_cons, List.append_assoc, List.singleton_append,
      Text.pieces_append_cons free (by decide), ← linesText, ih whole.2, List.cons_append]

namespace Record

def contextNames : List Text := ["dialect".toList, "platform".toList]

def lineNames : List Text :=
  ["time", "level", "message", "module", "function", "line", "dialect", "platform", "exception"].map
    (·.toList)

def entry? (record : Record) (name : Text) : Option Value :=
  match record.context.lookup name with
  | some .null => none
  | found => found

/-- Entries that tell what a record holds and nothing else. -/
structure ToldBy (record : Record) (entries : Fields) : Prop where
  names : (entries.map (·.1)).Sublist lineNames
  time : entries.lookup "time".toList = some (.text record.time)
  level : entries.lookup "level".toList = some (.text record.severity.name)
  message : entries.lookup "message".toList = some (.text record.message)
  component : entries.lookup "module".toList = some (.text record.origin.component)
  function : entries.lookup "function".toList = some (.text record.origin.function)
  line : entries.lookup "line".toList = some (.int record.sourceLine)
  context : ∀ name ∈ contextNames, entries.lookup name = record.entry? name
  failure : entries.lookup "exception".toList =
    record.failure.map fun failure => .text (failure.kind ++ '(' :: failure.text.quoted ++ [')'])

theorem shownContext_eq (record : Record) (name : Text) :
    record.shownContext name = (record.entry? name).toList.map fun value => (name, value) := by
  unfold shownContext entry?
  cases record.context.lookup name with
  | none => rfl
  | some value => cases value <;> rfl

theorem fields_eq (record : Record) : record.fields =
    [("time".toList, .text record.time), ("level".toList, .text record.severity.name),
      ("message".toList, .text record.message), ("module".toList, .text record.origin.component),
      ("function".toList, .text record.origin.function), ("line".toList, .int record.sourceLine)] ++
    (record.entry? "dialect".toList).toList.map (fun value => ("dialect".toList, value)) ++
    (record.entry? "platform".toList).toList.map (fun value => ("platform".toList, value)) ++
    record.failure.toList.map (fun failure => ("exception".toList, .text failure.shown)) := by
  rw [← shownContext_eq, ← shownContext_eq, fields]
  cases record.failure <;> rfl

theorem toldBy_fields (record : Record) : record.ToldBy record.fields := by
  have shown (name : Text) (known : name ∈ contextNames) :
      record.fields.lookup name = record.entry? name := by
    rw [fields_eq]
    rw [contextNames, List.mem_cons, List.mem_singleton] at known
    rcases known with rfl | rfl
    · cases record.entry? "dialect".toList <;> cases record.entry? "platform".toList <;>
        cases record.failure <;> rfl
    · cases record.entry? "dialect".toList <;> cases record.entry? "platform".toList <;>
        cases record.failure <;> rfl
  have optional {α : Type} (name : Text) (f : α → Value) (part : Option α) :
      ((part.toList.map fun value => (name, f value)).map (·.1)).Sublist [name] := by
    cases part <;> simp
  refine ⟨?_, rfl, rfl, rfl, rfl, rfl, rfl, shown, ?_⟩
  · rw [fields_eq]
    simp only [List.map_append]
    exact (((List.Sublist.refl _).append (optional _ id _)).append (optional _ id _)).append
      (optional _ _ _)
  · rw [fields_eq]
    cases record.entry? "dialect".toList <;> cases record.entry? "platform".toList <;>
      cases record.failure <;> rfl

end Record

/-- A context whose shown entries hold no decimal fraction. Texts and null hold none. -/
def Readable (context : Fields) : Prop :=
  ∀ name ∈ Record.contextNames, ∀ value, context.lookup name = some value → Json.Whole value

theorem Json.wholeFields_iff {fields : Fields} : WholeFields fields ↔ ∀ entry ∈ fields, Whole entry.2 := by
  induction fields with
  | nil => simp [WholeFields]
  | cons entry rest ih => simp [WholeFields, ih]

theorem readable_of_whole {context : Fields} (whole : ∀ entry ∈ context, Json.Whole entry.2) :
    Readable context := by
  intro name _ value found
  obtain ⟨before, after, rfl, -⟩ := List.lookup_eq_some_iff.mp found
  exact whole (name, value) (by simp)

namespace Record

theorem line_of_left (record : Record) (text : Text) :
    { record with context := (lineName, .text text) :: record.context : Record }.line = record.line := by
  have shown (name : Text) (known : name ∈ contextNames) :
      { record with context := (lineName, .text text) :: record.context : Record }.shownContext name =
        record.shownContext name := by
    have apart : name ≠ lineName := ne_of_mem_of_not_mem known (by decide)
    simp only [shownContext, List.lookup_cons, beq_false_of_ne apart]
  have dialect := shown _ (List.mem_cons_self : "dialect".toList ∈ contextNames)
  have platform := shown _ (List.mem_cons_of_mem _ List.mem_cons_self : "platform".toList ∈ contextNames)
  rw [line, line, fields, fields, dialect, platform]

theorem oneLine_line (record : Record) : record.line.OneLine := Value.oneLine_json _

theorem whole_fields {record : Record} (readable : Readable record.context) :
    Json.WholeFields record.fields := by
  have shown (name : Text) (known : name ∈ contextNames) :
      ∀ value ∈ (record.entry? name).toList, Json.Whole value := by
    intro value inside
    rw [Option.mem_toList, entry?] at inside
    split at inside
    · cases inside
    · exact readable name known value inside
  rw [Json.wholeFields_iff, fields_eq]
  simp only [List.forall_mem_append, List.forall_mem_cons, List.forall_mem_map]
  refine ⟨⟨⟨by simp [Json.Whole], ?_⟩, ?_⟩, fun _ _ => trivial⟩
  · exact shown _ (by simp [contextNames])
  · exact shown _ (by simp [contextNames])

/-- A line is read back as a JSON object that tells the record. -/
theorem read?_line {record : Record} (readable : Readable record.context) :
    ∃ entries, Json.read? record.line = some (.object entries) ∧ record.ToldBy entries :=
  ⟨record.fields, Json.read?_json (whole_fields readable), record.toldBy_fields⟩

end Record

end ChatMarkup
