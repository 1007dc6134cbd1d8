import ChatMarkup.Placeholder.Shelf
import ChatMarkup.Proofs.Placeholder.Numbered
import ChatMarkup.Value.Standard

namespace ChatMarkup.Placeholder.Shelf

def Use.taken : Use → List Span
  | .register unit => [unit]
  | .build segments => Segment.spans segments
  | .buildText text => Segment.spans (segments text)
  | .count | .spans | .render _ | .escape _ _ | .fill _ _ => []

def Command.taken (name : Text) : Command → List Span
  | .create _ _ | .createFor _ _ => []
  | .use other call => if other = name then call.taken else []

def Command.Creates (name : Text) : Command → Prop
  | .create other _ | .createFor other _ => other = name
  | .use _ _ => False

theorem lookup_filter {name other : Text} (apart : other ≠ name) (shelf : Shelf) :
    (shelf.filter (·.1 ≠ name)).lookup other = shelf.lookup other := by
  induction shelf with
  | nil => rfl
  | cons entry rest ih =>
    obtain ⟨known, table⟩ := entry
    by_cases same : known = name
    · subst same
      simp [List.lookup_cons, beq_eq_false_iff_ne.mpr apart, ← ih]
    · simp [same, List.lookup_cons, ← ih]

theorem lookup_put (shelf : Shelf) (name other : Text) (table : Table) :
    (shelf.put name table).lookup other = if other = name then some table else shelf.lookup other := by
  by_cases same : other = name
  · simp [put, same]
  · rw [put, List.lookup_cons, beq_eq_false_iff_ne.mpr same, if_neg same, lookup_filter same]

variable (library : Validation)

theorem answer_eq_extended (table : Table) (use : Use) :
    (answer library table use).2 = table.extended use.taken := by
  cases use with
  | register unit => rfl
  | build | buildText => simp only [answer, Use.taken, Table.build_eq_extended]
  | count | spans | render | escape | fill => exact table.extended_nil.symm

theorem lookup_run {name : Text} {command : Command} (kept : ¬ command.Creates name) (shelf : Shelf) :
    (shelf.run library command).2.lookup name = (shelf.lookup name).map (·.extended (command.taken name)) := by
  cases command with
  | create other mark =>
    have apart : ¬ name = other := fun same => kept same.symm
    simp [run, Command.taken, lookup_put, apart]
  | createFor other text =>
    have apart : ¬ name = other := fun same => kept same.symm
    simp only [run]
    split <;> simp [Command.taken, lookup_put, apart]
  | use other use =>
    simp only [run]
    cases held : shelf.lookup other with
    | none =>
      by_cases same : other = name
      · subst same
        simp [held]
      · simp [Command.taken, same]
    | some table =>
      by_cases same : other = name
      · subst same
        simp [Command.taken, lookup_put, held, answer_eq_extended]
      · have apart : ¬ name = other := fun equal => same equal.symm
        simp [Command.taken, lookup_put, same, apart]

theorem lookup_runAll {name : Text} {commands : List Command}
    (kept : ∀ command ∈ commands, ¬ command.Creates name) (shelf : Shelf) :
    (shelf.runAll library commands).2.lookup name =
      (shelf.lookup name).map (·.extended (commands.flatMap (Command.taken name))) := by
  induction commands generalizing shelf with
  | nil => simp [runAll]
  | cons command rest ih =>
    rw [List.forall_mem_cons] at kept
    rw [runAll, ih kept.2, lookup_run library kept.1, Option.map_map, List.flatMap_cons]
    congr 1
    funext table
    exact table.extended_extended _ _

theorem lookup_runAll_create (shelf : Shelf) {name : Text} (mark : Text) {commands : List Command}
    (kept : ∀ command ∈ commands, ¬ command.Creates name) :
    (shelf.runAll library (.create name mark :: commands)).2.lookup name =
      some (Table.extended { mark } (commands.flatMap (Command.taken name))) := by
  simp only [runAll, run, lookup_runAll library kept, lookup_put, if_true, Option.map_some]

/-- A table holds what was handed to it since it was made, in order, whatever else went on. -/
theorem runAll_create (shelf : Shelf) (name mark : Text) (commands : List Command)
    (kept : ∀ command ∈ commands, ¬ command.Creates name) :
    ∃ table, (shelf.runAll library (.create name mark :: commands)).2.lookup name = some table ∧
      table.spans = commands.flatMap (Command.taken name) ∧
      (answer library table .count).1 = .ok (.count (commands.flatMap (Command.taken name)).length) ∧
      (table.entries.map (·.1) = (List.range table.entries.length).map fun n =>
        mark ++ 'P' :: Nat.toDigits 10 n ++ mark) ∧
      (table.entries.map (·.1)).Nodup ∧
      (∀ left right, let first := table.build left
        table.build (left ++ right) = (first.1 ++ (first.2.build right).1, (first.2.build right).2)) ∧
      (∀ earlier later, commands = earlier ++ later →
        ∃ before, (shelf.runAll library (.create name mark :: earlier)).2.lookup name = some before ∧
          before.entries <+: table.entries) ∧
      (∀ c, mark = [c] → IsMark c → ∀ one ∈ table.entries, ∀ other ∈ table.entries,
        one.1 ≠ other.1 → ¬ one.1 <:+: other.1) ∧
      ∀ style : Style, Text.Usable style.reserved →
        (∀ unit ∈ table.spans, ∀ kind, unit.kind ≠ .other kind) →
        ∃ finals, table.render style = .ok finals ∧ finals.map (·.1) = table.entries.map (·.1) ∧
          table.spans.mapM (Span.render style) = .ok (finals.map (·.2)) := by
  have placeholders : (numbered mark 0 (commands.flatMap (Command.taken name))).map (·.1) =
      (List.range (commands.flatMap (Command.taken name)).length).map (Table.placeholder mark) := by
    rw [numbered_placeholders, List.range_eq_range']
  refine ⟨_, lookup_runAll_create library shelf mark kept, ?_, ?_, ?_, ?_, Table.build_append _, ?_, ?_, ?_⟩
  · rw [Table.extended_new]
    exact numbered_units mark 0 _
  · simp [answer, Table.extended_new]
  · rw [Table.extended_new, length_numbered, placeholders]
    rfl
  · rw [Table.extended_new, placeholders]
    exact List.nodup_range.map (placeholder_injective mark)
  · rintro earlier later rfl
    rw [List.forall_mem_append] at kept
    refine ⟨_, lookup_runAll_create library shelf mark kept.1, ?_⟩
    rw [List.flatMap_append, ← Table.extended_extended]
    exact Table.entries_prefix_extended _ _
  · rintro c rfl isMark one member other listed apart
    exact isMark.numbered_apart member listed apart
  · intro style usable known
    refine ⟨_, Table.render_of_known usable known, by simp [Function.comp_def], ?_⟩
    rw [mapM_ok fun unit member => Span.render_of_known usable (known unit member)]
    simp [Table.spans, Function.comp_def]

theorem runAll_create_mixed :
    let bold := Span.enclosed .bold ['*', '*'] ['b']
    let commands := [
      .use "r".toList (.register bold), .create "other".toList ['\x01'],
      .use "other".toList (.register bold), .use "r".toList (.render (.named "irc".toList)),
      .use "r".toList (.build [.plain ['x'], .span bold, .span bold])]
    (∀ command ∈ commands, ¬ command.Creates "r".toList) ∧
    ∃ table : Table, (runAll .standard [] (.create "r".toList ['\x00'] :: commands)).2.lookup "r".toList = some table ∧
      table.spans = [bold, bold, bold] ∧ (table.entries.map (·.1)).Nodup ∧
      IsMark '\x00' ∧ (∀ one ∈ table.entries, ∀ other ∈ table.entries,
        one.1 ≠ other.1 → ¬ one.1 <:+: other.1) ∧
      ∃ finals, table.render .telegram = .ok finals ∧ finals.map (·.1) = table.entries.map (·.1) := by
  intro bold commands
  have kept : ∀ command ∈ commands, ¬ command.Creates "r".toList := by
    simp [commands, Command.Creates]
  have isMark : IsMark '\x00' := ⟨by decide, by decide⟩
  obtain ⟨table, held, taken, _, _, distinct, _, _, apart, rendered⟩ :=
    runAll_create .standard [] "r".toList ['\x00'] commands kept
  have units : table.spans = [bold, bold, bold] := taken
  have known : ∀ unit ∈ table.spans, ∀ kind, unit.kind ≠ .other kind := by
    simp [units, bold, Span.enclosed]
  obtain ⟨finals, done, order, _⟩ := rendered .telegram (by decide) known
  exact ⟨kept, table, held, units, distinct, isMark, apart '\x00' rfl isMark, finals, done, order⟩

end ChatMarkup.Placeholder.Shelf
