import ChatMarkup.Convert
import ChatMarkup.Proofs.Placeholder.Numbered
import ChatMarkup.Proofs.Span.Rendering

namespace ChatMarkup

def Fault.BreaksPlaceholder : Fault → Prop
  | .unterminated _ | .missing _ | .leftover _ => True
  | _ => False

namespace Segment

def write (style : Style) : Segment → Except Fault Text
  | .plain text => text.escape style.reserved
  | .span unit => unit.render style

def Leaks (style : Style) (mark : Char) (segments : List Segment) : Prop :=
  ∃ unit ∈ spans segments, ∃ final, unit.render style = .ok final ∧ mark ∈ final

theorem mem_spans {segments : List Segment} {unit : Span} :
    unit ∈ spans segments ↔ .span unit ∈ segments := by
  rw [spans, List.mem_filterMap]
  constructor
  · rintro ⟨segment, member, same⟩
    cases segment with
    | plain text => cases same
    | span other =>
      cases same
      exact member
  · intro member
    exact ⟨_, member, rfl⟩

theorem mem_source {segments : List Segment} {segment : Segment} (member : segment ∈ segments)
    {c : Char} (inside : c ∈ segment.raw) : c ∈ source segments :=
  List.mem_flatMap.mpr ⟨segment, member, inside⟩

theorem segments_freeOf {mark : Char} {text : Text} (free : mark ∉ text) :
    FreeOf mark (segments text) := by
  intro piece member inside
  have within := mem_source member inside
  rw [source_segments] at within
  exact free within

def written (style : Style) (segment : Segment) : Text :=
  rawWith (Span.written style) (segment.escapePlain style.reserved.flatten)

@[simp] theorem written_plain (style : Style) (text : Text) :
    written style (.plain text) = Text.escapeChars style.reserved.flatten text := rfl

@[simp] theorem written_span (style : Style) (unit : Span) :
    written style (.span unit) = unit.written style := rfl

theorem mapM_write {style : Style} (usable : Text.Usable style.reserved) {parts : List Segment}
    (grammar : ∀ unit, .span unit ∈ parts → unit.Grammar) :
    parts.mapM (write style) = .ok (parts.map (written style)) := by
  apply Placeholder.mapM_ok
  intro segment member
  cases segment with
  | plain piece => exact Text.escape_of_usable usable piece
  | span unit => exact (grammar unit member).render_eq usable

def writeAll (style : Style) (parts : List Segment) : Except Fault Text :=
  (parts.mapM (write style)).map List.flatten

theorem writeAll_ok {style : Style} (usable : Text.Usable style.reserved) {parts : List Segment}
    (grammar : ∀ unit, .span unit ∈ parts → unit.Grammar) :
    writeAll style parts = .ok (parts.flatMap (written style)) := by
  rw [writeAll, mapM_write usable grammar, List.flatMap_def]
  rfl

theorem write_segments {style : Style} (usable : Text.Usable style.reserved) (text : Text) :
    (segments text).mapM (write style) = .ok ((segments text).map fun segment =>
      rawWith (Span.written style) (segment.escapePlain style.reserved.flatten)) :=
  mapM_write usable fun _ => segments_grammar

end Segment

open Segment Placeholder

theorem markCandidates_isMark {mark : Char} (known : mark ∈ Table.markCandidates) :
    IsMark mark ∧ mark ≠ '\\' := by
  have every : Table.markCandidates.all fun mark =>
      mark ≠ 'P' && mark.isDigit = false && mark ≠ '\\' := by decide
  simpa [IsMark] using List.all_eq_true.mp every mark known

theorem chosen_mark {text : Text} {mark : Char}
    (chosen : Table.markCandidates.find? (· ∉ text) = some mark) :
    IsMark mark ∧ mark ≠ '\\' ∧ mark ∉ text := by
  obtain ⟨isMark, visible⟩ := markCandidates_isMark (List.mem_of_find?_eq_some chosen)
  exact ⟨isMark, visible, by simpa using List.find?_some chosen⟩

theorem render_table {style : Style} (usable : Text.Usable style.reserved) (text mark : Text) :
    (Table.build { mark } (segments text)).2.render style =
      .ok ((numbered mark 0 (spans (segments text))).map fun entry =>
        (entry.1, entry.2.written style)) := by
  have known : ∀ unit ∈ Table.spans (Table.build { mark } (segments text)).2, ∀ name,
      unit.kind ≠ .other name := by
    intro unit member
    rw [Table.spans_build, Table.spans, List.map_nil, List.nil_append] at member
    exact (segments_grammar (mem_spans.mp member)).known
  have entries := entries_build { mark } (segments text)
  rw [List.nil_append] at entries
  rw [Table.render_of_known usable known, entries]
  rfl

theorem result_convert (dialect : Dialect) (style : Style) {text : Text} (filled : text ≠ [])
    {mark : Char} (chosen : Table.markCandidates.find? (· ∉ text) = some mark) :
    let built := Table.build { mark := [mark] } (segments text)
    (convert dialect style text).result =
      (escapeAround style.reserved [mark] built.1).result.bind fun escaped =>
        (built.2.render style).bind fun finals => (fill escaped finals [mark]).result := by
  have table : (Table.forText text).result = .ok { mark := [mark] } := by
    simp only [Table.forText, chosen, Reported.result_pure]
  simp only [convert, if_neg filled, Reported.result_within, Reported.result_bind,
    Reported.result_ofExcept, Reported.result_emit, Reported.result_pure, table, Table.mark_build]
  simp only [bind, Except.bind]
  cases (escapeAround _ _ _).result with
  | error fault => rfl
  | ok escaped =>
    cases Table.render _ _ with
    | error fault => rfl
    | ok finals =>
      dsimp only
      cases (fill escaped finals [mark]).result <;> rfl

theorem convert_of_mark {style : Style} (usable : Text.Usable style.reserved) (dialect : Dialect)
    {text : Text} (filled : text ≠ []) {mark : Char}
    (chosen : Table.markCandidates.find? (· ∉ text) = some mark) :
    (convert dialect style text).result =
      (fill (Table.build { mark := [mark] }
          ((segments text).map (escapePlain style.reserved.flatten))).1
        ((numbered [mark] 0 (spans (segments text))).map fun entry =>
          (entry.1, entry.2.written style)) [mark]).result := by
  obtain ⟨isMark, _, free⟩ := chosen_mark chosen
  have escaped : (escapeAround style.reserved [mark]
        (Table.build { mark := [mark] } (segments text)).1).result =
      .ok (Table.build { mark := [mark] }
        ((segments text).map (escapePlain style.reserved.flatten))).1 :=
    escapeAround_build isMark usable (segments_tight text) (segments_freeOf free) rfl
  rw [result_convert dialect style filled chosen, escaped, render_table usable text [mark]]
  simp only [Except.bind]

theorem convert_of_no_mark (dialect : Dialect) (style : Style) {text : Text}
    (taken : ∀ mark ∈ Table.markCandidates, mark ∈ text) :
    (convert dialect style text).result = .error .noFreeMark := by
  have filled : text ≠ [] := List.ne_nil_of_mem (taken '\x00' (by decide))
  have none : Table.markCandidates.find? (· ∉ text) = none := by
    rw [List.find?_eq_none]
    intro mark member
    simp [taken mark member]
  have table : (Table.forText text).result = .error .noFreeMark := by
    simp only [Table.forText, none, Reported.result_raise]
  simp only [convert, if_neg filled, Reported.result_within, Reported.result_bind,
    table]
  rfl

theorem leaks_iff {style : Style} (usable : Text.Usable style.reserved) (text : Text) (mark : Char) :
    Leaks style mark (segments text) ↔ ∃ unit ∈ spans (segments text), mark ∈ unit.written style := by
  have written {unit : Span} (member : unit ∈ spans (segments text)) :=
    (segments_grammar (mem_spans.mp member)).render_eq usable
  constructor
  · rintro ⟨unit, member, final, rendered, inside⟩
    rw [written member] at rendered
    cases rendered
    exact ⟨unit, member, inside⟩
  · rintro ⟨unit, member, inside⟩
    exact ⟨unit, member, _, written member, inside⟩

theorem convert_of_leak {style : Style} (usable : Text.Usable style.reserved) (dialect : Dialect)
    {text : Text} (filled : text ≠ []) {mark : Char}
    (chosen : Table.markCandidates.find? (· ∉ text) = some mark)
    (leak : Leaks style mark (segments text)) :
    ∃ fault, fault.BreaksPlaceholder ∧ (convert dialect style text).result = .error fault := by
  obtain ⟨isMark, visible, free⟩ := chosen_mark chosen
  rw [convert_of_mark usable dialect filled chosen]
  cases result : (fill _ _ _).result with
  | error fault =>
    refine ⟨fault, ?_, rfl⟩
    rcases fill_error result with rfl | ⟨hole, rfl⟩ <;> trivial
  | ok output =>
    obtain ⟨unit, member, inside⟩ := (leaks_iff usable text mark).mp leak
    rw [← numbered_units [mark] 0 (spans (segments text))] at member
    obtain ⟨⟨hole, _⟩, listed, rfl⟩ := List.mem_map.mp member
    have unmarked := (segments_freeOf free).escapePlain visible style.reserved.flatten
    have before := count_build isMark unmarked (rfl : Table.mark { mark := [mark] } = [mark])
    have named (entry : Text × Span) (known : entry ∈ numbered [mark] 0 (spans (segments text))) :=
      placeholder_of_numbered known
    have holes := isMark.count_placeholders named
    rw [length_numbered] at holes
    -- filling has used up the two marks of each placeholder, so the finals can have none
    have balance := count_fill result
    simp only [before, spans_escapePlain, List.flatMap_map, holes] at balance
    have none : ((numbered [mark] 0 (spans (segments text))).flatMap fun entry =>
        entry.2.written style).count mark = 0 := by omega
    exact absurd (List.mem_flatMap.mpr ⟨_, listed, inside⟩) (List.count_eq_zero.mp none)

theorem convert_of_no_leak {style : Style} (usable : Text.Usable style.reserved) (dialect : Dialect)
    {text : Text} (filled : text ≠ []) {mark : Char}
    (chosen : Table.markCandidates.find? (· ∉ text) = some mark)
    (sealed : ¬ Leaks style mark (segments text)) :
    (convert dialect style text).result = .ok ((segments text).flatMap fun segment =>
      rawWith (Span.written style) (segment.escapePlain style.reserved.flatten)) := by
  obtain ⟨isMark, visible, free⟩ := chosen_mark chosen
  have unmarked := (segments_freeOf free).escapePlain visible style.reserved.flatten
  rw [leaks_iff usable] at sealed
  have clean : ∀ unit ∈ spans ((segments text).map (escapePlain style.reserved.flatten)),
      mark ∉ unit.written style := by
    rw [spans_escapePlain]
    exact fun unit member inside => sealed ⟨unit, member, inside⟩
  have done := fill_build unmarked clean (rfl : Table.mark { mark := [mark] } = [mark]) List.not_mem_nil
  rw [spans_escapePlain, List.nil_append, List.nil_append, List.flatMap_map] at done
  rw [convert_of_mark usable dialect filled chosen]
  exact done

theorem eq_of_convert {style : Style} (usable : Text.Usable style.reserved) {dialect : Dialect}
    {text output : Text} (done : (convert dialect style text).result = .ok output) :
    output = (segments text).flatMap (written style) := by
  by_cases filled : text = []
  · subst filled
    cases done
    rw [segments_nil, List.flatMap_nil]
  cases chosen : Table.markCandidates.find? (· ∉ text) with
  | none =>
    have taken : ∀ mark ∈ Table.markCandidates, mark ∈ text := by
      simpa using List.find?_eq_none.mp chosen
    rw [convert_of_no_mark dialect style taken] at done
    cases done
  | some mark =>
    by_cases leak : Leaks style mark (segments text)
    · obtain ⟨fault, _, failed⟩ := convert_of_leak usable dialect filled chosen leak
      rw [failed] at done
      cases done
    · rw [convert_of_no_leak usable dialect filled chosen leak] at done
      exact (Except.ok.inj done).symm

theorem convertNamed_name (dialect : Dialect) (style : Style) (text : Text) :
    convertNamed dialect.name (some style) text = convert dialect style text := by
  cases dialect <;> rfl

theorem convertNamed_own (dialect : Dialect) (text : Text) :
    convertNamed dialect.name none text = convert dialect dialect.style text := by
  cases dialect <;> rfl

/-- A text is converted segment by segment, if a mark is free and the style puts none into a span. -/
theorem convertNamed_piecewise (dialect : Dialect) (style : Style) (text : Text)
    (usable : Text.Usable style.reserved) :
    let result := (convertNamed dialect.name (some style) text).result
    (text = [] → result = .ok []) ∧
    (text ≠ [] → (∀ mark ∈ Table.markCandidates, mark ∈ text) → result = .error .noFreeMark) ∧
    ∀ mark, text ≠ [] → Table.markCandidates.find? (· ∉ text) = some mark →
      ((∃ fault, fault.BreaksPlaceholder ∧ result = .error fault) ↔
        Leaks style mark (segments text)) ∧
      (¬ Leaks style mark (segments text) →
        ∃ parts, (segments text).mapM (write style) = .ok parts ∧ result = .ok parts.flatten) := by
  dsimp only
  rw [convertNamed_name]
  refine ⟨?_, fun _ taken => convert_of_no_mark dialect style taken, fun mark filled chosen => ⟨?_, ?_⟩⟩
  · rintro rfl
    rfl
  · refine ⟨?_, convert_of_leak usable dialect filled chosen⟩
    rintro ⟨fault, _, failed⟩
    by_cases leak : Leaks style mark (segments text)
    · exact leak
    · rw [convert_of_no_leak usable dialect filled chosen leak] at failed
      cases failed
  · intro sealed
    refine ⟨_, write_segments usable text, ?_⟩
    rw [convert_of_no_leak usable dialect filled chosen sealed, List.flatMap_def]

theorem convertNamed_piecewise_hostile :
    let style : Style := {
      reserved := [['P'], ['0', '1'], ['\\'], ['\x00']]
      italicDelimiter := ['\x00'] }
    let outcome (text : String) := (convertNamed "slack".toList (some style) text.toList).result
    Text.Usable style.reserved ∧
    (∃ parts, (segments "`a`P1`b`".toList).mapM (write style) = .ok parts ∧
      outcome "`a`P1`b`" = .ok parts.flatten) ∧
    ∃ fault, fault.BreaksPlaceholder ∧ outcome "`a`_P0_" = .error fault := by
  intro style outcome
  have usable : Text.Usable style.reserved := by decide
  have plain := convertNamed_piecewise .slack style "`a`P1`b`".toList usable
  have leaking := convertNamed_piecewise .slack style "`a`_P0_".toList usable
  refine ⟨usable, ?_, ?_⟩
  · apply (plain.2.2 '\x00' (by decide) (by decide)).2
    rw [leaks_iff usable]
    decide +kernel
  · apply (leaking.2.2 '\x00' (by decide) (by decide)).1.mpr
    rw [leaks_iff usable]
    decide +kernel

end ChatMarkup
