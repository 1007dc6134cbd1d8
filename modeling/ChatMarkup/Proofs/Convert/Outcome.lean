import ChatMarkup.Proofs.Convert.Own
import ChatMarkup.Style.Source
import ChatMarkup.Value.Standard

namespace ChatMarkup

theorem map_eq_error_iff {ε α β : Type} {f : α → β} {result : Except ε α} {fault : ε} :
    result.map f = .error fault ↔ result = .error fault := by
  cases result <;> simp [Except.map]

def FailsWith {α : Type} (fault : Fault) (result : Except Fault α) : Prop :=
  ∀ other, result = .error other → other = fault

namespace FailsWith

variable {α β : Type} {fault : Fault}

theorem ok (value : α) : FailsWith fault (.ok value) := fun _ failed => nomatch failed

theorem bind {first : Except Fault α} {next : α → Except Fault β} (start : FailsWith fault first)
    (rest : ∀ value, FailsWith fault (next value)) : FailsWith fault (first >>= next) := by
  intro other failed
  cases first with
  | ok value => exact rest value other failed
  | error known =>
    cases failed
    exact start other rfl

theorem map {result : Except Fault α} (only : FailsWith fault result) (f : α → β) :
    FailsWith fault (result.map f) := fun other failed => only other (map_eq_error_iff.mp failed)

theorem mapM_error_iff {f : α → Except Fault β} {xs : List α}
    (only : ∀ x ∈ xs, FailsWith fault (f x)) {other : Fault} :
    xs.mapM f = .error other ↔ other = fault ∧ ∃ x ∈ xs, f x = .error fault := by
  induction xs with
  | nil => simp [pure, Except.pure]
  | cons x xs ih =>
    rw [List.forall_mem_cons] at only
    have rest := ih only.2
    cases first : f x with
    | error known =>
      have whole : (x :: xs).mapM f = .error known := by
        rw [List.mapM_cons, first]
        rfl
      cases only.1 known first
      simp [whole, first, eq_comm]
    | ok value =>
      cases others : xs.mapM f with
      | error known =>
        have whole : (x :: xs).mapM f = .error known := by
          rw [List.mapM_cons, first, others]
          rfl
        rw [others] at rest
        simpa [whole, first] using rest
      | ok values =>
        have whole : (x :: xs).mapM f = .ok (value :: values) := by
          rw [List.mapM_cons, first, others]
          rfl
        rw [others] at rest
        simpa [whole, first] using rest

end FailsWith

namespace Text

theorem escape_fails (reserved : List Text) (text : Text) :
    FailsWith .noReservedCharacter (text.escape reserved) := by
  intro other failed
  unfold escape at failed
  split at failed
  · cases failed
  split at failed
  · cases failed
    rfl
  · cases failed

theorem ne_nil_of_escape_error {reserved : List Text} {text : Text} {fault : Fault}
    (failed : text.escape reserved = .error fault) : text ≠ [] := by
  rintro rfl
  cases failed

end Text

namespace Span

theorem renderContent_fails (style : Style) (content : Text) :
    FailsWith .noReservedCharacter (renderContent style content) := by
  unfold renderContent
  split
  · exact Text.escape_fails style.reserved content
  · exact .ok content

theorem Grammar.render_fails (style : Style) {unit : Span} (grammar : unit.Grammar) :
    FailsWith .noReservedCharacter (unit.render style) := by
  cases grammar with
  | codeBlock | inlineCode => exact .ok _
  | bold | italic => exact .bind (renderContent_fails style _) fun _ => .ok _
  | link =>
    simp only [render, ofWrittenLink]
    split
    · exact .ok _
    · exact .bind (Text.escape_fails _ _) fun _ => .bind (renderContent_fails style _) fun _ => .ok _

end Span

namespace Placeholder

open Segment

theorem Region.escape_fails (reserved : List Text) (region : Region) :
    FailsWith .noReservedCharacter (region.escape reserved) := by
  cases region with
  | outside text => exact Text.escape_fails reserved text
  | placeholder text => exact .ok text

theorem escapeAround_build_error_iff {mark : Char} (isMark : IsMark mark) (reserved : List Text)
    {segments : List Segment} (tight : Tight segments) (free : FreeOf mark segments) {table : Table}
    (marked : table.mark = [mark]) {fault : Fault} :
    (escapeAround reserved [mark] (table.build segments).1).result = .error fault ↔
      fault = .noReservedCharacter ∧
        ∃ piece, .plain piece ∈ segments ∧ piece.escape reserved = .error .noReservedCharacter := by
  have found := regions_build isMark free marked List.not_mem_nil 0
  rw [List.nil_append] at found
  have step : (escapeAround reserved [mark] (table.build segments).1).result =
      ((regionsOf [mark] table.entries.length [] segments).mapM (Region.escape reserved)).map
        List.flatten := by
    simp only [escapeAround, found]
    cases (regionsOf [mark] table.entries.length [] segments).mapM (Region.escape reserved) <;> rfl
  rw [step, map_eq_error_iff,
    FailsWith.mapM_error_iff fun region _ => region.escape_fails reserved]
  refine and_congr_right fun _ => ⟨?_, ?_⟩
  · rintro ⟨region, member, failed⟩
    cases region with
    | placeholder text => cases failed
    | outside text =>
      have filled := Text.ne_nil_of_escape_error failed
      rcases (outside_mem_regionsOf tight (.inl rfl) filled).mp member with empty | listed
      · exact absurd empty filled
      · exact ⟨text, listed, failed⟩
  · rintro ⟨piece, listed, failed⟩
    have filled := Text.ne_nil_of_escape_error failed
    exact ⟨_, (outside_mem_regionsOf tight (.inl rfl) filled).mpr (.inr listed), failed⟩

theorem render_build_error_iff {segments : List Segment}
    (grammar : ∀ unit, .span unit ∈ segments → unit.Grammar) (style : Style) (mark : Text)
    {fault : Fault} :
    (Table.build { mark } segments).2.render style = .error fault ↔
      fault = .noReservedCharacter ∧
        ∃ unit, .span unit ∈ segments ∧ unit.render style = .error .noReservedCharacter := by
  have entries := entries_build { mark } segments
  rw [List.nil_append] at entries
  have listed {entry : Text × Span} (member : entry ∈ numbered mark 0 (spans segments)) :
      .span entry.2 ∈ segments := by
    rw [← mem_spans, ← numbered_units mark 0 (spans segments)]
    exact List.mem_map_of_mem member
  have step : (Table.build { mark } segments).2.render style =
      (numbered mark 0 (spans segments)).mapM fun entry =>
        (entry.2.render style).map fun final => (entry.1, final) := by
    rw [Table.render, entries]
    rfl
  rw [step, FailsWith.mapM_error_iff fun entry member =>
    ((grammar entry.2 (listed member)).render_fails style).map _]
  refine and_congr_right fun _ => ⟨?_, ?_⟩
  · rintro ⟨entry, member, failed⟩
    exact ⟨entry.2, listed member, map_eq_error_iff.mp failed⟩
  · rintro ⟨unit, member, failed⟩
    rw [← mem_spans, ← numbered_units mark 0 (spans segments)] at member
    obtain ⟨entry, inside, rfl⟩ := List.mem_map.mp member
    exact ⟨entry, inside, map_eq_error_iff.mpr failed⟩

end Placeholder

open Segment Placeholder

/-- Some segment cannot be written, since the style reserves a set that has no characters. -/
def Segment.Refused (style : Style) (segments : List Segment) : Prop :=
  ∃ segment ∈ segments, write style segment = .error .noReservedCharacter

namespace Segment

theorem refused_iff {style : Style} {segments : List Segment} :
    Refused style segments ↔
      (∃ piece, .plain piece ∈ segments ∧ piece.escape style.reserved = .error .noReservedCharacter) ∨
      ∃ unit, .span unit ∈ segments ∧ unit.render style = .error .noReservedCharacter := by
  constructor
  · rintro ⟨segment, member, failed⟩
    cases segment with
    | plain piece => exact .inl ⟨piece, member, failed⟩
    | span unit => exact .inr ⟨unit, member, failed⟩
  · rintro (⟨piece, member, failed⟩ | ⟨unit, member, failed⟩)
    · exact ⟨_, member, failed⟩
    · exact ⟨_, member, failed⟩

theorem not_refused_of_usable {style : Style} (usable : Text.Usable style.reserved) {segments : List Segment}
    (grammar : ∀ unit, .span unit ∈ segments → unit.Grammar) : ¬ Refused style segments := by
  rw [refused_iff]
  rintro (⟨piece, _, failed⟩ | ⟨unit, member, failed⟩)
  · rw [Text.escape_of_usable usable] at failed
    cases failed
  · rw [(grammar unit member).render_eq usable] at failed
    cases failed

end Segment

theorem convert_cases (dialect : Dialect) (style : Style) {text : Text} (filled : text ≠ []) {mark : Char}
    (chosen : Table.markCandidates.find? (· ∉ text) = some mark) :
    let result := (convert dialect style text).result
    Refused style (segments text) ∧ result = .error .noReservedCharacter ∨
      ¬ Refused style (segments text) ∧
        ((∃ output, result = .ok output) ∨ ∃ fault, fault.BreaksPlaceholder ∧ result = .error fault) := by
  obtain ⟨isMark, _, free⟩ := chosen_mark chosen
  let built := Table.build { mark := [mark] } (segments text)
  have escaping (fault : Fault) : (escapeAround style.reserved [mark] built.1).result = .error fault ↔ _ :=
    escapeAround_build_error_iff isMark style.reserved (segments_tight text) (segments_freeOf free) rfl
  have rendering (fault : Fault) : built.2.render style = .error fault ↔ _ :=
    render_build_error_iff (fun _ => segments_grammar) style [mark]
  dsimp only
  rw [result_convert dialect style filled chosen, refused_iff]
  cases escaped : (escapeAround style.reserved [mark] built.1).result with
  | error fault =>
    obtain ⟨rfl, plain⟩ := (escaping fault).mp escaped
    exact .inl ⟨.inl plain, rfl⟩
  | ok between =>
    cases rendered : built.2.render style with
    | error fault =>
      obtain ⟨rfl, span⟩ := (rendering fault).mp rendered
      exact .inl ⟨.inr span, rfl⟩
    | ok finals =>
      have sealed : ¬ ((∃ piece, .plain piece ∈ segments text ∧
            piece.escape style.reserved = .error .noReservedCharacter) ∨
          ∃ unit, .span unit ∈ segments text ∧ unit.render style = .error .noReservedCharacter) := by
        rintro (plain | span)
        · cases escaped.symm.trans ((escaping _).mpr ⟨rfl, plain⟩)
        · cases rendered.symm.trans ((rendering _).mpr ⟨rfl, span⟩)
      refine .inr ⟨sealed, ?_⟩
      cases result : (fill between finals [mark]).result with
      | ok output => exact .inl ⟨output, result⟩
      | error fault =>
        refine .inr ⟨fault, ?_, result⟩
        rcases fill_error result with rfl | ⟨hole, rfl⟩ <;> trivial

theorem convert_outcome (dialect : Dialect) (style : Style) (text : Text) :
    let result := (convert dialect style text).result
    let free := ∃ mark ∈ Table.markCandidates, mark ∉ text
    ¬ free ∧ result = .error .noFreeMark ∨
      free ∧ Refused style (segments text) ∧ result = .error .noReservedCharacter ∨
      free ∧ ¬ Refused style (segments text) ∧
        ((∃ output, result = .ok output) ∨ ∃ fault, fault.BreaksPlaceholder ∧ result = .error fault) := by
  dsimp only
  by_cases free : ∃ mark ∈ Table.markCandidates, mark ∉ text
  · by_cases empty : text = []
    · refine .inr (.inr ⟨free, ?_, .inl ⟨[], by rw [empty]; rfl⟩⟩)
      rw [empty, segments_nil]
      simp [Refused]
    · obtain ⟨mark, chosen⟩ := exists_chosen free
      rcases convert_cases dialect style empty chosen with ⟨refused, result⟩ | ⟨sealed, result⟩
      · exact .inr (.inl ⟨free, refused, result⟩)
      · exact .inr (.inr ⟨free, sealed, result⟩)
  · have taken : ∀ mark ∈ Table.markCandidates, mark ∈ text := by simpa using free
    exact .inl ⟨free, convert_of_no_mark dialect style taken⟩

theorem convertNamed_getD (dialect : Dialect) (style : Option Style) (text : Text) :
    convertNamed dialect.name style text = convert dialect (style.getD dialect.style) text := by
  cases dialect <;> rfl

theorem Dialect.ofName?_eq_none_iff {name : Text} :
    Dialect.ofName? name = none ↔ ∀ dialect : Dialect, dialect.name ≠ name := by
  have every {p : Dialect → Prop} : (∀ dialect ∈ Dialect.all, p dialect) ↔ ∀ dialect, p dialect :=
    ⟨fun known dialect => known dialect (by cases dialect <;> decide), fun all dialect _ => all dialect⟩
  rw [ofName?, List.find?_eq_none, every]
  simp

theorem convertNamed_unknown_iff {name : Text} {style : Option Style} {text : Text} :
    (convertNamed name style text).result = .error (.unknownDialect name) ↔
      ∀ dialect : Dialect, dialect.name ≠ name := by
  rw [← Dialect.ofName?_eq_none_iff]
  constructor
  · intro unknown
    cases found : Dialect.ofName? name with
    | none => rfl
    | some dialect =>
      have known : dialect.name = name := by simpa using List.find?_some found
      rw [← known, convertNamed_getD] at unknown
      have outcome := convert_outcome dialect (style.getD dialect.style) text
      grind [Fault.BreaksPlaceholder]
  · intro unknown
    simp [convertNamed, unknown]

theorem convert_style_error_iff (dialect owner : Dialect) {text : Text} {fault : Fault} :
    (convert dialect owner.style text).result = .error fault ↔
      fault = .noFreeMark ∧ ¬ ∃ mark ∈ Table.markCandidates, mark ∉ text :=
  convert_error_iff owner.usable_reserved owner.unmarked dialect

/-- How a conversion can end, for every name, style and text. -/
theorem convertNamed_outcome (name : Text) (style : Option Style) (text : Text) :
    let result := (convertNamed name style text).result
    (result = .error (.unknownDialect name) ↔ ∀ dialect : Dialect, dialect.name ≠ name) ∧
    ∀ dialect : Dialect, dialect.name = name →
      let used := style.getD dialect.style
      let free := ∃ mark ∈ Table.markCandidates, mark ∉ text
      ((∃ output, result = .ok output) ∨ result = .error .noFreeMark ∨
        (∃ fault, fault.BreaksPlaceholder ∧ result = .error fault) ∨
        result = .error .noReservedCharacter) ∧
      (result = .error .noFreeMark ↔ ¬ free) ∧
      (result = .error .noReservedCharacter ↔ free ∧ Refused used (segments text)) ∧
      (Refused used (segments text) → ¬ Text.Usable used.reserved) ∧
      (style = none ∨ (∃ own : Dialect, style = some own.style) →
        ∀ fault, result = .error fault ↔ fault = .noFreeMark ∧ ¬ free) := by
  refine ⟨convertNamed_unknown_iff, ?_⟩
  rintro dialect rfl
  rw [convertNamed_getD]
  have outcome := convert_outcome dialect (style.getD dialect.style) text
  refine ⟨?_, ?_, ?_, ?_, ?_⟩
  · grind
  · grind [Fault.BreaksPlaceholder]
  · grind [Fault.BreaksPlaceholder]
  · exact fun refused usable => not_refused_of_usable usable (fun _ => segments_grammar) refused
  · rintro (rfl | ⟨owner, rfl⟩) fault
    · exact convert_style_error_iff dialect dialect
    · exact convert_style_error_iff dialect owner

theorem convertNamed_outcome_blank :
    let style : Style := { reserved := [[]], boldDelimiter := ['\x00'] }
    let outcome (text : String) := (convertNamed "slack".toList (some style) text.toList).result
    ¬ Text.Usable style.reserved ∧ outcome "`a`b" = .error .noReservedCharacter ∧
      ((∃ output, outcome "**a**" = .ok output) ∨ outcome "**a**" = .error .noFreeMark ∨
        (∃ fault, fault.BreaksPlaceholder ∧ outcome "**a**" = .error fault) ∨
        outcome "**a**" = .error .noReservedCharacter) := by
  intro style outcome
  obtain ⟨_, known⟩ := convertNamed_outcome "slack".toList (some style) "`a`b".toList
  obtain ⟨_, _, refusal, blank, _⟩ := known .slack rfl
  obtain ⟨_, known⟩ := convertNamed_outcome "slack".toList (some style) "**a**".toList
  have refused : Refused style (segments "`a`b".toList) :=
    ⟨.plain ['b'], by decide +kernel, rfl⟩
  exact ⟨blank refused, refusal.mpr ⟨⟨'\x00', by decide, by decide⟩, refused⟩, (known .slack rfl).1⟩

/-- A style that reserves the empty text alone is accepted, and refuses the plainest text. -/
theorem convertNamed_refuses :
    ¬ ∀ (name text : Text) (fields : Fields) (style : Style),
      Style.ofSource .standard (.described fields) = .ok style →
      let result := (convertNamed name (some style) text).result
      (∃ output, result = .ok output) ∨ result = .error (.unknownDialect name) ∨
        result = .error .noFreeMark ∨ ∃ fault, fault.BreaksPlaceholder ∧ result = .error fault := by
  intro documented
  let style : Style := { reserved := [[]] }
  have accepted : Style.ofSource .standard (.described [("reserved".toList, .list [.text []])]) =
      .ok style := rfl
  have refused : Refused style (segments ['a']) := ⟨.plain ['a'], by decide +kernel, rfl⟩
  have failed : (convertNamed "slack".toList (some style) ['a']).result = .error .noReservedCharacter := by
    rcases convert_outcome .slack style ['a'] with ⟨taken, _⟩ | ⟨_, _, result⟩ | ⟨_, sealed, _⟩
    · exact absurd ⟨'\x00', by decide, by decide⟩ taken
    · exact result
    · exact absurd refused sealed
  rcases documented _ _ _ _ accepted with ⟨output, result⟩ | result | result | ⟨fault, breaks, result⟩ <;>
    cases failed.symm.trans result
  exact breaks

end ChatMarkup
