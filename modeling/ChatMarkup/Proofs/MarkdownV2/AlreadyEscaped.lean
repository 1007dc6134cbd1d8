import ChatMarkup.Proofs.MarkdownV2.ReadBack
import ChatMarkup.Proofs.Text.Guarded
import ChatMarkup.Snippet
import Mathlib.Data.List.Basic

namespace ChatMarkup

def Span.underscored (unit : Span) : Text :=
  if unit.delimiter = ['*'] then '_' :: unit.content ++ ['_'] else unit.raw

namespace MarkdownV2

open Segment
open Style (markdownV2Reserved)

theorem guarded_italic {mark : Char} (visible : mark ≠ '\\') {before : Option Char} {content : Text}
    (guarded : Text.Guarded markdownV2Reserved before ([mark] ++ content ++ [mark])) :
    Text.escapeChars markdownV2Reserved content = content := by
  refine Text.escapeChars_of_guarded (by decide) (guarded.piece ?_)
  simpa using visible

theorem written_of_guarded {unit : Span} (grammar : unit.Grammar) {before : Option Char}
    (guarded : Text.Guarded markdownV2Reserved before unit.raw) :
    unit.written .telegram = unit.underscored := by
  -- fences, pairs of asterisks and the middle of a link have two reserved characters side by side
  cases grammar with
  | @codeBlock content =>
    refine absurd ?_ (guarded.not_adjacent (c := '\x60') (d := '\x60') (by decide) (by decide))
    exact ⟨[], '\x60' :: content ++ Span.fence, rfl⟩
  | @bold content =>
    refine absurd ?_ (guarded.not_adjacent (c := '*') (d := '*') (by decide) (by decide))
    exact ⟨[], content ++ ['*', '*'], rfl⟩
  | @link label target =>
    refine absurd ?_ (guarded.not_adjacent (c := ']') (d := '(') (by decide) (by decide))
    exact ⟨'[' :: label, target ++ [')'], by simp [Span.ofWrittenLink]⟩
  | inlineCode => rfl
  | @italic mark content known =>
    have visible : mark ≠ '\\' := by
      rcases known with rfl | rfl <;> decide
    have kept := guarded_italic visible guarded
    have form : (Span.enclosed .italic [mark] content).written .telegram =
        '_' :: Text.escapeChars markdownV2Reserved content ++ ['_'] := rfl
    rw [form, kept]
    rcases known with rfl | rfl <;> rfl

theorem written_segments_of_guarded {text : Text} (guarded : Text.Guarded markdownV2Reserved none text) :
    ∀ segment ∈ segments text, written .telegram segment = rawWith Span.underscored segment := by
  intro segment member
  rw [← source_segments text] at guarded
  cases segment with
  | plain piece =>
    obtain ⟨left, right, whole, front, _⟩ := (segments_tight text).between member
    rw [whole] at guarded
    refine Text.escapeChars_of_guarded (by decide) (guarded.piece ?_)
    rw [Option.or_none]
    rcases front with front | ⟨unit, known, front⟩
    · simp [front]
    · obtain ⟨c, last, visible⟩ := (segments_grammar known).last_visible
      simpa [front, last] using visible
  | span unit =>
    obtain ⟨front, back, whole⟩ := List.append_of_mem member
    rw [whole, source_append, source_cons, ← List.append_assoc] at guarded
    exact written_of_guarded (segments_grammar member)
      (Text.guarded_append.mp (Text.guarded_append.mp guarded).1).2

theorem enclosed_of_asterisk {unit : Span} (grammar : unit.Grammar) (asterisk : unit.delimiter = ['*']) :
    ∃ content, unit = .enclosed .italic ['*'] content ∧ '\n' ∉ content := by
  cases grammar with
  | codeBlock | inlineCode | bold | link => cases asterisk
  | @italic mark content _ _ inside =>
    cases asterisk
    exact ⟨content, rfl, fun member => (inside '\n' member).2 rfl⟩

theorem length_underscored {unit : Span} (grammar : unit.Grammar) :
    unit.underscored.length = unit.raw.length := by
  by_cases asterisk : unit.delimiter = ['*']
  · obtain ⟨content, rfl, _⟩ := enclosed_of_asterisk grammar asterisk
    simp [Span.underscored, Span.enclosed]
  · rw [Span.underscored, if_neg asterisk]

theorem underscored_eq_raw_iff {unit : Span} (grammar : unit.Grammar) :
    unit.underscored = unit.raw ↔ unit.delimiter ≠ ['*'] := by
  constructor
  · intro same asterisk
    obtain ⟨content, rfl, _⟩ := enclosed_of_asterisk grammar asterisk
    cases same
  · intro other
    rw [Span.underscored, if_neg other]

theorem flatMap_eq_of_length {α β : Type} {f g : α → List β} {xs : List α}
    (lengths : ∀ x ∈ xs, (f x).length = (g x).length) (same : xs.flatMap f = xs.flatMap g) :
    ∀ x ∈ xs, f x = g x := by
  induction xs with
  | nil => simp
  | cons x xs ih =>
    rw [List.forall_mem_cons] at lengths ⊢
    obtain ⟨first, rest⟩ := List.append_inj same lengths.1
    exact ⟨first, ih lengths.2 rest⟩

theorem underscored_eq_source_iff (text : Text) :
    (segments text).flatMap (rawWith Span.underscored) = text ↔
      ∀ unit, .span unit ∈ segments text → unit.delimiter ≠ ['*'] := by
  constructor
  · intro same unit member
    -- underscores take no more room than asterisks, so the texts agree segment by segment
    have lengths : ∀ segment ∈ segments text,
        (rawWith Span.underscored segment).length = segment.raw.length := by
      intro segment member
      cases segment with
      | plain piece => rfl
      | span unit => exact length_underscored (segments_grammar member)
    have each := flatMap_eq_of_length lengths (same.trans (source_segments text).symm)
    exact (underscored_eq_raw_iff (segments_grammar member)).mp (each (.span unit) member)
  · intro others
    have each : ∀ segment ∈ segments text, rawWith Span.underscored segment = segment.raw := by
      intro segment member
      cases segment with
      | plain piece => rfl
      | span unit => exact (underscored_eq_raw_iff (segments_grammar member)).mpr (others unit member)
    exact (List.flatMap_congr each).trans (source_segments text)

theorem asterisks_of_escaped {text : Text} (visible : '\\' ∉ text) {unit : Span}
    (member : .span unit ∈ segments (Text.escapeChars markdownV2Reserved text))
    (asterisk : unit.delimiter = ['*']) :
    ∃ front inner back, text = front ++ '*' :: inner ++ '*' :: back ∧ '\n' ∉ inner := by
  obtain ⟨content, rfl, oneLine⟩ := enclosed_of_asterisk (segments_grammar member) asterisk
  obtain ⟨before, after, whole⟩ := List.append_of_mem member
  let bare : Text → Text := List.filter (· ≠ '\\')
  have itself : bare text = text := by
    rw [List.filter_eq_self]
    intro c inside
    exact decide_eq_true fun same => visible (same ▸ inside)
  have unescaped : bare (Text.escapeChars markdownV2Reserved text) = text :=
    (Text.filter_escapeChars (by decide) markdownV2Reserved text).trans itself
  refine ⟨bare (source before), bare content, bare (source after), ?_, ?_⟩
  · calc
      text = bare (source (segments (Text.escapeChars markdownV2Reserved text))) := by
        rw [source_segments, unescaped]
      _ = _ := by simp [whole, bare, raw, Span.enclosed]
  · exact fun inside => oneLine (List.mem_filter.mp inside |>.1)

/-- Escaped text is copied through, but for pairs of asterisks taken as emphasis. -/
theorem convertNamed_escaped (text : Text) (visible : '\\' ∉ text)
    (free : ∃ mark ∈ Placeholder.Table.markCandidates, mark ∉ text) :
    ∃ escaped output, Dialect.telegram.plain text = .ok escaped ∧
      (convertNamed "telegram".toList none escaped).result = .ok output ∧
      output = (segments escaped).flatMap (rawWith Span.underscored) ∧
      (output = escaped ↔ ∀ unit, .span unit ∈ segments escaped → unit.delimiter ≠ ['*']) ∧
      ((∀ front inner back, text = front ++ '*' :: inner ++ '*' :: back → '\n' ∈ inner) →
        output = escaped) := by
  have stillFree : ∃ mark ∈ Placeholder.Table.markCandidates,
      mark ∉ Text.escapeChars markdownV2Reserved text := by
    obtain ⟨mark, known, absent⟩ := free
    refine ⟨mark, known, fun inside => ?_⟩
    rcases Text.mem_escapeChars inside with same | inside
    · exact (markCandidates_isMark known).2 same
    · exact absent inside
  have guarded := Text.guarded_escapeChars (by decide : '\\' ∉ markdownV2Reserved) none text
  have copied : (segments (Text.escapeChars markdownV2Reserved text)).flatMap (written .telegram) =
      (segments (Text.escapeChars markdownV2Reserved text)).flatMap (rawWith Span.underscored) :=
    List.flatMap_congr (written_segments_of_guarded guarded)
  refine ⟨_, _, Text.escape_of_usable (telegram_usable true) text, convertNamed_telegram stillFree,
    copied, ?_, ?_⟩
  · rw [flatten_reserved_telegram, copied]
    exact underscored_eq_source_iff _
  · intro apart
    rw [flatten_reserved_telegram, copied, underscored_eq_source_iff]
    intro unit member asterisk
    obtain ⟨front, inner, back, whole, oneLine⟩ := asterisks_of_escaped visible member asterisk
    exact oneLine (apart front inner back whole)

theorem convertNamed_escaped_code :
    let text := "`*a*` _b_ [c](d)\n1 * 2".toList
    '\\' ∉ text ∧ (∃ mark ∈ Placeholder.Table.markCandidates, mark ∉ text) ∧
    ∃ escaped output, Dialect.telegram.plain text = .ok escaped ∧
      (convertNamed "telegram".toList none escaped).result = .ok output ∧ output = escaped := by
  intro text
  have visible : '\\' ∉ text := by decide
  have free : ∃ mark ∈ Placeholder.Table.markCandidates, mark ∉ text := ⟨'\x00', by decide, by decide⟩
  obtain ⟨escaped, output, plain, done, _, unchanged, _⟩ := convertNamed_escaped text visible free
  refine ⟨visible, free, escaped, output, plain, done, unchanged.mpr ?_⟩
  cases plain
  have others : ∀ unit ∈ spans (segments "\\`\\*a\\*\\` \\_b\\_ \\[c\\]\\(d\\)\n1 \\* 2".toList),
      unit.delimiter ≠ ['*'] := by decide +kernel
  exact fun unit member => others unit (mem_spans.mpr member)

/-- Escaped asterisks around a word are read as emphasis nevertheless. -/
theorem convertNamed_escaped_asterisks :
    ¬ ∀ text escaped : Text, '\\' ∉ text →
      (∃ mark ∈ Placeholder.Table.markCandidates, mark ∉ text) →
      Dialect.telegram.plain text = .ok escaped →
      (convertNamed "telegram".toList none escaped).result = .ok escaped := by
  intro fixed
  have free : ∃ mark ∈ Placeholder.Table.markCandidates, mark ∉ "*a*".toList :=
    ⟨'\x00', by decide, by decide⟩
  have done := fixed "*a*".toList "\\*a\\*".toList (by decide) free rfl
  have output := eq_of_convertNamed_telegram done
  revert output
  decide +kernel

end MarkdownV2

end ChatMarkup
