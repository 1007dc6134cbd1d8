import ChatMarkup.Proofs.MarkdownV2.ReadBack

namespace ChatMarkup.MarkdownV2

open Segment
open Style (markdownV2Reserved)

theorem written_ends {unit : Span} (grammar : unit.Grammar) :
    ∃ opening inner closing, unit.written .telegram = opening :: inner ++ [closing] ∧
      opening ∈ ['*', '_', '[', '\x60'] ∧ closing ≠ '\\' ∧
      (opening = '_' ↔ unit.kind = .italic) ∧ (closing = '_' ↔ unit.kind = .italic) ∧
      (unit.kind = .italic → inner = Text.escapeChars markdownV2Reserved unit.content) := by
  cases grammar with
  | @codeBlock content =>
    refine ⟨'\x60', '\x60' :: '\x60' :: content ++ ['\x60', '\x60'], '\x60', ?_, ?_⟩
    · simp [Span.written, Span.enclosed, Span.fence]
    · simp [Span.enclosed]
  | @inlineCode content =>
    refine ⟨'\x60', content, '\x60', rfl, ?_⟩
    simp [Span.enclosed]
  | @bold content =>
    refine ⟨'*', Text.escapeChars markdownV2Reserved content, '*', rfl, ?_⟩
    simp [Span.enclosed]
  | @italic mark content =>
    refine ⟨'_', Text.escapeChars markdownV2Reserved content, '_', rfl, ?_⟩
    simp [Span.enclosed]
  | @link label target =>
    let content := Text.escapeChars markdownV2Reserved (label.unprotect ']')
    let place := Text.escapeChars markdownV2Reserved (target.unprotect ')')
    have form : (Span.ofWrittenLink label target).written .telegram =
        '[' :: content ++ ']' :: '(' :: place ++ [')'] := rfl
    refine ⟨'[', content ++ ']' :: '(' :: place, ')', ?_, ?_⟩
    · rw [form]
      simp
    · simp [Span.ofWrittenLink]

theorem trailingBackslashes_append_written {parts : List Segment}
    (grammar : ∀ unit, .span unit ∈ parts → unit.Grammar) {before other : Text}
    (same : before.trailingBackslashes = other.trailingBackslashes) :
    (before ++ parts.flatMap (written .telegram)).trailingBackslashes =
      (other ++ source parts).trailingBackslashes := by
  induction parts generalizing before other with
  | nil => simpa using same
  | cons segment parts ih =>
    rw [List.flatMap_cons, source_cons, ← List.append_assoc, ← List.append_assoc]
    apply ih fun unit member => grammar unit (List.mem_cons_of_mem _ member)
    cases segment with
    | plain piece =>
      rw [written_plain]
      exact (Text.trailingBackslashes_escapeChars (by decide) before piece).trans
        (Text.trailingBackslashes_append same piece)
    | span unit =>
      -- a span ends in a delimiter, as it is written and as it was
      have form := grammar unit List.mem_cons_self
      obtain ⟨opening, inner, closing, whole, _, visible, _⟩ := written_ends form
      obtain ⟨last, ends, apart⟩ := form.last_visible
      rw [written_span, whole, raw, Text.trailingBackslashes_of_last List.getLast?_concat visible,
        Text.trailingBackslashes_of_last ends apart]

theorem trailingBackslashes_flatMap_written {parts : List Segment}
    (grammar : ∀ unit, .span unit ∈ parts → unit.Grammar) :
    Text.trailingBackslashes (parts.flatMap (written .telegram)) = (source parts).trailingBackslashes :=
  trailingBackslashes_append_written grammar (rfl : Text.trailingBackslashes [] = _)

theorem converted_around {text output : Text}
    (done : (convertNamed "telegram".toList none text).result = .ok output) {front back : List Segment}
    (found : segments text = front ++ back) :
    output = front.flatMap (written .telegram) ++ back.flatMap (written .telegram) ∧
      (∀ unit, .span unit ∈ front → unit.Grammar) ∧ ∀ unit, .span unit ∈ back → unit.Grammar := by
  refine ⟨?_, fun unit member => ?_, fun unit member => ?_⟩
  · rw [eq_of_convertNamed_telegram done, found, List.flatMap_append]
  · exact segments_grammar (found ▸ List.mem_append_left _ member)
  · exact segments_grammar (found ▸ List.mem_append_right _ member)

/-- As many backslashes stand in front of a span in the output as in the text. -/
theorem opening_backslashes (text output : Text)
    (done : (convertNamed "telegram".toList none text).result = .ok output)
    (front back : List Segment) (unit : Span) (found : segments text = front ++ .span unit :: back) :
    ∃ before opening inner after, output = before ++ opening :: inner ++ after ∧
      writeAll .telegram front = .ok before ∧ unit.render .telegram = .ok (opening :: inner) ∧
      writeAll .telegram back = .ok after ∧ opening ∈ ['*', '_', '[', '\x60'] ∧
      before.trailingBackslashes = (source front).trailingBackslashes := by
  obtain ⟨whole, left, others⟩ := converted_around done found
  have own := others unit List.mem_cons_self
  have right : ∀ other, .span other ∈ back → other.Grammar :=
    fun other member => others other (List.mem_cons_of_mem _ member)
  have usable : Text.Usable Style.telegram.reserved := telegram_usable true
  obtain ⟨opening, inner, closing, form, known, _⟩ := written_ends own
  refine ⟨_, opening, inner ++ [closing], _, ?_, writeAll_ok usable left, ?_,
    writeAll_ok usable right, known, trailingBackslashes_flatMap_written left⟩
  · simp [whole, form]
  · rw [own.render_eq usable, form]
    rfl

theorem opening_backslashes_pair :
    let text := "`a`\\\\*b*".toList
    let front : List Segment := [.span (.enclosed .inlineCode Span.backtick ['a']), .plain ['\\', '\\']]
    let unit : Span := .enclosed .italic ['*'] ['b']
    (convertNamed "telegram".toList none text).result = .ok "`a`\\\\_b_".toList ∧
    segments text = front ++ [.span unit] ∧
    ∃ before opening inner after, "`a`\\\\_b_".toList = before ++ opening :: inner ++ after ∧
      writeAll .telegram front = .ok before ∧ unit.render .telegram = .ok (opening :: inner) ∧
      writeAll .telegram [] = .ok after ∧ opening ∈ ['*', '_', '[', '\x60'] ∧
      before.trailingBackslashes = (source front).trailingBackslashes := by
  intro text front unit
  have free : ∃ mark ∈ Placeholder.Table.markCandidates, mark ∉ text := ⟨'\x00', by decide, by decide⟩
  have done : (convertNamed "telegram".toList none text).result = .ok "`a`\\\\_b_".toList :=
    (convertNamed_telegram free).trans (congrArg Except.ok (by decide +kernel))
  have found : segments text = front ++ [.span unit] := by decide +kernel
  exact ⟨done, found, opening_backslashes text _ done front [] unit found⟩

/-- A lone backslash in front of a span escapes its opening delimiter. -/
theorem opening_escaped :
    ¬ ∀ (text output before rendered after : Text) (front back : List Segment) (unit : Span),
      (convertNamed "telegram".toList none text).result = .ok output →
      segments text = front ++ .span unit :: back → output = before ++ rendered ++ after →
      writeAll .telegram front = .ok before → unit.render .telegram = .ok rendered →
      before.trailingBackslashes % 2 = 0 := by
  intro even
  have free : ∃ mark ∈ Placeholder.Table.markCandidates, mark ∉ "\\*a*".toList :=
    ⟨'\x00', by decide, by decide⟩
  have done : (convertNamed "telegram".toList none "\\*a*".toList).result = .ok "\\_a_".toList :=
    (convertNamed_telegram free).trans (congrArg Except.ok (by decide +kernel))
  have found : segments "\\*a*".toList = [.plain ['\\']] ++ [.span (.enclosed .italic ['*'] ['a'])] := by
    decide +kernel
  have odd := even _ _ ['\\'] "_a_".toList [] _ _ _ done found (by decide) rfl rfl
  revert odd
  decide

/-- The end of one span and the start of the next, behind `before`, read as a mark of underlining. -/
def Underlines (before first second : Text) : Prop :=
  first.getLast? = some '_' ∧ second.head? = some '_' ∧
    Text.trailingBackslashes (before ++ first.dropLast) % 2 = 0

theorem trailingBackslashes_before_closing {unit : Span} (grammar : unit.Grammar)
    (italic : unit.kind = .italic) (before : Text) :
    Text.trailingBackslashes (before ++ (unit.written .telegram).dropLast) =
      unit.content.trailingBackslashes := by
  obtain ⟨opening, inner, closing, form, _, _, opens, _, content⟩ := written_ends grammar
  -- the opening underscore ends whatever run of backslashes `before` has
  have reset : Text.trailingBackslashes (before ++ ['_']) = Text.trailingBackslashes [] :=
    Text.trailingBackslashes_of_last rfl (by decide) before
  rw [form, List.dropLast_concat, opens.mpr italic, content italic, List.append_cons,
    Text.trailingBackslashes_escapeChars (by decide)]
  exact Text.trailingBackslashes_append reset unit.content

/-- Underlining comes up between two italics only, and there unless a backslash ends the first. -/
theorem underlines_iff (text output : Text)
    (done : (convertNamed "telegram".toList none text).result = .ok output)
    (front back : List Segment) (left right : Span)
    (found : segments text = front ++ .span left :: .span right :: back) :
    ∃ before first second after, output = before ++ first ++ second ++ after ∧
      writeAll .telegram front = .ok before ∧ left.render .telegram = .ok first ∧
      right.render .telegram = .ok second ∧ writeAll .telegram back = .ok after ∧
      (Underlines before first second ↔
        left.kind = .italic ∧ right.kind = .italic ∧ left.content.trailingBackslashes % 2 = 0) := by
  obtain ⟨whole, outer, others⟩ := converted_around done found
  have one := others left List.mem_cons_self
  have two := others right (by simp)
  have rest : ∀ other, .span other ∈ back → other.Grammar :=
    fun other member => others other (by simp [member])
  have usable : Text.Usable Style.telegram.reserved := telegram_usable true
  obtain ⟨_, _, closing, form, _, _, _, closes, _⟩ := written_ends one
  obtain ⟨opening, _, _, next, _, _, starts, _⟩ := written_ends two
  refine ⟨_, _, _, _, ?_, writeAll_ok usable outer, one.render_eq usable, two.render_eq usable,
    writeAll_ok usable rest, ?_⟩
  · simp [whole]
  have ends : (left.written .telegram).getLast? = some closing := by
    rw [form, List.getLast?_concat]
  have begins : (right.written .telegram).head? = some opening := by
    rw [next]
    rfl
  constructor
  · rintro ⟨last, start, even⟩
    have italic := closes.mp (Option.some.inj (ends.symm.trans last))
    rw [trailingBackslashes_before_closing one italic] at even
    exact ⟨italic, starts.mp (Option.some.inj (begins.symm.trans start)), even⟩
  · rintro ⟨italic, follows, even⟩
    refine ⟨by rw [ends, closes.mpr italic], by rw [begins, starts.mpr follows], ?_⟩
    rwa [trailingBackslashes_before_closing one italic]

theorem underlines_iff_escaped :
    let text := "_a\\__b_".toList
    let left : Span := .enclosed .italic ['_'] ['a', '\\']
    let right : Span := .enclosed .italic ['_'] ['b']
    (convertNamed "telegram".toList none text).result = .ok text ∧
    segments text = [.span left, .span right] ∧
    ∃ before first second after, text = before ++ first ++ second ++ after ∧
      writeAll .telegram [] = .ok before ∧ left.render .telegram = .ok first ∧
      right.render .telegram = .ok second ∧ writeAll .telegram [] = .ok after ∧
      (Underlines before first second ↔
        left.kind = .italic ∧ right.kind = .italic ∧ left.content.trailingBackslashes % 2 = 0) := by
  intro text left right
  have free : ∃ mark ∈ Placeholder.Table.markCandidates, mark ∉ text := ⟨'\x00', by decide, by decide⟩
  have done : (convertNamed "telegram".toList none text).result = .ok text :=
    (convertNamed_telegram free).trans (congrArg Except.ok (by decide +kernel))
  have found : segments text = [.span left, .span right] := by decide +kernel
  exact ⟨done, found, underlines_iff text _ done [] [] left right found⟩

/-- Two italics side by side come out with a mark of underlining between them. -/
theorem italics_underline :
    ¬ ∀ (text output before first second after : Text) (front back : List Segment) (left right : Span),
      (convertNamed "telegram".toList none text).result = .ok output →
      segments text = front ++ .span left :: .span right :: back →
      output = before ++ first ++ second ++ after → writeAll .telegram front = .ok before →
      left.render .telegram = .ok first → right.render .telegram = .ok second →
      ¬ Underlines before first second := by
  intro apart
  have free : ∃ mark ∈ Placeholder.Table.markCandidates, mark ∉ "_a__b_".toList :=
    ⟨'\x00', by decide, by decide⟩
  have done : (convertNamed "telegram".toList none "_a__b_".toList).result = .ok "_a__b_".toList :=
    (convertNamed_telegram free).trans (congrArg Except.ok (by decide +kernel))
  have found : segments "_a__b_".toList = [] ++ .span (.enclosed .italic ['_'] ['a']) ::
      .span (.enclosed .italic ['_'] ['b']) :: [] := by decide +kernel
  exact apart _ _ [] "_a_".toList "_b_".toList [] _ _ _ _ done found (by decide) rfl rfl rfl
    ⟨by decide, by decide, by decide⟩

end ChatMarkup.MarkdownV2
