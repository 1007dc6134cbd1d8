import ChatMarkup.Proofs.MarkdownV2.ReadBack

namespace ChatMarkup

open Segment

structure Style.GrowsAtMost (style : Style) (factor : Nat) : Prop where
  positive : 0 < factor
  escaped : ∀ text : Text,
    (Text.escapeChars style.reserved.flatten text).length ≤ factor * text.length
  target : style.linkForm = .inline →
    ∀ text : Text, (Span.writtenTarget style text).length ≤ factor * text.length
  bold : style.boldDelimiter.length ≤ factor * 2
  italic : style.italicDelimiter.length ≤ factor

theorem Style.GrowsAtMost.same {style : Style} {factor : Nat} (grows : style.GrowsAtMost factor)
    (text : Text) : text.length ≤ factor * text.length :=
  Nat.le_mul_of_pos_left _ grows.positive

namespace Span

section Grows

variable {style : Style} {factor : Nat} (grows : style.GrowsAtMost factor)

include grows

theorem length_writtenContent_le (content : Text) :
    (writtenContent style content).length ≤ factor * content.length := by
  unfold writtenContent
  split
  · exact grows.escaped content
  · exact grows.same content

theorem length_enclosed_le {delimiter own : Text} (short : own.length ≤ factor * delimiter.length)
    (kind : Kind) (content : Text) :
    (own ++ writtenContent style content ++ own).length ≤
      factor * (enclosed kind delimiter content).raw.length := by
  have inner := length_writtenContent_le grows content
  simp only [enclosed, List.length_append, Nat.mul_add]
  omega

theorem length_link_le (label target : Text) :
    ((ofWrittenLink label target).written style).length ≤
      factor * (ofWrittenLink label target).raw.length := by
  have shortLabel := (Text.unprotect_sublist ']' label).length_le
  have shortTarget := (Text.unprotect_sublist ')' target).length_le
  have whole : factor * (ofWrittenLink label target).raw.length =
      factor * label.length + factor * target.length + factor * 4 := by
    rw [← Nat.mul_add, ← Nat.mul_add]
    congr 1
    simp only [ofWrittenLink, List.length_append, List.length_cons, List.length_nil]
    omega
  have labelRoom := Nat.mul_le_mul_left factor shortLabel
  have targetRoom := Nat.mul_le_mul_left factor shortTarget
  have positive := grows.positive
  rw [whole]
  cases form : style.linkForm with
  | angle =>
    have content := grows.same (label.unprotect ']')
    have place := grows.same (target.unprotect ')')
    simp only [written, ofWrittenLink, form, Option.getD_some, List.length_append, List.length_cons,
      List.length_nil]
    omega
  | inline =>
    have content := length_writtenContent_le grows (label.unprotect ']')
    have place := grows.target form (target.unprotect ')')
    simp only [written, ofWrittenLink, form, Option.getD_some, List.length_append, List.length_cons,
      List.length_nil]
    omega

theorem Grammar.length_written_le {unit : Span} (grammar : unit.Grammar) :
    (unit.written style).length ≤ factor * unit.raw.length := by
  cases grammar with
  | codeBlock | inlineCode => exact grows.same _
  | bold => exact length_enclosed_le grows grows.bold .bold _
  | italic => exact length_enclosed_le grows (by simpa using grows.italic) .italic _
  | link => exact length_link_le grows _ _

end Grows

end Span

section Grows

variable {style : Style} {factor : Nat} (grows : style.GrowsAtMost factor)

include grows

theorem Segment.length_flatMap_written_le {parts : List Segment}
    (grammar : ∀ unit, .span unit ∈ parts → unit.Grammar) :
    (parts.flatMap (written style)).length ≤ factor * (source parts).length := by
  induction parts with
  | nil => exact Nat.zero_le _
  | cons segment parts ih =>
    have others := ih fun unit member => grammar unit (List.mem_cons_of_mem _ member)
    have own : (written style segment).length ≤ factor * segment.raw.length := by
      cases segment with
      | plain piece => exact grows.escaped piece
      | span unit => exact (grammar unit List.mem_cons_self).length_written_le grows
    rw [List.flatMap_cons, source_cons, List.length_append, List.length_append, Nat.mul_add]
    omega

theorem length_convert_le (usable : Text.Usable style.reserved) {dialect : Dialect} {text output : Text}
    (done : (convert dialect style text).result = .ok output) :
    output.length ≤ factor * text.length := by
  have bound := length_flatMap_written_le grows fun unit (member : .span unit ∈ segments text) =>
    segments_grammar member
  rwa [source_segments, ← eq_of_convert usable done] at bound

end Grows

theorem Style.slack_grows : Style.slack.GrowsAtMost 1 where
  positive := Nat.one_pos
  escaped text := by
    have same : Text.escapeChars Style.slack.reserved.flatten text = text := Text.escapeChars_of_nil text
    simp [same]
  target form := by cases form
  bold := by decide
  italic := by decide

theorem MarkdownV2.telegram_grows (escapesUrl : Bool) : (telegram escapesUrl).GrowsAtMost 2 where
  positive := Nat.two_pos
  escaped := Text.length_escapeChars_le _
  target _ := Text.length_escapeChars_le _
  bold := by simp
  italic := by simp

/-- A message for Slack is never longer than the text, one for Telegram at most twice as long. -/
theorem length_convertNamed_le (text output : Text) :
    ((convertNamed "slack".toList none text).result = .ok output → output.length ≤ text.length) ∧
    ∀ escapesUrl,
      (convertNamed "telegram".toList (some (MarkdownV2.telegram escapesUrl)) text).result =
        .ok output → output.length ≤ 2 * text.length := by
  constructor
  · intro done
    have converted : (convert .slack .slack text).result = .ok output :=
      (convertNamed_own .slack text).symm ▸ done
    have bound := length_convert_le Style.slack_grows (.inl rfl) converted
    rwa [Nat.one_mul] at bound
  · intro escapesUrl done
    rw [MarkdownV2.convertNamed_telegram_some] at done
    exact length_convert_le (MarkdownV2.telegram_grows escapesUrl) (MarkdownV2.telegram_usable escapesUrl)
      done

theorem length_convertNamed_le_doubled :
    let text := "`a` [b](c\\))".toList
    let rewritten := "`a` <c)|b>".toList
    let signs := "!._".toList
    let escaped := "\\!\\.\\_".toList
    (convertNamed "slack".toList none text).result = .ok rewritten ∧ rewritten.length ≤ text.length ∧
    (convertNamed "telegram".toList (some (MarkdownV2.telegram false)) signs).result = .ok escaped ∧
    escaped.length ≤ 2 * signs.length ∧ escaped.length = 2 * signs.length := by
  intro text rewritten signs escaped
  have free : ∃ mark ∈ Placeholder.Table.markCandidates, mark ∉ text := ⟨'\x00', by decide, by decide⟩
  have signsFree : ∃ mark ∈ Placeholder.Table.markCandidates, mark ∉ signs :=
    ⟨'\x00', by decide, by decide⟩
  have done : (convertNamed "slack".toList none text).result = .ok rewritten :=
    (convertNamed_of_free .slack free).trans (congrArg Except.ok (by decide +kernel))
  have doubled : (convertNamed "telegram".toList (some (MarkdownV2.telegram false)) signs).result =
      .ok escaped := by
    rw [MarkdownV2.convertNamed_telegram_some, MarkdownV2.convert_telegram false signsFree]
    exact congrArg Except.ok (by decide +kernel)
  exact ⟨done, (length_convertNamed_le text rewritten).1 done, doubled,
    (length_convertNamed_le signs escaped).2 false doubled, rfl⟩

end ChatMarkup
