import ChatMarkup.Proofs.MarkdownV2.Delimiter
import ChatMarkup.Proofs.Text.Preceded
import ChatMarkup.Snippet

namespace ChatMarkup.MarkdownV2

open Segment
open Style (markdownV2Reserved)

theorem preceded_plain_iff (text : Text) :
    Text.Preceded markdownV2Reserved (· % 2 = 1) 0 (Text.escapeChars markdownV2Reserved text) ↔
      ∀ (front : Text) c back, text = front ++ c :: back → c ∈ markdownV2Reserved →
        front.trailingBackslashes = 0 ∨ front.trailingBackslashes % 2 = 1 :=
  (Text.preceded_escapeChars (by decide) (List.Subset.refl _) fun _ _ _ => rfl).trans
    (Text.preceded_iff [] text)

theorem trailingBackslashes_before_plain {text piece : Text} {front back : List Segment}
    (found : segments text = front ++ .plain piece :: back) : (source front).trailingBackslashes = 0 := by
  rcases List.eq_nil_or_concat front with rfl | ⟨front, last, rfl⟩
  · rfl
  cases last with
  | plain other =>
    have tight := segments_tight text
    rw [found, List.concat_eq_append, List.append_assoc] at tight
    cases tight.suffix with
    | plain _ apart _ => cases apart
  | span unit =>
    have known : .span unit ∈ segments text := found ▸ by simp
    obtain ⟨c, ends, visible⟩ := (segments_grammar known).last_visible
    simpa [raw] using Text.trailingBackslashes_of_last ends visible (source front)

/-- A reader finds every reserved character escaped but those behind two backslashes, four and so on. -/
theorem plain_escaped_iff (text : Text) :
    ∃ escaped, Dialect.telegram.plain text = .ok escaped ∧
      (Text.ReadsEscaped markdownV2Reserved false escaped ↔
        ∀ (front : Text) c back, escaped = front ++ c :: back → c ∈ markdownV2Reserved →
          front.trailingBackslashes % 2 = 1) ∧
      (Text.ReadsEscaped markdownV2Reserved false escaped ↔
        ∀ (front : Text) c back, text = front ++ c :: back → c ∈ markdownV2Reserved →
          front.trailingBackslashes = 0 ∨ front.trailingBackslashes % 2 = 1) ∧
      ∀ output front piece back, (convertNamed "telegram".toList none text).result = .ok output →
        segments text = front ++ .plain piece :: back →
        ∃ before region after, output = before ++ region ++ after ∧
          writeAll .telegram front = .ok before ∧ Dialect.telegram.plain piece = .ok region ∧
          writeAll .telegram back = .ok after ∧
          ((∀ (inner : Text) c rest, region = inner ++ c :: rest → c ∈ markdownV2Reserved →
              Text.trailingBackslashes (before ++ inner) % 2 = 1) ↔
            ∀ (inner : Text) c rest, piece = inner ++ c :: rest → c ∈ markdownV2Reserved →
              inner.trailingBackslashes = 0 ∨ inner.trailingBackslashes % 2 = 1) := by
  have usable : Text.Usable Style.telegram.reserved := telegram_usable true
  have parity := Text.readsEscaped_iff_preceded markdownV2Reserved 0
    (Text.escapeChars markdownV2Reserved text)
  refine ⟨_, Text.escape_of_usable usable text, parity.trans (Text.preceded_iff [] _),
    parity.trans (preceded_plain_iff text), ?_⟩
  intro output front piece back done found
  obtain ⟨whole, left, others⟩ := converted_around done found
  have right : ∀ unit, .span unit ∈ back → unit.Grammar :=
    fun unit member => others unit (List.mem_cons_of_mem _ member)
  have clear := (trailingBackslashes_flatMap_written left).trans (trailingBackslashes_before_plain found)
  have region : Text.Preceded markdownV2Reserved (· % 2 = 1) _ _ ↔ _ :=
    Text.preceded_iff (front.flatMap (written .telegram)) (Text.escapeChars markdownV2Reserved piece)
  rw [clear] at region
  refine ⟨_, _, _, ?_, writeAll_ok usable left, Text.escape_of_usable usable piece,
    writeAll_ok usable right, region.symm.trans (preceded_plain_iff piece)⟩
  rw [whole, List.flatMap_cons, List.append_assoc]
  rfl

/-- Two backslashes in front of a full stop escape each other, and the full stop is left bare. -/
theorem plain_leaves_bare :
    ¬ ∀ text escaped : Text, Dialect.telegram.plain text = .ok escaped →
      Text.ReadsEscaped markdownV2Reserved false escaped := by
  intro complete
  have read := complete "\\\\.".toList "\\\\.".toList rfl
  exact read.2.1 (by decide)

end ChatMarkup.MarkdownV2
