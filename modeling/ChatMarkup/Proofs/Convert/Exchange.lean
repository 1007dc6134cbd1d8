import ChatMarkup.Proofs.Convert.Own
import ChatMarkup.Proofs.Span.Exchange

namespace ChatMarkup

open Segment Placeholder

theorem flatMap_written_code (style : Style) (front back : List Segment) (content : Text) :
    (front ++ .span (.enclosed .inlineCode Span.backtick content) :: back).flatMap (written style) =
      front.flatMap (written style) ++ '\x60' :: content ++ '\x60' :: back.flatMap (written style) := by
  simp [Span.written, Span.enclosed, Span.backtick]

/-- Another content of inline code changes nothing around it, in the segments and in the output. -/
theorem convertNamed_exchange {text content : Text} {front back : List Segment} {unit : Span}
    (found : segments text = front ++ .span unit :: back) (code : unit.kind = .inlineCode)
    (filled : content ≠ []) (inside : ∀ c ∈ content, c ≠ '\x60' ∧ c ≠ '\n') :
    let other := source front ++ '\x60' :: content ++ '\x60' :: source back
    text = source front ++ '\x60' :: unit.content ++ '\x60' :: source back ∧
    segments other = front ++ .span (.enclosed .inlineCode Span.backtick content) :: back ∧
    ((∃ mark ∈ Table.markCandidates, mark ∉ text) → (∃ mark ∈ Table.markCandidates, mark ∉ other) →
      ∀ dialect : Dialect, ∃ before after,
        writeAll dialect.style front = .ok before ∧ writeAll dialect.style back = .ok after ∧
        (convertNamed dialect.name none text).result =
          .ok (before ++ '\x60' :: unit.content ++ '\x60' :: after) ∧
        (convertNamed dialect.name none other).result =
          .ok (before ++ '\x60' :: content ++ '\x60' :: after)) := by
  intro other
  have grammar {parts : List Segment} (listed : ∀ segment ∈ parts, segment ∈ segments text) (part : Span)
      (member : .span part ∈ parts) : part.Grammar := segments_grammar (listed _ member)
  obtain ⟨shape, _⟩ := (segments_grammar (found ▸ by simp : .span unit ∈ segments text)).of_inlineCode code
  have whole := source_segments text
  rw [found, shape] at whole
  have exchanged := segments_exchange found code filled inside
  have same : other = source front ++ (Span.enclosed .inlineCode Span.backtick content).raw ++
      source back := by simp [other, Span.enclosed, Span.backtick]
  rw [← same] at exchanged
  refine ⟨by simp [← whole, raw, Span.enclosed, Span.backtick], exchanged, fun free otherFree dialect => ?_⟩
  refine ⟨front.flatMap (written dialect.style), back.flatMap (written dialect.style),
    writeAll_ok dialect.usable_reserved (grammar (by simp +contextual [found])),
    writeAll_ok dialect.usable_reserved (grammar (by simp +contextual [found])), ?_, ?_⟩
  · rw [convertNamed_of_free dialect free, found, shape, flatMap_written_code]
    rfl
  · rw [convertNamed_of_free dialect otherFree, exchanged, flatMap_written_code]

theorem convertNamed_exchange_hostile :
    let text := "*a* `x` [b](c)".toList
    let content := "\x000\x00*_[](\\".toList
    let front := [.span (.enclosed .italic ['*'] ['a']), .plain [' ']]
    let unit := Span.enclosed .inlineCode Span.backtick ['x']
    let back := [.plain [' '], .span (.ofWrittenLink ['b'] ['c'])]
    let other := source front ++ '\x60' :: content ++ '\x60' :: source back
    segments text = front ++ .span unit :: back ∧ unit.kind = .inlineCode ∧ content ≠ [] ∧
    (∀ c ∈ content, c ≠ '\x60' ∧ c ≠ '\n') ∧ (∃ mark ∈ Table.markCandidates, mark ∉ text) ∧
    (∃ mark ∈ Table.markCandidates, mark ∉ other) ∧
    segments other = front ++ .span (.enclosed .inlineCode Span.backtick content) :: back ∧
    ∃ before after,
      (convertNamed Dialect.telegram.name none text).result =
        .ok (before ++ '\x60' :: ['x'] ++ '\x60' :: after) ∧
      (convertNamed Dialect.telegram.name none other).result =
        .ok (before ++ '\x60' :: content ++ '\x60' :: after) := by
  intro text content front unit back other
  have found : segments text = front ++ .span unit :: back := by decide +kernel
  have filled : content ≠ [] := by decide
  have inside : ∀ c ∈ content, c ≠ '\x60' ∧ c ≠ '\n' := by simp [content]
  have free : ∃ mark ∈ Table.markCandidates, mark ∉ text := ⟨'\x00', by decide, by decide⟩
  have otherFree : ∃ mark ∈ Table.markCandidates, mark ∉ other := ⟨'\x01', by decide, by decide⟩
  obtain ⟨_, exchanged, runs⟩ := convertNamed_exchange found rfl filled inside
  obtain ⟨before, after, _, _, first, second⟩ := runs free otherFree .telegram
  exact ⟨found, rfl, filled, inside, free, otherFree, exchanged, before, after, first, second⟩

end ChatMarkup
