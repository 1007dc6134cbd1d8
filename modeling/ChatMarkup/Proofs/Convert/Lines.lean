import ChatMarkup.Proofs.Convert.Own
import ChatMarkup.Proofs.Span.Lines

namespace ChatMarkup

namespace Segment

theorem flatMap_written_line {style : Style} (inLine : '\n' ∉ style.reserved.flatten) (text : Text)
    {below : List Segment} (tight : Tight below) :
    (text.foldr consPlain (consPlain '\n' below)).flatMap (written style) =
      Text.escapeChars style.reserved.flatten text ++ '\n' :: below.flatMap (written style) := by
  obtain ⟨piece, rest, start, shape⟩ := consPlain_tight '\n' tight
  have whole : below.flatMap (written style) =
      Text.escapeChars style.reserved.flatten piece ++ rest.flatMap (written style) := by
    rcases shape with ⟨_, rfl⟩ | ⟨rfl, rfl, _⟩ <;> simp
  rw [start, foldr_consPlain_plain, List.flatMap_cons, written_plain,
    Text.escapeChars_append_line inLine, whole, List.append_assoc, List.cons_append]

theorem flatMap_written_joinLines {style : Style} (inLine : '\n' ∉ style.reserved.flatten)
    {above below : List Segment} (first : Tight above) (second : Tight below) :
    (joinLines above below).flatMap (written style) =
      above.flatMap (written style) ++ '\n' :: below.flatMap (written style) := by
  induction first with
  | nil => exact flatMap_written_line inLine [] second
  | @span unit rest _ _ ih =>
    rw [joinLines] at ih
    rw [joinLines, join_span, List.flatMap_cons, List.flatMap_cons, ih, List.append_assoc]
  | @plain text rest filled apart others ih =>
    cases rest with
    | nil =>
      have line := flatMap_written_line inLine text second
      simpa [joinLines] using line
    | cons segment rest =>
      cases segment with
      | plain other => cases apart
      | span unit =>
        rw [joinLines, join_span] at ih
        rw [joinLines, join_plain, join_span, foldr_consPlain_of_apart filled rfl, List.flatMap_cons, ih,
          ← List.append_assoc]
        rfl

end Segment

open Segment Placeholder

theorem Dialect.line_not_reserved (dialect : Dialect) : '\n' ∉ dialect.style.reserved.flatten := by
  cases dialect <;> decide

/-- Lines are converted each by itself, but for fences and links, which run over line ends. -/
theorem convertNamed_lines (dialect : Dialect) {above below : Text}
    (unfenced : ∀ lines ∈ [above, below], ¬ Span.fence <:+: lines ∧ ¬ [']', '('] <:+: lines)
    (free : ∃ mark ∈ Table.markCandidates, mark ∉ above ++ '\n' :: below) :
    ∃ first second, (convertNamed dialect.name none above).result = .ok first ∧
      (convertNamed dialect.name none below).result = .ok second ∧
      (convertNamed dialect.name none (above ++ '\n' :: below)).result =
        .ok (first ++ '\n' :: second) := by
  have whole := convertNamed_of_free dialect free
  obtain ⟨mark, known, free⟩ := free
  rw [List.mem_append, List.mem_cons, not_or, not_or] at free
  refine ⟨_, _, convertNamed_of_free dialect ⟨mark, known, free.1⟩,
    convertNamed_of_free dialect ⟨mark, known, free.2.2⟩, ?_⟩
  rw [whole, segments_lines unfenced, flatMap_written_joinLines dialect.line_not_reserved
    (segments_tight above) (segments_tight below)]

theorem convertNamed_lines_unclosed :
    let above := "`a *b _c\\".toList
    let below := "_d_ *e* `f`*".toList
    (∀ lines ∈ [above, below], ¬ Span.fence <:+: lines ∧ ¬ [']', '('] <:+: lines) ∧
    (∃ mark ∈ Table.markCandidates, mark ∉ above ++ '\n' :: below) ∧
    (convertNamed Dialect.telegram.name none above).result = .ok "\\`a \\*b \\_c\\".toList ∧
    (convertNamed Dialect.telegram.name none below).result = .ok "_d_ _e_ `f`\\*".toList ∧
    (convertNamed Dialect.telegram.name none (above ++ '\n' :: below)).result =
      .ok ("\\`a \\*b \\_c\\".toList ++ '\n' :: "_d_ _e_ `f`\\*".toList) := by
  intro above below
  have unfenced : ∀ lines ∈ [above, below], ¬ Span.fence <:+: lines ∧ ¬ [']', '('] <:+: lines := by
    decide +kernel
  have free : ∃ mark ∈ Table.markCandidates, mark ∉ above ++ '\n' :: below :=
    ⟨'\x00', by decide, by decide⟩
  obtain ⟨first, second, firstLine, secondLine, both⟩ :=
    convertNamed_lines .telegram unfenced free
  have freeAbove : ∃ mark ∈ Table.markCandidates, mark ∉ above := ⟨'\x00', by decide, by decide⟩
  have freeBelow : ∃ mark ∈ Table.markCandidates, mark ∉ below := ⟨'\x00', by decide, by decide⟩
  have firstText : (segments above).flatMap (written Dialect.telegram.style) =
      "\\`a \\*b \\_c\\".toList := by decide +kernel
  have secondText : (segments below).flatMap (written Dialect.telegram.style) =
      "_d_ _e_ `f`\\*".toList := by decide +kernel
  rw [convertNamed_of_free .telegram freeAbove, firstText] at firstLine ⊢
  rw [convertNamed_of_free .telegram freeBelow, secondText] at secondLine ⊢
  cases firstLine
  cases secondLine
  exact ⟨unfenced, free, rfl, rfl, both⟩

end ChatMarkup
