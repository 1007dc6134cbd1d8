import ChatMarkup.Proofs.Span.Grammar
import ChatMarkup.Proofs.Text.Protected
import ChatMarkup.Snippet

namespace ChatMarkup

theorem Span.make_ofWrittenLink {label target : Text} (labelRun : Text.Protected ']' label)
    (targetRun : Text.Protected ')' target) :
    make .link (label.unprotect ']') (some (target.unprotect ')')) =
      .ok (ofWrittenLink label target) := by
  have first := labelRun.protect_unprotect (by decide)
  have second := targetRun.protect_unprotect (by decide)
  simp [make, make?, ofWrittenLink, first, second]

namespace Segment

/-- The fields of a span build it again, except that underscores around emphasis become asterisks. -/
theorem make_segments_iff {text : Text} {unit : Span} (member : .span unit ∈ segments text) :
    Span.make unit.kind unit.content unit.url = .ok unit ↔
      ¬ (unit.kind = .italic ∧ unit.delimiter = ['_']) := by
  cases segments_grammar member with
  | codeBlock | inlineCode | bold => exact iff_of_true rfl (by simp [Span.enclosed])
  | @italic mark content known =>
    have built : Span.make .italic content none = .ok (Span.enclosed .italic ['*'] content) := rfl
    rcases known with rfl | rfl
    · exact iff_of_true built (by simp [Span.enclosed])
    · refine iff_of_false (fun same => ?_) (fun other => other ⟨rfl, rfl⟩)
      cases built.symm.trans same
  | link _ _ labelRun targetRun =>
    have first := Text.spanProtected_eq_iff.mp labelRun
    have second := Text.spanProtected_eq_iff.mp targetRun
    exact iff_of_true (Span.make_ofWrittenLink first second) (by simp [Span.ofWrittenLink])

theorem make_segments_iff_brackets :
    let text := "x[\\\\\\]a\\]](\\)\\\\\\)\\[)_y_".toList
    let unit : Span := .ofWrittenLink "\\\\\\]a\\]".toList "\\)\\\\\\)\\[".toList
    .span unit ∈ segments text ∧
      (Span.make unit.kind unit.content unit.url = .ok unit ↔
        ¬ (unit.kind = .italic ∧ unit.delimiter = ['_'])) := by
  intro text unit
  have member : .span unit ∈ segments text := by decide +kernel
  exact ⟨member, make_segments_iff member⟩

end Segment

end ChatMarkup
