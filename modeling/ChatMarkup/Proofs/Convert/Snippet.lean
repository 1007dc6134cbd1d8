import ChatMarkup.Proofs.Convert.Own
import ChatMarkup.Proofs.Span.Alone
import ChatMarkup.Snippet

namespace ChatMarkup

open Segment Placeholder

namespace Span

/-- What a span of each kind can be built from so that its text reads as this span and no other. -/
def Kind.Takes (content : Text) (url : Option Text) : Kind → Prop
  | .codeBlock => ¬ fence <:+: content ∧ content.getLast? ≠ some '\x60'
  | .inlineCode => content ≠ [] ∧ ∀ c ∈ content, c ≠ '\x60' ∧ c ≠ '\n'
  | .bold | .italic => content ≠ [] ∧ ∀ c ∈ content, c ≠ '*' ∧ c ≠ '\n' ∧ c ≠ '\x60' ∧ c ≠ '['
  | .link =>
    ∃ target, url = some target ∧ content ≠ [] ∧ target ≠ [] ∧
      ∀ c ∈ content ++ target, c ≠ '\\' ∧ c ≠ '\x60'
  | .other _ => False

theorem make_link {content target : Text} (plainContent : '\\' ∉ content) (plainTarget : '\\' ∉ target) :
    make .link content (some target) =
      .ok (ofWrittenLink (content.protect ']') (target.protect ')')) := by
  simp [make, make?, ofWrittenLink, Text.unprotect_protect, plainContent, plainTarget]

theorem not_mem_protect {closer c : Char} (visible : c ≠ '\\') {text : Text} (free : c ∉ text) :
    c ∉ text.protect closer := fun member => (Text.mem_protect member).elim visible free

theorem segments_make {kind : Kind} {content : Text} {url : Option Text}
    (takes : kind.Takes content url) :
    ∃ unit, make kind content url = .ok unit ∧ segments unit.raw = [.span unit] := by
  cases kind with
  | codeBlock => exact ⟨_, rfl, segments_codeBlock takes.1 takes.2⟩
  | inlineCode => exact ⟨_, rfl, segments_inlineCode takes.1 takes.2⟩
  | bold =>
    obtain ⟨filled, inside⟩ := takes
    refine ⟨_, rfl, segments_bold filled ?_ ?_ ?_⟩
    · exact fun c member => ⟨(inside c member).1, (inside c member).2.1⟩
    · exact fun member => (inside _ member).2.2.1 rfl
    · exact fun member => (inside _ member).2.2.2 rfl
  | italic =>
    obtain ⟨filled, inside⟩ := takes
    refine ⟨_, rfl, segments_italic filled ?_ ?_ ?_⟩
    · exact fun c member => ⟨(inside c member).1, (inside c member).2.1⟩
    · exact fun member => (inside _ member).2.2.1 rfl
    · exact fun member => (inside _ member).2.2.2 rfl
  | link =>
    obtain ⟨target, rfl, named, placed, inside⟩ := takes
    simp only [List.mem_append] at inside
    have plainContent : '\\' ∉ content := fun member => (inside _ (.inl member)).1 rfl
    have plainTarget : '\\' ∉ target := fun member => (inside _ (.inr member)).1 rfl
    refine ⟨_, make_link plainContent plainTarget, ?_⟩
    apply segments_link (Text.protect_ne_nil named _) (Text.protect_ne_nil placed _)
      (Text.spanProtected_protect (by decide) plainContent)
      (Text.spanProtected_protect (by decide) plainTarget)
    · exact not_mem_protect (by decide) fun member => (inside _ (.inl member)).2 rfl
    · exact not_mem_protect (by decide) fun member => (inside _ (.inr member)).2 rfl
  | other name => cases takes

theorem write_of_make {kind : Kind} {content output : Text} {url : Option Text} {unit : Span}
    (made : make kind content url = .ok unit) {style : Style}
    (rendered : unit.render style = .ok output) : write style kind content url = .ok output := by
  rw [write, made]
  exact rendered

end Span

/-- A span built from parts is found in its text and comes out as the dialect writes the parts. -/
theorem convertNamed_make {kind : Span.Kind} {content : Text} {url : Option Text}
    (takes : kind.Takes content url) :
    ∃ unit, Span.make kind content url = .ok unit ∧ segments unit.raw = [.span unit] ∧
      ((∃ mark ∈ Table.markCandidates, mark ∉ unit.raw) → ∀ dialect : Dialect, ∃ output,
        unit.render dialect.style = .ok output ∧
        (convertNamed dialect.name none unit.raw).result = .ok output ∧
        (kind = .bold → dialect.bold content = .ok output) ∧
        (kind = .italic → dialect.italic content = .ok output) ∧
        (kind = .inlineCode → dialect.inlineCode content = .ok output) ∧
        (kind = .link → dialect.link content (url.getD []) = .ok output)) := by
  obtain ⟨unit, made, alone⟩ := Span.segments_make takes
  refine ⟨unit, made, alone, fun free dialect => ⟨unit.written dialect.style, ?_⟩⟩
  have member : .span unit ∈ segments unit.raw := by
    rw [alone]
    exact List.mem_singleton_self _
  have rendered := (segments_grammar member).render_eq dialect.usable_reserved
  have converted : (convertNamed dialect.name none unit.raw).result =
      .ok (unit.written dialect.style) := by
    rw [convertNamed_of_free dialect free, alone]
    simp
  refine ⟨rendered, converted, ?_, ?_, ?_, ?_⟩
  · rintro rfl
    exact Span.write_of_make made rendered
  · rintro rfl
    exact Span.write_of_make made rendered
  · rintro rfl
    exact Span.write_of_make made rendered
  · rintro rfl
    obtain ⟨target, rfl, _⟩ := takes
    exact Span.write_of_make made rendered

theorem convertNamed_make_brackets :
    let content := "a](b\n**".toList
    let target := "c)[\x00(".toList
    Span.Kind.Takes content (some target) .link ∧
    ∃ unit, Span.make .link content (some target) = .ok unit ∧ segments unit.raw = [.span unit] ∧
      (∃ mark ∈ Table.markCandidates, mark ∉ unit.raw) ∧ ∀ dialect : Dialect, ∃ output,
        unit.render dialect.style = .ok output ∧
        (convertNamed dialect.name none unit.raw).result = .ok output ∧
        dialect.link content target = .ok output := by
  intro content target
  have takes : Span.Kind.Takes content (some target) .link :=
    ⟨target, rfl, by decide, by decide, by simp [content, target]⟩
  obtain ⟨unit, made, alone, converted⟩ := convertNamed_make takes
  have free : ∃ mark ∈ Table.markCandidates, mark ∉ unit.raw := by
    cases made
    exact ⟨'\x01', by decide, by decide⟩
  refine ⟨takes, unit, made, alone, free, fun dialect => ?_⟩
  obtain ⟨output, rendered, whole, _, _, _, built⟩ := converted free dialect
  exact ⟨output, rendered, whole, built rfl⟩

end ChatMarkup
