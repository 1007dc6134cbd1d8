import ChatMarkup.Proofs.Span.Partition
import ChatMarkup.Proofs.Span.Reading
import ChatMarkup.Proofs.Text.Protected

namespace ChatMarkup

/-- How each kind of span is written. -/
inductive Span.Grammar : Span → Prop
  | codeBlock {content : Text}
      (nearest : Text.breakOn? fence (content ++ fence) = some (content, fence)) :
      Grammar (enclosed .codeBlock fence content)
  | inlineCode {content : Text} (filled : content ≠ [])
      (inside : ∀ c ∈ content, c ≠ '\x60' ∧ c ≠ '\n') :
      Grammar (enclosed .inlineCode backtick content)
  | bold {content : Text} (filled : content ≠ []) (inside : ∀ c ∈ content, c ≠ '*' ∧ c ≠ '\n') :
      Grammar (enclosed .bold ['*', '*'] content)
  | italic {mark : Char} {content : Text} (known : mark = '*' ∨ mark = '_') (filled : content ≠ [])
      (inside : ∀ c ∈ content, c ≠ mark ∧ c ≠ '\n') : Grammar (enclosed .italic [mark] content)
  | link {label target : Text} (named : label ≠ []) (placed : target ≠ [])
      (labelRun : label.spanProtected ']' = (label, []))
      (targetRun : target.spanProtected ')' = (target, [])) : Grammar (ofWrittenLink label target)

theorem Span.getLast?_enclosed {kind : Kind} {delimiter content : Text} {c : Char}
    (last : delimiter.getLast? = some c) : (enclosed kind delimiter content).raw.getLast? = some c := by
  rw [enclosed, List.getLast?_append, last, Option.some_or]

theorem Span.Grammar.last_visible {unit : Span} (grammar : unit.Grammar) :
    ∃ c, unit.raw.getLast? = some c ∧ c ≠ '\\' := by
  cases grammar with
  | codeBlock | inlineCode => exact ⟨'\x60', getLast?_enclosed rfl, by decide⟩
  | bold => exact ⟨'*', getLast?_enclosed rfl, by decide⟩
  | @italic mark content known =>
    refine ⟨mark, getLast?_enclosed rfl, ?_⟩
    rcases known with rfl | rfl <;> decide
  | link => exact ⟨')', List.getLast?_concat, by decide⟩

theorem Span.Grammar.of_inlineCode {unit : Span} (grammar : unit.Grammar)
    (code : unit.kind = .inlineCode) : unit = enclosed .inlineCode backtick unit.content ∧
      unit.content ≠ [] ∧ ∀ c ∈ unit.content, c ≠ '\x60' ∧ c ≠ '\n' := by
  cases grammar with
  | inlineCode filled inside => exact ⟨rfl, filled, inside⟩
  | codeBlock | bold | italic | link => cases code

namespace Pattern

open Segment

theorem readLink?_grammar {text rest : Text} {unit : Span}
    (read : readLink? text = some (unit, rest)) : unit.Grammar := by
  obtain ⟨first, _, read⟩ := Option.bind_eq_some_iff.mp read
  dsimp only at read
  split at read
  · cases read
  · rename_i named
    obtain ⟨second, _, read⟩ := Option.bind_eq_some_iff.mp read
    split at read
    · cases read
    · rename_i placed
      obtain ⟨tail, _, same⟩ := Option.map_eq_some_iff.mp read
      cases same
      exact .link named placed (Text.spanProtected_protected _ _).spanProtected_eq
        (Text.spanProtected_protected _ _).spanProtected_eq

theorem read_grammar {pattern : Pattern} (known : pattern ∈ all) {before : Option Char}
    {text rest : Text} {unit : Span} (read : pattern.read? before text = some (unit, rest)) :
    unit.Grammar := by
  simp only [all, List.mem_cons, List.not_mem_nil, or_false] at known
  rcases known with rfl | rfl | rfl | rfl | rfl | rfl
  · obtain ⟨⟨content, after⟩, inner, rfl, rfl⟩ := Option.map_eq_some_iff.mp read
    exact .codeBlock (fenced?_nearest inner)
  · obtain ⟨⟨content, after⟩, inner, rfl, rfl⟩ := Option.map_eq_some_iff.mp read
    exact .inlineCode (append_of_enclosed? inner).2 (enclosed?_inside inner)
  · exact readLink?_grammar read
  · obtain ⟨⟨content, after⟩, inner, rfl, rfl⟩ := Option.map_eq_some_iff.mp read
    exact .bold (append_of_enclosed? inner).2 (enclosed?_inside inner)
  · obtain ⟨⟨content, after⟩, inner, rfl, rfl⟩ := Option.map_eq_some_iff.mp read
    obtain ⟨_, inner, _⟩ := loneAsterisks?_eq_some_iff.mp inner
    exact .italic (.inl rfl) (append_of_enclosed? inner).2 (enclosed?_inside inner)
  · obtain ⟨⟨content, after⟩, inner, rfl, rfl⟩ := Option.map_eq_some_iff.mp read
    exact .italic (.inr rfl) (append_of_enclosed? inner).2 (enclosed?_inside inner)

theorem foldl_refine_span {patterns : List Pattern} {parts : List Segment} {unit : Span}
    (member : .span unit ∈ patterns.foldl (fun parts pattern => pattern.refine parts) parts) :
    .span unit ∈ parts ∨ ∃ earlier pattern later piece, patterns = earlier ++ pattern :: later ∧
      .plain piece ∈ earlier.foldl (fun parts pattern => pattern.refine parts) parts ∧
      .span unit ∈ pattern.split none piece := by
  induction patterns generalizing parts with
  | nil => exact .inl member
  | cons pattern patterns ih =>
    rcases ih member with member | ⟨earlier, own, later, piece, rfl, left, found⟩
    · obtain ⟨segment, inside, member⟩ := List.mem_flatMap.mp member
      cases segment with
      | plain text => exact .inr ⟨[], pattern, patterns, text, rfl, inside, member⟩
      | span other =>
        cases List.mem_singleton.mp member
        exact .inl inside
    · exact .inr ⟨pattern :: earlier, own, later, piece, rfl, left, found⟩

end Pattern

namespace Segment

theorem segments_origin {text : Text} {unit : Span} (member : .span unit ∈ segments text) :
    ∃ earlier pattern later piece, Pattern.all = earlier ++ pattern :: later ∧
      .plain piece ∈ earlier.foldl (fun parts pattern => pattern.refine parts) [.plain text] ∧
      .span unit ∈ pattern.split none piece := by
  rcases Pattern.foldl_refine_span member with member | origin
  · cases List.mem_singleton.mp member
  · exact origin

theorem segments_grammar {text : Text} {unit : Span} (member : .span unit ∈ segments text) :
    unit.Grammar := by
  obtain ⟨earlier, pattern, later, piece, order, _, found⟩ := segments_origin member
  obtain ⟨before, place, rest, read⟩ := (Pattern.scan_split pattern none piece).read_of_mem found
  exact Pattern.read_grammar (order ▸ by simp) read

end Segment

end ChatMarkup
