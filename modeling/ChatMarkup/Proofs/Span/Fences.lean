import ChatMarkup.Proofs.Span.Exchange
import ChatMarkup.Proofs.Span.Lines
import ChatMarkup.Proofs.Span.Soundness
import ChatMarkup.Proofs.Text.Occurrences

namespace ChatMarkup

namespace Pattern

open Segment

theorem codeBlock_split_behind (before : Option Char) (text : Text) :
    codeBlock.split before text = codeBlock.split none text := by
  have same (text : Text) : codeBlock.read? before text = codeBlock.read? none text := rfl
  exact split_congr same text

section CodeBlock

variable {front : Text}
  (opening : Text.breakOn? Span.fence (front ++ Span.fence) = some (front, Span.fence))

include opening

theorem codeBlock_absent_front (before : Option Char) (rest : Text) :
    codeBlock.Absent before front (Span.fence ++ rest) := by
  intro start tail filled whole
  cases found : fenced? (tail ++ (Span.fence ++ rest)) with
  | none => exact Option.map_eq_none_iff.mpr found
  | some answer =>
    have cut := Text.breakOn?_append_right opening rest
    have shape := append_of_fenced? found
    have other : front ++ Span.fence ++ rest =
        start ++ Span.fence ++ (answer.1 ++ Span.fence ++ answer.2) := by
      simp only [List.append_assoc] at shape
      simp only [whole, List.append_assoc, shape]
    have bound := Text.breakOn?_length_le cut other
    have real := List.length_pos_iff.mpr filled
    rw [whole, List.length_append] at bound
    omega

theorem codeBlock_split {content : Text}
    (closing : Text.breakOn? Span.fence (content ++ Span.fence) = some (content, Span.fence))
    (rest : Text) :
    codeBlock.split none (front ++ Span.fence ++ (content ++ Span.fence ++ rest)) =
      codeBlock.split none front ++
        .span (.enclosed .codeBlock Span.fence content) :: codeBlock.split none rest := by
  have absent := codeBlock_absent_front opening none (content ++ Span.fence ++ rest)
  have read : ∀ before, codeBlock.read? before (Span.fence ++ (content ++ Span.fence ++ rest)) =
      some (.enclosed .codeBlock Span.fence content, rest) := by
    intro before
    have block := read?_codeBlock closing before rest
    simpa [Span.enclosed] using block
  have plain : codeBlock.split none front = front.foldr consPlain [] :=
    split_of_clear (codeBlock_needs.clear (Text.breakOn?_not_infix (by decide) opening))
  rw [List.append_assoc, split_append_of_absent absent, split_of_read (read _), codeBlock_split_behind,
    ← join_foldr_consPlain, ← plain]
  exact join_of_tight (scan_split codeBlock none front).tight rfl

end CodeBlock

end Pattern

namespace Segment

open Pattern

/-- The spans of a kind, each with the place where it begins. -/
def located (kind : Span.Kind) (place : Nat) : List Segment → List (Nat × Span)
  | [] => []
  | .plain text :: rest => located kind (place + text.length) rest
  | .span unit :: rest =>
    let others := located kind (place + unit.raw.length) rest
    if unit.kind = kind then (place, unit) :: others else others

theorem located_append (kind : Span.Kind) (place : Nat) (left right : List Segment) :
    located kind place (left ++ right) =
      located kind place left ++ located kind (place + (source left).length) right := by
  induction left generalizing place with
  | nil => rfl
  | cons segment left ih =>
    cases segment with
    | plain text => simp [located, ih, raw, Nat.add_assoc]
    | span unit =>
      simp only [List.cons_append, located, ih, source_cons, raw, List.length_append, Nat.add_assoc]
      split <;> rfl

theorem located_of_absent {kind : Span.Kind} {segments : List Segment}
    (absent : ∀ unit, .span unit ∈ segments → unit.kind ≠ kind) (place : Nat) :
    located kind place segments = [] := by
  induction segments generalizing place with
  | nil => rfl
  | cons segment rest ih =>
    have others := ih fun unit member => absent unit (List.mem_cons_of_mem _ member)
    cases segment with
    | plain text => exact others _
    | span unit => rw [located, if_neg (absent unit List.mem_cons_self), others]

theorem fences_of_codeBlock {text : Text} {unit : Span} (member : .span unit ∈ segments text)
    (block : unit.kind = .codeBlock) :
    ∃ before body, Text.breakOn? Span.fence text = some (before, Span.fence ++ body) ∧
      Span.fence <:+: body := by
  have part := raw_infix_source member
  rw [source_segments] at part
  obtain ⟨front, rest, whole⟩ := part
  cases segments_grammar member with
  | @codeBlock content =>
    have two : text = front ++ Span.fence ++ content ++ Span.fence ++ rest := by
      rw [← whole]
      simp [raw, Span.enclosed]
    exact Text.breakOn?_of_two two
  | inlineCode | link | bold | italic => cases block

theorem located_of_none {text : Text} (missing : Text.breakOn? Span.fence text = none)
    (place : Nat) : located .codeBlock place (segments text) = [] := by
  apply located_of_absent
  intro unit member block
  obtain ⟨before, body, cut, -⟩ := fences_of_codeBlock member block
  rw [missing] at cut
  cases cut

theorem located_of_lone {text before body : Text}
    (opening : Text.breakOn? Span.fence text = some (before, Span.fence ++ body))
    (lone : Text.breakOn? Span.fence body = none) (place : Nat) :
    located .codeBlock place (segments text) = [] := by
  apply located_of_absent
  intro unit member block
  obtain ⟨other, rest, cut, more⟩ := fences_of_codeBlock member block
  rw [opening] at cut
  cases cut
  exact Text.breakOn?_eq_none_iff.mp lone more

section CodeBlock

variable {front content : Text}
  (opening : Text.breakOn? Span.fence (front ++ Span.fence) = some (front, Span.fence))
  (closing : Text.breakOn? Span.fence (content ++ Span.fence) = some (content, Span.fence))

include opening closing

theorem segments_around_codeBlock (rest : Text) :
    segments (front ++ Span.fence ++ (content ++ Span.fence ++ rest)) =
      segments front ++ .span (.enclosed .codeBlock Span.fence content) :: segments rest := by
  have parts := codeBlock_split opening closing rest
  rw [segments_afterCode, segments_afterCode, segments_afterCode, parts, refine_append, refine_span,
    foldl_refine_append, foldl_refine_span_cons]

theorem located_around_codeBlock (place : Nat) (rest : Text) :
    located .codeBlock place (segments (front ++ Span.fence ++ (content ++ Span.fence ++ rest))) =
      (place + front.length, .enclosed .codeBlock Span.fence content) ::
        located .codeBlock
          (place + front.length + Span.fence.length + content.length + Span.fence.length)
          (segments rest) := by
  have unfenced : Text.breakOn? Span.fence front = none :=
    Text.breakOn?_eq_none_iff.mpr (Text.breakOn?_not_infix (by decide) opening)
  rw [segments_around_codeBlock opening closing, located_append, located_of_none unfenced,
    source_segments, located]
  simp [Span.enclosed, Nat.add_assoc]

end CodeBlock

def blockBetween (text : Text) (fences : Nat × Nat) : Nat × Span :=
  (fences.1, .enclosed .codeBlock Span.fence ((text.take fences.2).drop (fences.1 + Span.fence.length)))

theorem located_codeBlock (front text : Text) :
    located .codeBlock front.length (segments text) =
      (Text.pairUp (Text.occurrences Span.fence front.length 0 text)).map
        (blockBetween (front ++ text)) := by
  have filled : Span.fence ≠ [] := by decide
  -- two fences are taken at a time, and the text behind them is shorter
  induction size : text.length using Nat.strongRecOn generalizing front text with
  | ind bound ih =>
    cases opening : Text.breakOn? Span.fence text with
    | none =>
      rw [located_of_none opening, Text.occurrences_of_none opening]
      rfl
    | some found =>
      obtain ⟨before, found⟩ := found
      obtain ⟨body, rfl⟩ := Text.breakOn?_prefix opening
      rw [Text.occurrences_of_cut filled opening]
      cases closing : Text.breakOn? Span.fence body with
      | none =>
        rw [located_of_lone opening closing, Text.occurrences_of_none closing]
        rfl
      | some found =>
        obtain ⟨content, found⟩ := found
        obtain ⟨rest, rfl⟩ := Text.breakOn?_prefix closing
        obtain ⟨rfl, first⟩ := Text.breakOn?_first opening
        obtain ⟨rfl, second⟩ := Text.breakOn?_first closing
        have real : 0 < Span.fence.length := List.length_pos_iff.mpr filled
        have shorter : rest.length < bound := by
          simp only [List.length_append] at size
          omega
        have others := ih rest.length shorter
          (front ++ before ++ Span.fence ++ content ++ Span.fence) rest rfl
        have slice := Text.drop_take_append (front ++ before ++ Span.fence) content (Span.fence ++ rest)
        rw [located_around_codeBlock first second, Text.occurrences_of_cut filled closing, Text.pairUp,
          List.map_cons, blockBetween]
        simp only [List.length_append, List.append_assoc, Nat.add_assoc] at others slice ⊢
        rw [others, slice]

/-- The fences of a text enclose its code blocks two by two, and a block parts the text around it. -/
theorem segments_fences :
    (∀ front content rest : Text, ¬ Span.fence <:+: front → front.getLast? ≠ some '\x60' →
      ¬ Span.fence <:+: content → content.getLast? ≠ some '\x60' →
      segments (front ++ Span.fence ++ content ++ Span.fence ++ rest) =
        segments front ++ [.span (.enclosed .codeBlock Span.fence content)] ++ segments rest) ∧
    ∀ text, located .codeBlock 0 (segments text) =
      (Text.pairUp (Text.occurrences Span.fence 0 0 text)).map (blockBetween text) := by
  constructor
  · intro front content rest freeFront endsFront freeContent endsContent
    have opening := nearest_of_unfenced freeFront endsFront
    have closing := nearest_of_unfenced freeContent endsContent
    have parts := segments_around_codeBlock opening closing rest
    simpa using parts
  · exact located_codeBlock []

theorem segments_fences_touching :
    let front : Text := "[`*a ".toList
    let content : Text := "``\n](b".toList
    let rest : Text := "`c`*d*```".toList
    ¬ Span.fence <:+: front ∧ front.getLast? ≠ some '\x60' ∧
    ¬ Span.fence <:+: content ∧ content.getLast? ≠ some '\x60' ∧
    segments (front ++ Span.fence ++ content ++ Span.fence ++ rest) =
      [.plain front, .span (.enclosed .codeBlock Span.fence content),
        .span (.enclosed .inlineCode Span.backtick ['c']), .span (.enclosed .italic ['*'] ['d']),
        .plain Span.fence] ∧
    located .codeBlock 0 (segments (front ++ Span.fence ++ content ++ Span.fence ++ rest)) =
      [(5, .enclosed .codeBlock Span.fence content)] := by
  intro front content rest
  obtain ⟨around, blocks⟩ := segments_fences
  have unfenced : ¬ Span.fence <:+: front ∧ front.getLast? ≠ some '\x60' ∧
      ¬ Span.fence <:+: content ∧ content.getLast? ≠ some '\x60' := by
    decide +kernel
  obtain ⟨freeFront, endsFront, freeContent, endsContent⟩ := unfenced
  have parts := around front content rest freeFront endsFront freeContent endsContent
  have before : segments front = [.plain front] := by decide +kernel
  have behind : segments rest = [.span (.enclosed .inlineCode Span.backtick ['c']),
      .span (.enclosed .italic ['*'] ['d']), .plain Span.fence] := by decide +kernel
  rw [before, behind] at parts
  refine ⟨freeFront, endsFront, freeContent, endsContent, parts, ?_⟩
  rw [blocks]
  decide +kernel

end Segment

end ChatMarkup
