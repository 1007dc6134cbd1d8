import ChatMarkup.Span.Segments

namespace ChatMarkup

namespace Segment

def startsPlain : List Segment → Bool
  | .plain _ :: _ => true
  | _ => false

@[simp] theorem startsPlain_nil : startsPlain [] = false := rfl

@[simp] theorem startsPlain_plain (text : Text) (rest : List Segment) :
    startsPlain (.plain text :: rest) = true := rfl

@[simp] theorem startsPlain_span (unit : Span) (rest : List Segment) :
    startsPlain (.span unit :: rest) = false := rfl

theorem foldr_consPlain_of_apart {text : Text} (filled : text ≠ []) {rest : List Segment}
    (apart : startsPlain rest = false) : text.foldr consPlain rest = .plain text :: rest := by
  induction text with
  | nil => exact absurd rfl filled
  | cons c text ih =>
    by_cases single : text = []
    · subst single
      cases rest with
      | nil => rfl
      | cons segment rest =>
        cases segment with
        | plain text => cases apart
        | span unit => rfl
    · rw [List.foldr_cons, ih single, consPlain]

end Segment

namespace Pattern

open Segment

/-- No span starts inside `text` when `before` stands in front of it and `after` behind it. -/
def Absent (pattern : Pattern) (before : Option Char) (text after : Text) : Prop :=
  ∀ front tail, tail ≠ [] → text = front ++ tail →
    pattern.read? (front.getLast?.or before) (tail ++ after) = none

private theorem last_cons_or (c : Char) (front : Text) (before : Option Char) :
    (c :: front).getLast?.or before = front.getLast?.or (some c) := by
  rw [List.getLast?_cons]
  cases front.getLast? <;> rfl

theorem Absent.nil {pattern : Pattern} {before : Option Char} {after : Text} :
    pattern.Absent before [] after := by
  intro front tail filled whole
  exact absurd (List.append_eq_nil_iff.mp whole.symm).2 filled

theorem Absent.cons {pattern : Pattern} {before : Option Char} {c : Char} {text after : Text}
    (first : pattern.read? before (c :: text ++ after) = none)
    (others : pattern.Absent (some c) text after) : pattern.Absent before (c :: text) after := by
  intro front tail filled whole
  cases front with
  | nil =>
    rw [List.nil_append] at whole
    rw [← whole]
    exact first
  | cons d front =>
    obtain ⟨rfl, rest⟩ := List.cons.inj whole
    rw [last_cons_or]
    exact others front tail filled rest

theorem Absent.head {pattern : Pattern} {before : Option Char} {c : Char} {text after : Text}
    (absent : pattern.Absent before (c :: text) after) :
    pattern.read? before (c :: text ++ after) = none :=
  absent [] (c :: text) (by simp) rfl

theorem Absent.tail {pattern : Pattern} {before : Option Char} {c : Char} {text after : Text}
    (absent : pattern.Absent before (c :: text) after) : pattern.Absent (some c) text after := by
  intro front tail filled whole
  rw [← last_cons_or c front before]
  exact absent (c :: front) tail filled (by rw [whole, List.cons_append])

theorem Absent.inside {pattern : Pattern} {before : Option Char} {left piece right after : Text}
    (absent : pattern.Absent before (left ++ piece ++ right) after) :
    pattern.Absent (left.getLast?.or before) piece (right ++ after) := by
  intro front tail filled whole
  have read := absent (left ++ front) (tail ++ right) (by simp [filled]) (by simp [whole])
  rwa [List.getLast?_append, Option.or_assoc, List.append_assoc] at read

/-- Every span is read where it stands, and none starts inside a plain piece. -/
inductive Scan (pattern : Pattern) : Option Char → List Segment → Prop
  | nil {before : Option Char} : Scan pattern before []
  | span {before : Option Char} {unit : Span} {rest : List Segment}
      (read : pattern.read? before (unit.raw ++ source rest) = some (unit, source rest))
      (others : Scan pattern unit.raw.getLast? rest) : Scan pattern before (.span unit :: rest)
  | plain {before : Option Char} {piece : Text} {rest : List Segment} (filled : piece ≠ [])
      (apart : startsPlain rest = false) (absent : pattern.Absent before piece (source rest))
      (others : Scan pattern piece.getLast? rest) : Scan pattern before (.plain piece :: rest)

theorem Scan.consPlain {pattern : Pattern} {before : Option Char} {c : Char}
    {segments : List Segment} (first : pattern.read? before (c :: source segments) = none)
    (others : Scan pattern (some c) segments) : Scan pattern before (consPlain c segments) := by
  cases others with
  | nil => exact .plain (by simp) rfl (.cons first .nil) .nil
  | span read rest => exact .plain (by simp) rfl (.cons first .nil) (.span read rest)
  | @plain _ piece rest filled apart absent others =>
    refine .plain (by simp) apart (.cons first absent) ?_
    obtain ⟨d, more, rfl⟩ := List.exists_cons_of_ne_nil filled
    rwa [List.getLast?_cons_cons]

theorem scan_split (pattern : Pattern) (before : Option Char) (text : Text) :
    Scan pattern before (pattern.split before text) := by
  fun_induction pattern.split before text with
  | case1 => exact .nil
  | case2 before c cs span rest found ih =>
    apply Scan.span _ ih
    rw [source_split, ← pattern.append_of_read? found]
    exact found
  | case3 before c cs found ih =>
    apply Scan.consPlain _ ih
    rw [source_split]
    exact found

theorem Scan.read_of_mem {pattern : Pattern} {before : Option Char} {segments : List Segment}
    {unit : Span} (scan : Scan pattern before segments) (member : .span unit ∈ segments) :
    ∃ before text rest, pattern.read? before text = some (unit, rest) := by
  induction scan with
  | nil => cases member
  | span read _ ih =>
    rcases List.mem_cons.mp member with same | member
    · cases same
      exact ⟨_, _, _, read⟩
    · exact ih member
  | plain _ _ _ _ ih =>
    rcases List.mem_cons.mp member with same | member
    · cases same
    · exact ih member

theorem Scan.absent_of_mem {pattern : Pattern} {before : Option Char} {segments : List Segment}
    {piece : Text} (scan : Scan pattern before segments) (member : .plain piece ∈ segments) :
    ∃ before after, pattern.Absent before piece after := by
  induction scan with
  | nil => cases member
  | span _ _ ih =>
    rcases List.mem_cons.mp member with same | member
    · cases same
    · exact ih member
  | plain _ _ absent _ ih =>
    rcases List.mem_cons.mp member with same | member
    · cases same
      exact ⟨_, _, absent⟩
    · exact ih member

theorem split_of_read {pattern : Pattern} {before : Option Char} {text rest : Text} {unit : Span}
    (read : pattern.read? before text = some (unit, rest)) :
    pattern.split before text = .span unit :: pattern.split unit.raw.getLast? rest := by
  cases text with
  | nil =>
    have whole := List.append_eq_nil_iff.mp (pattern.append_of_read? read).symm
    exact absurd whole.1 (pattern.raw_ne_nil read)
  | cons c text =>
    rw [split]
    split
    · rename_i other more found
      rw [read] at found
      cases found
      rfl
    · rename_i missing
      rw [read] at missing
      cases missing

theorem split_of_none {pattern : Pattern} {before : Option Char} {c : Char} {text : Text}
    (missing : pattern.read? before (c :: text) = none) :
    pattern.split before (c :: text) = consPlain c (pattern.split (some c) text) := by
  rw [split]
  split
  · rename_i unit rest found
    rw [missing] at found
    cases found
  · rfl

@[simp] theorem split_nil (pattern : Pattern) (before : Option Char) : pattern.split before [] = [] := by
  rw [split]

theorem split_congr {pattern : Pattern} {before other : Option Char}
    (same : ∀ text, pattern.read? before text = pattern.read? other text) (text : Text) :
    pattern.split before text = pattern.split other text := by
  cases text with
  | nil => rw [split_nil, split_nil]
  | cons c text =>
    cases read : pattern.read? other (c :: text) with
    | none => rw [split_of_none read, split_of_none ((same _).trans read)]
    | some found => rw [split_of_read read, split_of_read ((same _).trans read)]

theorem split_append_of_absent {pattern : Pattern} {before : Option Char} {text after : Text}
    (absent : pattern.Absent before text after) : pattern.split before (text ++ after) =
      text.foldr consPlain (pattern.split (text.getLast?.or before) after) := by
  induction text generalizing before with
  | nil => rfl
  | cons c text ih =>
    have first := absent.head
    rw [List.cons_append] at first ⊢
    rw [split_of_none first, ih absent.tail, last_cons_or, List.foldr_cons]

theorem split_of_absent {pattern : Pattern} {before : Option Char} {text : Text}
    (filled : text ≠ []) (absent : pattern.Absent before text []) :
    pattern.split before text = [.plain text] := by
  have whole := split_append_of_absent absent
  rwa [List.append_nil, split_nil, foldr_consPlain_of_apart filled rfl] at whole

theorem Scan.split_eq {pattern : Pattern} {before : Option Char} {segments : List Segment}
    (scan : Scan pattern before segments) : pattern.split before (source segments) = segments := by
  induction scan with
  | nil => exact split_nil pattern _
  | @span before unit rest read _ ih => rw [source_cons, raw, split_of_read read, ih]
  | @plain before piece rest filled apart absent _ ih =>
    obtain ⟨last, ends⟩ := Option.ne_none_iff_exists'.mp (mt List.getLast?_eq_none_iff.mp filled)
    rw [source_cons, raw, split_append_of_absent absent]
    rw [ends] at ih ⊢
    rw [Option.some_or, ih, foldr_consPlain_of_apart filled apart]

end Pattern

end ChatMarkup
