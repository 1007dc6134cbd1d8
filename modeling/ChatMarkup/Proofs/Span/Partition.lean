import ChatMarkup.Proofs.Span.Scan

namespace ChatMarkup

namespace Segment

/-- Segments of which none is empty and no two plain ones touch. -/
inductive Tight : List Segment → Prop
  | nil : Tight []
  | span {unit : Span} {rest : List Segment} (filled : unit.raw ≠ []) (others : Tight rest) :
      Tight (.span unit :: rest)
  | plain {text : Text} {rest : List Segment} (filled : text ≠ []) (apart : startsPlain rest = false)
      (others : Tight rest) : Tight (.plain text :: rest)

theorem Tight.append {left right : List Segment} (before : Tight left)
    (apart : startsPlain right = false) (after : Tight right) : Tight (left ++ right) := by
  induction before with
  | nil => exact after
  | span filled _ ih => exact .span filled ih
  | @plain text rest filled inner _ ih =>
    refine .plain filled ?_ ih
    cases rest with
    | nil => exact apart
    | cons segment rest => cases segment <;> simp_all

theorem Tight.raw_ne_nil {segments : List Segment} (tight : Tight segments) :
    ∀ segment ∈ segments, segment.raw ≠ [] := by
  induction tight with
  | nil => simp
  | span filled _ ih => exact List.forall_mem_cons.mpr ⟨filled, ih⟩
  | plain filled _ _ ih => exact List.forall_mem_cons.mpr ⟨filled, ih⟩

theorem Tight.suffix {front rest : List Segment} (tight : Tight (front ++ rest)) : Tight rest := by
  induction front with
  | nil => exact tight
  | cons segment front ih =>
    cases tight with
    | span _ others => exact ih others
    | plain _ _ others => exact ih others

theorem head?_source {first : Segment} (filled : first.raw ≠ []) (rest : List Segment) :
    (source (first :: rest)).head? = first.raw.head? := by
  obtain ⟨c, more, same⟩ := List.exists_cons_of_ne_nil filled
  rw [source_cons, same, List.cons_append, List.head?_cons, List.head?_cons]

theorem getLast?_source {last : Segment} (filled : last.raw ≠ []) (front : List Segment) :
    (source (front ++ [last])).getLast? = last.raw.getLast? := by
  obtain ⟨c, ends⟩ := Option.ne_none_iff_exists'.mp (mt List.getLast?_eq_none_iff.mp filled)
  simp [List.getLast?_append, ends]

theorem Tight.between {segments : List Segment} {piece : Text} (tight : Tight segments)
    (member : .plain piece ∈ segments) :
    ∃ left right, source segments = left ++ piece ++ right ∧
      (left.getLast? = none ∨ ∃ unit, .span unit ∈ segments ∧ left.getLast? = unit.raw.getLast?) ∧
      (right.head? = none ∨ ∃ unit, .span unit ∈ segments ∧ right.head? = unit.raw.head?) := by
  obtain ⟨front, back, rfl⟩ := List.append_of_mem member
  refine ⟨source front, source back, by simp [raw], ?_, ?_⟩
  · rcases List.eq_nil_or_concat front with rfl | ⟨front, segment, rfl⟩
    · exact .inl rfl
    · cases segment with
      | plain other =>
        rw [List.concat_append] at tight
        cases tight.suffix with
        | plain _ apart _ => cases apart
      | span unit =>
        have filled := tight.raw_ne_nil (.span unit) (by simp)
        rw [List.concat_eq_append]
        exact .inr ⟨unit, by simp, getLast?_source filled front⟩
  · cases back with
    | nil => exact .inl rfl
    | cons segment back =>
      cases segment with
      | plain other =>
        cases tight.suffix with
        | plain _ apart _ => cases apart
      | span unit =>
        have filled := tight.raw_ne_nil (.span unit) (by simp)
        exact .inr ⟨unit, by simp, head?_source filled back⟩

end Segment

namespace Pattern

open Segment

theorem Scan.tight {pattern : Pattern} {before : Option Char} {segments : List Segment}
    (scan : Scan pattern before segments) : Tight segments := by
  induction scan with
  | nil => exact .nil
  | span read _ ih => exact .span (pattern.raw_ne_nil read) ih
  | plain filled apart _ _ ih => exact .plain filled apart ih

@[simp] theorem refine_nil (pattern : Pattern) : pattern.refine [] = [] := rfl

@[simp] theorem refine_span (pattern : Pattern) (unit : Span) (rest : List Segment) :
    pattern.refine (.span unit :: rest) = .span unit :: pattern.refine rest := rfl

@[simp] theorem refine_plain (pattern : Pattern) (text : Text) (rest : List Segment) :
    pattern.refine (.plain text :: rest) = pattern.split none text ++ pattern.refine rest := rfl

@[simp] theorem refine_append (pattern : Pattern) (left right : List Segment) :
    pattern.refine (left ++ right) = pattern.refine left ++ pattern.refine right :=
  List.flatMap_append

theorem startsPlain_refine (pattern : Pattern) {segments : List Segment}
    (apart : startsPlain segments = false) : startsPlain (pattern.refine segments) = false := by
  cases segments with
  | nil => rfl
  | cons segment rest => cases segment <;> simp_all

theorem refine_tight (pattern : Pattern) {segments : List Segment} (tight : Tight segments) :
    Tight (pattern.refine segments) := by
  induction tight with
  | nil => exact .nil
  | span filled _ ih => exact .span filled ih
  | @plain text rest _ apart _ ih =>
    rw [refine_plain]
    exact (scan_split pattern none text).tight.append (startsPlain_refine pattern apart) ih

theorem foldl_refine_tight (patterns : List Pattern) {parts : List Segment} (tight : Tight parts) :
    Tight (patterns.foldl (fun parts pattern => pattern.refine parts) parts) := by
  induction patterns generalizing parts with
  | nil => exact tight
  | cons pattern patterns ih => exact ih (refine_tight pattern tight)

@[simp] theorem foldl_refine_nil (patterns : List Pattern) :
    patterns.foldl (fun parts pattern => pattern.refine parts) [] = [] := by
  induction patterns with
  | nil => rfl
  | cons pattern patterns ih => rw [List.foldl_cons, refine_nil, ih]

theorem foldl_refine_span_cons (patterns : List Pattern) (unit : Span) (rest : List Segment) :
    patterns.foldl (fun parts pattern => pattern.refine parts) (.span unit :: rest) =
      .span unit :: patterns.foldl (fun parts pattern => pattern.refine parts) rest := by
  induction patterns generalizing rest with
  | nil => rfl
  | cons pattern patterns ih => rw [List.foldl_cons, refine_span, ih, List.foldl_cons]

theorem foldl_refine_append (patterns : List Pattern) (left right : List Segment) :
    patterns.foldl (fun parts pattern => pattern.refine parts) (left ++ right) =
      patterns.foldl (fun parts pattern => pattern.refine parts) left ++
        patterns.foldl (fun parts pattern => pattern.refine parts) right := by
  induction patterns generalizing left right with
  | nil => rfl
  | cons pattern patterns ih => rw [List.foldl_cons, refine_append, ih, List.foldl_cons, List.foldl_cons]

theorem source_foldl_refine (patterns : List Pattern) (parts : List Segment) :
    source (patterns.foldl (fun parts pattern => pattern.refine parts) parts) = source parts := by
  induction patterns generalizing parts with
  | nil => rfl
  | cons pattern patterns ih => rw [List.foldl_cons, ih, source_refine]

end Pattern

namespace Segment

theorem source_segments (text : Text) : source (segments text) = text := by
  rw [segments, Pattern.source_foldl_refine]
  simp [raw]

theorem segments_nil : segments [] = [] := by
  simp [segments, Pattern.all]

theorem segments_tight (text : Text) : Tight (segments text) := by
  cases text with
  | nil =>
    rw [segments_nil]
    exact .nil
  | cons c text => exact Pattern.foldl_refine_tight Pattern.all (.plain (by simp) rfl .nil)

/-- Segments lose nothing, none is empty, and no two plain ones stand side by side. -/
theorem segments_partition (text : Text) :
    source (segments text) = text ∧
    (∀ piece, .plain piece ∈ segments text → piece ≠ []) ∧
    (∀ unit, .span unit ∈ segments text → unit.raw ≠ []) ∧
    ∀ front left right rest, segments text ≠ front ++ .plain left :: .plain right :: rest := by
  have filled := (segments_tight text).raw_ne_nil
  refine ⟨source_segments text, fun piece => filled (.plain piece), fun unit => filled (.span unit), ?_⟩
  intro front left right rest same
  have tight := segments_tight text
  rw [same] at tight
  cases tight.suffix with
  | plain _ apart _ => cases apart

end Segment

end ChatMarkup
