import ChatMarkup.Span.Basic

namespace ChatMarkup

/-- How spans of one notation are written. Given the character before a place, if any, and the text
    from there on, `read?` answers the span that starts there and the text after it. -/
structure Pattern where
  read? : Option Char → Text → Option (Span × Text)
  append_of_read? : ∀ {before text span rest},
    read? before text = some (span, rest) → text = span.raw ++ rest
  raw_ne_nil : ∀ {before text span rest}, read? before text = some (span, rest) → span.raw ≠ []

namespace Pattern

/-- Cuts out the spans of one pattern, leftmost first, each search starting where the last span ended. -/
def split (pattern : Pattern) (before : Option Char) (text : Text) : List Segment :=
  match text with
  | [] => []
  | c :: cs =>
    match _found : pattern.read? before (c :: cs) with
    | some (span, rest) => .span span :: pattern.split span.raw.getLast? rest
    | none => Segment.consPlain c (pattern.split (some c) cs)
termination_by text.length
decreasing_by
  · have whole := congrArg List.length (pattern.append_of_read? _found)
    have filled := List.length_pos_iff.mpr (pattern.raw_ne_nil _found)
    simp only [List.length_append, List.length_cons] at whole ⊢
    omega
  · simp

theorem source_split (pattern : Pattern) (before : Option Char) (text : Text) :
    Segment.source (pattern.split before text) = text := by
  fun_induction pattern.split before text with
  | case1 => rfl
  | case2 before c cs span rest found ih =>
    rw [pattern.append_of_read? found]
    simp [Segment.raw, ih]
  | case3 before c cs found ih => simp [ih]

def refine (pattern : Pattern) (segments : List Segment) : List Segment :=
  segments.flatMap fun
    | .plain text => pattern.split none text
    | .span span => [.span span]

theorem source_refine (pattern : Pattern) (segments : List Segment) :
    Segment.source (pattern.refine segments) = Segment.source segments := by
  induction segments with
  | nil => rfl
  | cons segment rest ih =>
    simp only [refine, List.flatMap_cons, Segment.source_append, Segment.source_cons] at ih ⊢
    rw [ih]
    cases segment <;> simp [source_split, Segment.raw]

end Pattern

end ChatMarkup
