import ChatMarkup.Proofs.Span.Alone
import ChatMarkup.Proofs.Span.Grammar

namespace ChatMarkup

namespace Pattern

open Segment

/-- Where a span with `front` before it and `back` behind it comes from. -/
inductive Origin (pattern : Pattern) (unit : Span) :
    (parts front back : List Segment) → Prop
  | kept (left right : List Segment) :
      Origin pattern unit (left ++ .span unit :: right) (pattern.refine left) (pattern.refine right)
  | found {left right first last : List Segment} {piece : Text}
      (cut : pattern.split none piece = first ++ .span unit :: last) :
      Origin pattern unit (left ++ .plain piece :: right) (pattern.refine left ++ first)
        (last ++ pattern.refine right)

theorem Origin.cons {pattern : Pattern} {unit : Span} {parts front back : List Segment}
    (origin : Origin pattern unit parts front back) (segment : Segment) :
    Origin pattern unit (segment :: parts) (pattern.refine [segment] ++ front) back := by
  cases origin with
  | kept left right =>
    rw [← refine_append, ← List.cons_append]
    exact .kept (segment :: left) right
  | found cut =>
    rw [← List.append_assoc, ← refine_append, ← List.cons_append]
    exact .found cut

theorem origin_of_refine {pattern : Pattern} {parts front back : List Segment} {unit : Span}
    (whole : pattern.refine parts = front ++ .span unit :: back) :
    Origin pattern unit parts front back := by
  induction parts generalizing front with
  | nil => simp at whole
  | cons segment parts ih =>
    cases segment with
    | span other =>
      rw [refine_span] at whole
      cases front with
      | nil =>
        obtain ⟨same, rfl⟩ := List.cons.inj whole
        cases same
        exact .kept [] parts
      | cons head front =>
        obtain ⟨rfl, rest⟩ := List.cons.inj whole
        exact (ih rest).cons (.span other)
    | plain text =>
      rw [refine_plain] at whole
      rcases List.append_eq_append_iff.mp whole with ⟨ahead, rfl, rest⟩ | ⟨more, cut, rest⟩
      · have later := (ih rest).cons (.plain text)
        rwa [refine_plain, refine_nil, List.append_nil] at later
      · cases more with
        | nil =>
          have later := (@ih [] rest.symm).cons (.plain text)
          rwa [refine_plain, refine_nil, List.append_nil, List.append_nil, cut, List.append_nil] at later
        | cons head last =>
          obtain ⟨rfl, rfl⟩ := List.cons.inj rest
          exact @Origin.found pattern unit [] parts front last text cut

theorem foldl_refine_kept {patterns : List Pattern} {unit : Span}
    (unread : ∀ pattern ∈ patterns, ∀ before text rest, pattern.read? before text ≠ some (unit, rest))
    {parts front back : List Segment}
    (whole : patterns.foldl (fun parts pattern => pattern.refine parts) parts =
      front ++ .span unit :: back) :
    ∃ left right, parts = left ++ .span unit :: right ∧
      front = patterns.foldl (fun parts pattern => pattern.refine parts) left ∧
      back = patterns.foldl (fun parts pattern => pattern.refine parts) right := by
  induction patterns generalizing parts with
  | nil => exact ⟨front, back, whole, rfl, rfl⟩
  | cons pattern patterns ih =>
    rw [List.forall_mem_cons] at unread
    obtain ⟨left, right, refined, rfl, rfl⟩ := ih unread.2 whole
    cases origin_of_refine refined with
    | kept left right => exact ⟨left, right, rfl, rfl, rfl⟩
    | @found _ _ _ _ piece cut =>
      obtain ⟨before, text, rest, read⟩ :=
        (scan_split pattern none piece).read_of_mem (cut ▸ by simp : .span unit ∈ pattern.split none piece)
      exact absurd read (unread.1 before text rest)

/-! A piece of a text put in the place of another, as a pattern sees it. -/

def Settled (pattern : Pattern) : Prop :=
  ∀ {before unit rest}, pattern.read? before (unit.raw ++ rest) = some (unit, rest) →
    ∀ other, pattern.read? before (unit.raw ++ other) = some (unit, other)

theorem codeBlock_settled : codeBlock.Settled := by
  intro before unit rest found other
  obtain ⟨⟨content, after⟩, read, rfl, rfl⟩ := Option.map_eq_some_iff.mp found
  exact read?_codeBlock (fenced?_nearest read) before other

theorem inlineCode_settled : inlineCode.Settled := by
  intro before unit rest found other
  obtain ⟨⟨content, after⟩, read, rfl, rfl⟩ := Option.map_eq_some_iff.mp found
  exact read?_inlineCode (append_of_enclosed? read).2 (enclosed?_inside read) before other

/-- The last segments can be exchanged if that lets no span begin in front of them. -/
theorem Scan.exchange {pattern : Pattern} (settled : pattern.Settled) {before : Option Char}
    {front old new : List Segment} (scan : Scan pattern before (front ++ old))
    (starts : startsPlain new = startsPlain old)
    (unread : ∀ {other text}, text ≠ [] → pattern.read? other (text ++ source old) = none →
      pattern.read? other (text ++ source new) = none)
    (behind : ∀ {other}, Scan pattern other old → Scan pattern other new) :
    Scan pattern before (front ++ new) := by
  induction front generalizing before with
  | nil => exact behind scan
  | cons segment front ih =>
    rw [List.cons_append] at scan ⊢
    cases scan with
    | span read others => exact .span (settled read _) (ih others)
    | @plain _ piece rest filled apart absent others =>
      have still : startsPlain (front ++ new) = false := by
        cases front with
        | nil => exact starts.trans apart
        | cons segment front => cases segment <;> simp_all
      refine .plain filled still ?_ (ih others)
      intro start tail real whole
      have missing := absent start tail real whole
      rw [source_append, ← List.append_assoc] at missing ⊢
      exact unread (by simp [real]) missing

theorem inlineCode_unread {before : Option Char} {text more : Text} (filled : text ≠ [])
    (missing : inlineCode.read? before (text ++ '\x60' :: more) = none) (other : Text) :
    inlineCode.read? before (text ++ '\x60' :: other) = none := by
  obtain ⟨first, text, rfl⟩ := List.exists_cons_of_ne_nil filled
  cases found : inlineCode.read? before (first :: text ++ '\x60' :: other) with
  | none => rfl
  | some answer =>
    obtain ⟨⟨content, after⟩, read, _⟩ := Option.map_eq_some_iff.mp found
    obtain ⟨whole, real, inside⟩ := enclosed?_eq_some_iff.mp read
    obtain ⟨rfl, inner⟩ := List.cons.inj whole
    have free : '\x60' ∉ content := fun member => (inside _ member).1 rfl
    -- the span ends at the next backtick, which both texts have
    have ends : content ++ ['\x60'] <+: text ++ '\x60' :: other := ⟨after, inner.symm⟩
    rw [Text.concat_prefix_append_cons_iff free] at ends
    have here : content ++ ['\x60'] <+: text ++ '\x60' :: more :=
      (Text.concat_prefix_append_cons_iff free).mpr ends
    obtain ⟨rest, same⟩ := here
    have shape : '\x60' :: text ++ '\x60' :: more =
        (Span.enclosed .inlineCode Span.backtick content).raw ++ rest := by
      rw [List.cons_append, ← same]
      simp [Span.enclosed, Span.backtick]
    rw [shape, read?_inlineCode real inside] at missing
    cases missing

theorem fenced?_run {left run right : Text} (filled : run ≠ []) (plain : '\x60' ∉ run) :
    (fenced? (left ++ run ++ right)).isSome ↔
      ∃ body, left = Span.fence ++ body ∧ (Span.fence <:+: body ∨ Span.fence <:+: right) := by
  have apart : ∀ c ∈ run, c ∉ Span.fence := by
    intro c member fenced
    have same : c = '\x60' := by simpa [Span.fence] using fenced
    exact plain (same ▸ member)
  rw [fenced?_isSome_iff]
  constructor
  · rintro ⟨body, whole, closing⟩
    obtain ⟨c, run, rfl⟩ := List.exists_cons_of_ne_nil filled
    rw [List.append_assoc] at whole
    obtain ⟨inner, rfl⟩ := (Text.prefix_append_cons_iff (apart c List.mem_cons_self)).mp
      ⟨body, whole.symm⟩
    rw [List.append_assoc] at whole
    rw [← List.append_cancel_left whole, ← List.append_assoc,
      Text.infix_append_run_iff (by decide) filled apart] at closing
    exact ⟨inner, rfl, closing⟩
  · rintro ⟨body, rfl, closing⟩
    refine ⟨body ++ run ++ right, by simp, ?_⟩
    exact (Text.infix_append_run_iff (by decide) filled apart).mpr closing

theorem codeBlock_unread_run {run : Text} (filled : run ≠ []) (plain : '\x60' ∉ run)
    (before : Option Char) (right : Text) : codeBlock.read? before (run ++ right) = none := by
  have started := @fenced?_run [] run right filled plain
  refine Option.map_eq_none_iff.mpr (Option.not_isSome_iff_eq_none.mp ?_)
  rw [List.nil_append] at started
  rw [started]
  rintro ⟨body, empty, _⟩
  cases empty

section Exchange

variable {old new : Text} (was : old ≠ [] ∧ '\x60' ∉ old) (is : new ≠ [] ∧ '\x60' ∉ new)

include was is

theorem codeBlock_unread {before other : Option Char} {left right : Text}
    (missing : codeBlock.read? before (left ++ old ++ right) = none) :
    codeBlock.read? other (left ++ new ++ right) = none := by
  have unfenced := Option.not_isSome_iff_eq_none.mpr (Option.map_eq_none_iff.mp missing)
  refine Option.map_eq_none_iff.mpr (Option.not_isSome_iff_eq_none.mp ?_)
  rw [fenced?_run is.1 is.2]
  rwa [fenced?_run was.1 was.2] at unfenced

theorem codeBlock_absent {before : Option Char} {left right after : Text}
    (absent : codeBlock.Absent before (left ++ old ++ right) after) :
    codeBlock.Absent before (left ++ new ++ right) after := by
  intro front tail real whole
  rw [List.append_assoc] at whole
  rcases List.append_eq_append_iff.mp whole with ⟨more, rfl, rest⟩ | ⟨more, rfl, rfl⟩
  · rcases List.append_eq_append_iff.mp rest with ⟨inner, rfl, rfl⟩ | ⟨inner, same, rfl⟩
    · -- behind the new piece
      exact absent (left ++ old ++ inner) tail real (by simp)
    · -- at its end or within it, where no fence can open
      by_cases behind : inner = []
      · subst behind
        exact absent (left ++ old) right real rfl
      · have plain : '\x60' ∉ inner := fun member => is.2 (by simp [same, member])
        rw [List.append_assoc]
        exact codeBlock_unread_run behind plain _ _
  · -- in front of the new piece
    have missing := absent front (more ++ (old ++ right)) (by simp [was.1]) (by simp)
    rw [← List.append_assoc, List.append_assoc] at missing ⊢
    exact codeBlock_unread was is missing

theorem codeBlock_scan {before : Option Char} {front rest : List Segment} {left right : Text}
    (filled : right ≠ [])
    (scan : Scan codeBlock before (front ++ .plain (left ++ old ++ right) :: rest)) :
    Scan codeBlock before (front ++ .plain (left ++ new ++ right) :: rest) := by
  refine scan.exchange codeBlock_settled rfl ?_ ?_
  · intro other text _ missing
    simp only [source_cons, raw, List.append_assoc] at missing ⊢
    rw [← List.append_assoc text, ← List.append_assoc (text ++ left)] at missing ⊢
    exact codeBlock_unread was is missing
  · intro other scan
    cases scan with
    | plain _ apart absent others =>
      refine .plain (by simp [filled]) apart (codeBlock_absent was is absent) ?_
      obtain ⟨first, more, rfl⟩ := List.exists_cons_of_ne_nil filled
      simpa only [List.getLast?_append, List.getLast?_cons, Option.some_or] using others

end Exchange

theorem inlineCode_scan {before : Option Char} {front rest : List Segment} {old new : Text}
    (filled : new ≠ []) (inside : ∀ c ∈ new, c ≠ '\x60' ∧ c ≠ '\n')
    (scan : Scan inlineCode before
      (front ++ .span (.enclosed .inlineCode Span.backtick old) :: rest)) :
    Scan inlineCode before (front ++ .span (.enclosed .inlineCode Span.backtick new) :: rest) := by
  refine scan.exchange inlineCode_settled rfl ?_ ?_
  · intro other text real missing
    exact inlineCode_unread real missing _
  · intro other scan
    cases scan with
    | span _ others =>
      refine .span (read?_inlineCode filled inside _ _) ?_
      rw [Span.getLast?_enclosed rfl] at others ⊢
      exact others

theorem codeBlock_unread_code {unit : Span} (code : unit.kind = .inlineCode) (before : Option Char)
    (text rest : Text) : codeBlock.read? before text ≠ some (unit, rest) := by
  intro found
  obtain ⟨⟨content, after⟩, _, rfl, rfl⟩ := Option.map_eq_some_iff.mp found
  cases code

theorem source_code (first last : List Segment) (content : Text) :
    source (first ++ .span (.enclosed .inlineCode Span.backtick content) :: last) =
      source first ++ ['\x60'] ++ content ++ ('\x60' :: source last) := by
  simp [raw, Span.enclosed, Span.backtick]

theorem refine_exchange {parts left right : List Segment} {old new : Text}
    (was : old ≠ [] ∧ '\x60' ∉ old) (filled : new ≠ []) (inside : ∀ c ∈ new, c ≠ '\x60' ∧ c ≠ '\n')
    (fences : Scan codeBlock none parts)
    (refined : inlineCode.refine parts =
      left ++ .span (.enclosed .inlineCode Span.backtick old) :: right) :
    ∃ others, Scan codeBlock none others ∧ inlineCode.refine others =
      left ++ .span (.enclosed .inlineCode Span.backtick new) :: right := by
  cases origin_of_refine refined with
  | kept front back =>
    obtain ⟨before, text, rest, read⟩ := fences.read_of_mem List.mem_append_cons_self
    exact absurd read (codeBlock_unread_code rfl before text rest)
  | @found front back first last piece cut =>
    -- the piece that the fences left plain is cut anew, its own fences being as before
    have codes := scan_split inlineCode none piece
    have whole := source_split inlineCode none piece
    rw [cut] at codes whole
    have again := (inlineCode_scan filled inside codes).split_eq
    rw [source_code] at again whole
    subst whole
    have plain : '\x60' ∉ new := fun member => (inside _ member).1 rfl
    refine ⟨_, codeBlock_scan was ⟨filled, plain⟩ (by simp) fences, ?_⟩
    rw [refine_append, refine_plain, again]
    simp

end Pattern

namespace Segment

open Pattern

def afterCode : List Pattern := [link, bold, asteriskItalic, underscoreItalic]

theorem segments_afterCode (text : Text) : segments text =
    afterCode.foldl (fun parts pattern => pattern.refine parts)
      (inlineCode.refine (codeBlock.split none text)) := by
  simp only [segments, Pattern.all, afterCode, List.foldl_cons, refine_plain, refine_nil,
    List.append_nil]

theorem afterCode_unread {unit : Span} (code : unit.kind = .inlineCode) :
    ∀ pattern ∈ afterCode, ∀ before text rest, pattern.read? before text ≠ some (unit, rest) := by
  simp only [afterCode, List.forall_mem_cons]
  refine ⟨?_, ?_, ?_, ?_, by simp⟩ <;> intro before text rest found
  · obtain ⟨label, target, rfl, _⟩ := append_of_readLink? found
    cases code
  all_goals
    obtain ⟨⟨content, after⟩, _, rfl, rfl⟩ := Option.map_eq_some_iff.mp found
    cases code

/-- Another content of an inline code span changes no other segment. -/
theorem segments_exchange {text content : Text} {front back : List Segment} {unit : Span}
    (found : segments text = front ++ .span unit :: back) (code : unit.kind = .inlineCode)
    (filled : content ≠ []) (inside : ∀ c ∈ content, c ≠ '\x60' ∧ c ≠ '\n') :
    segments (source front ++ (Span.enclosed .inlineCode Span.backtick content).raw ++ source back) =
      front ++ .span (.enclosed .inlineCode Span.backtick content) :: back := by
  have grammar : unit.Grammar := segments_grammar (found ▸ by simp : .span unit ∈ segments text)
  obtain ⟨shape, oldFilled, oldInside⟩ := grammar.of_inlineCode code
  have free : '\x60' ∉ unit.content := fun member => (oldInside _ member).1 rfl
  rw [segments_afterCode] at found
  obtain ⟨left, right, refined, rfl, rfl⟩ := foldl_refine_kept (afterCode_unread code) found
  rw [shape] at refined
  obtain ⟨parts, fences, others⟩ :=
    refine_exchange ⟨oldFilled, free⟩ filled inside (scan_split codeBlock none text) refined
  have whole : source parts = source left ++
      (Span.enclosed .inlineCode Span.backtick content).raw ++ source right := by
    rw [← source_refine inlineCode, others]
    simp [raw]
  rw [source_foldl_refine, source_foldl_refine, ← whole, segments_afterCode, fences.split_eq, others,
    foldl_refine_append, foldl_refine_span_cons]

end Segment

end ChatMarkup
