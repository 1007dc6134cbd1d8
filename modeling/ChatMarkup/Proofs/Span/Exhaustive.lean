import ChatMarkup.Proofs.Span.Partition
import ChatMarkup.Proofs.Span.Reading

namespace ChatMarkup

namespace Pattern

open Segment

/-- Cutting a text at `edge` characters changes nothing for a span that lies between the cuts. -/
def Local (pattern : Pattern) (edge : Option Char → Prop) : Prop :=
  ∀ {before text unit rest}, pattern.read? before text = some (unit, rest) →
    ∀ other more, other = before ∨ edge other → rest ≠ [] ∨ edge more.head? →
      pattern.read? other (text ++ more) = some (unit, rest ++ more)

/-- A text without spans of the pattern when it stands alone. -/
def Clear (pattern : Pattern) (text : Text) : Prop := pattern.Absent none text []

theorem Local.clear {pattern : Pattern} {edge : Option Char → Prop} (isLocal : pattern.Local edge)
    {before : Option Char} {piece after : Text} (absent : pattern.Absent before piece after)
    (front : ∀ {unit rest}, pattern.read? none piece = some (unit, rest) → edge before)
    (back : ∀ {other start unit}, pattern.read? other unit.raw = some (unit, []) →
      piece = start ++ unit.raw → edge after.head?) : pattern.Clear piece := by
  intro start tail filled whole
  rw [List.append_nil]
  cases read : pattern.read? (start.getLast?.or none) tail with
  | none => rfl
  | some found =>
    obtain ⟨unit, rest⟩ := found
    have inPlace : pattern.read? (start.getLast?.or before) (tail ++ after) =
        some (unit, rest ++ after) := by
      apply isLocal read
      · cases start with
        | nil =>
          rw [List.nil_append] at whole
          exact .inr (front (whole ▸ read))
        | cons c start => simp [List.getLast?_cons]
      · by_cases empty : rest = []
        · have same := pattern.append_of_read? read
          rw [empty, List.append_nil] at same
          rw [empty, same] at read
          rw [same] at whole
          exact .inr (back read whole)
        · exact .inl empty
    rw [absent start tail filled whole] at inPlace
    cases inPlace

theorem local_of_content {pattern : Pattern} {edge : Option Char → Prop} (unit : Text → Span)
    (read? : Option Char → Text → Option (Text × Text))
    (same : ∀ before text, pattern.read? before text =
      (read? before text).map fun (content, rest) => (unit content, rest))
    (stable : ∀ {before text content rest}, read? before text = some (content, rest) →
      ∀ other more, other = before ∨ edge other → rest ≠ [] ∨ edge more.head? →
        read? other (text ++ more) = some (content, rest ++ more)) : pattern.Local edge := by
  intro before text unit rest found other more front back
  rw [same] at found ⊢
  obtain ⟨⟨content, after⟩, read, rfl, rfl⟩ := Option.map_eq_some_iff.mp found
  rw [stable read other more front back, Option.map_some]

theorem codeBlock_local : codeBlock.Local fun _ => True := by
  refine local_of_content _ _ (fun _ _ => rfl) ?_
  intro _ text content rest read _ more _ _
  exact fenced?_append read more

theorem enclosed_local (kind : Span.Kind) {delimiter : Text} (filled : delimiter ≠ []) (stop : Char) :
    (ofContent kind delimiter filled (fun _ text => enclosed? delimiter stop text)
      fun found => (append_of_enclosed? found).1).Local fun _ => True := by
  refine local_of_content _ _ (fun _ _ => rfl) ?_
  intro _ text content rest read _ more _ _
  exact enclosed?_append filled read more

theorem inlineCode_local : inlineCode.Local fun _ => True :=
  enclosed_local .inlineCode (by decide) '\x60'

theorem link_local : link.Local fun _ => True := by
  intro before text unit rest read other more _ _
  exact readLink?_append read more

theorem bold_local : bold.Local fun _ => True := enclosed_local .bold (by decide) '*'

theorem underscoreItalic_local : underscoreItalic.Local fun _ => True :=
  enclosed_local .italic (by decide) '_'

theorem asteriskItalic_local : asteriskItalic.Local (· ≠ some '*') := by
  refine local_of_content _ _ (fun _ _ => rfl) ?_
  intro before text content rest found other more front back
  obtain ⟨free, read, next⟩ := loneAsterisks?_eq_some_iff.mp found
  refine loneAsterisks?_eq_some_iff.mpr ⟨?_, enclosed?_append (by decide) read more, ?_⟩
  · rcases front with rfl | clean
    · exact free
    · exact clean
  · cases rest with
    | nil => simpa using back
    | cons c rest => exact next

def Clears (pattern : Pattern) : Prop :=
  ∀ {text piece}, .plain piece ∈ pattern.split none text → pattern.Clear piece

def Inherits (pattern cut : Pattern) : Prop :=
  ∀ {text piece}, pattern.Clear text → .plain piece ∈ cut.split none text → pattern.Clear piece

theorem Local.clears {pattern : Pattern} (isLocal : pattern.Local fun _ => True) :
    pattern.Clears := by
  intro text piece member
  obtain ⟨before, after, absent⟩ := (scan_split pattern none text).absent_of_mem member
  exact isLocal.clear absent (fun _ => trivial) (fun _ _ => trivial)

theorem Local.inherits {pattern cut : Pattern} {edge : Option Char → Prop}
    (isLocal : pattern.Local edge) (outside : edge none)
    (ends : ∀ {before text unit rest}, cut.read? before text = some (unit, rest) →
      edge unit.raw.head? ∧ edge unit.raw.getLast?) : pattern.Inherits cut := by
  intro text piece clear member
  have scan := scan_split cut none text
  obtain ⟨left, right, whole, front, back⟩ := scan.tight.between member
  have bounded : ∀ unit, .span unit ∈ cut.split none text →
      edge unit.raw.head? ∧ edge unit.raw.getLast? := by
    intro unit inside
    obtain ⟨before, from_, rest, read⟩ := scan.read_of_mem inside
    exact ends read
  rw [source_split] at whole
  rw [Clear, whole] at clear
  refine isLocal.clear clear.inside (fun _ => ?_) (fun _ _ => ?_)
  · rw [Option.or_none]
    rcases front with last | ⟨unit, inside, last⟩
    · rwa [last]
    · rw [last]
      exact (bounded unit inside).2
  · rw [List.append_nil]
    rcases back with first | ⟨unit, inside, first⟩
    · rwa [first]
    · rw [first]
      exact (bounded unit inside).1

theorem asteriskItalic_read {before : Option Char} {text rest : Text} {unit : Span}
    (found : asteriskItalic.read? before text = some (unit, rest)) :
    before ≠ some '*' ∧ rest.head? ≠ some '*' ∧ ∃ content, unit.raw = ['*'] ++ content ++ ['*'] := by
  obtain ⟨⟨content, after⟩, read, rfl, rfl⟩ := Option.map_eq_some_iff.mp found
  obtain ⟨free, _, next⟩ := loneAsterisks?_eq_some_iff.mp read
  exact ⟨free, next, content, rfl⟩

theorem Scan.asteriskItalic_clear {before : Option Char} {segments : List Segment}
    (scan : Scan asteriskItalic before segments)
    (start : before = some '*' → (source segments).head? ≠ some '*') :
    ∀ piece, .plain piece ∈ segments → asteriskItalic.Clear piece := by
  induction scan with
  | nil => simp
  | span read _ ih =>
    intro piece member
    rcases List.mem_cons.mp member with same | member
    · cases same
    · exact ih (fun _ => (asteriskItalic_read read).2.1) piece member
  | @plain before text rest filled apart absent others ih =>
    have next : text.getLast? = some '*' → (source rest).head? ≠ some '*' := by
      intro last
      cases others with
      | nil => simp
      | span read _ => exact absurd last (asteriskItalic_read read).1
      | plain => cases apart
    intro piece member
    rcases List.mem_cons.mp member with same | member
    · cases same
      -- a cut could only free a span that an asterisk beside the piece held back, and there is none
      refine asteriskItalic_local.clear absent ?_ ?_
      · intro unit after read touching
        obtain ⟨_, _, content, shape⟩ := asteriskItalic_read read
        apply start touching
        rw [source_cons, Segment.raw, asteriskItalic.append_of_read? read, shape]
        rfl
      · intro other front unit read whole
        obtain ⟨_, _, content, shape⟩ := asteriskItalic_read read
        apply next
        rw [whole, shape, ← List.append_assoc front, List.getLast?_concat]
    · exact ih next piece member

theorem asteriskItalic_clears : asteriskItalic.Clears := by
  intro text piece member
  exact (scan_split asteriskItalic none text).asteriskItalic_clear (by simp) piece member

theorem all_clears : ∀ pattern ∈ all, pattern.Clears := by
  intro pattern member
  simp only [all, List.mem_cons, List.not_mem_nil, or_false] at member
  rcases member with rfl | rfl | rfl | rfl | rfl | rfl
  · exact codeBlock_local.clears
  · exact inlineCode_local.clears
  · exact link_local.clears
  · exact bold_local.clears
  · exact asteriskItalic_clears
  · exact underscoreItalic_local.clears

theorem asteriskItalic_inherits : asteriskItalic.Inherits underscoreItalic := by
  apply asteriskItalic_local.inherits (by simp)
  intro before text unit rest found
  obtain ⟨⟨content, after⟩, read, rfl, rfl⟩ := Option.map_eq_some_iff.mp found
  have first : (Span.enclosed .italic ['_'] content).raw.head? = some '_' := rfl
  have last : (Span.enclosed .italic ['_'] content).raw.getLast? = some '_' :=
    List.getLast?_concat
  rw [first, last]
  decide

theorem all_inherit : all.Pairwise Inherits := by
  have steady {pattern : Pattern} (isLocal : pattern.Local fun _ => True) (cuts : List Pattern) :
      ∀ cut ∈ cuts, pattern.Inherits cut :=
    fun cut _ => isLocal.inherits trivial fun _ => ⟨trivial, trivial⟩
  refine .cons (steady codeBlock_local _) (.cons (steady inlineCode_local _)
    (.cons (steady link_local _) (.cons (steady bold_local _) (.cons ?_ (.cons ?_ .nil)))))
  · intro cut member
    rw [List.mem_singleton.mp member]
    exact asteriskItalic_inherits
  · exact steady underscoreItalic_local _

theorem mem_refine_plain {pattern : Pattern} {parts : List Segment} {piece : Text}
    (member : .plain piece ∈ pattern.refine parts) :
    ∃ text, .plain text ∈ parts ∧ .plain piece ∈ pattern.split none text := by
  obtain ⟨segment, inside, member⟩ := List.mem_flatMap.mp member
  cases segment with
  | plain text => exact ⟨text, inside, member⟩
  | span unit => simp at member

theorem foldl_refine_clear {pattern : Pattern} {cuts : List Pattern}
    (inherit : ∀ cut ∈ cuts, pattern.Inherits cut) {parts : List Segment}
    (clear : ∀ text, .plain text ∈ parts → pattern.Clear text) :
    ∀ piece, .plain piece ∈ cuts.foldl (fun parts cut => cut.refine parts) parts →
      pattern.Clear piece := by
  induction cuts generalizing parts with
  | nil => exact clear
  | cons cut cuts ih =>
    rw [List.forall_mem_cons] at inherit
    apply ih inherit.2
    intro text member
    obtain ⟨whole, inside, member⟩ := mem_refine_plain member
    exact inherit.1 (clear whole inside) member

theorem foldl_refine_clears {patterns : List Pattern} (clears : ∀ pattern ∈ patterns, pattern.Clears)
    (inherit : patterns.Pairwise Inherits) (parts : List Segment) :
    ∀ pattern ∈ patterns, ∀ piece,
      .plain piece ∈ patterns.foldl (fun parts cut => cut.refine parts) parts →
        pattern.Clear piece := by
  induction patterns generalizing parts with
  | nil => simp
  | cons first patterns ih =>
    rw [List.forall_mem_cons] at clears
    rw [List.pairwise_cons] at inherit
    rw [List.forall_mem_cons]
    refine ⟨?_, ih clears.2 inherit.2 (first.refine parts)⟩
    apply foldl_refine_clear inherit.1
    intro text member
    obtain ⟨whole, _, member⟩ := mem_refine_plain member
    exact clears.1 member

theorem foldl_refine_of_clear {patterns : List Pattern} {piece : Text} (filled : piece ≠ [])
    (clear : ∀ pattern ∈ patterns, pattern.Clear piece) :
    patterns.foldl (fun parts pattern => pattern.refine parts) [.plain piece] = [.plain piece] := by
  induction patterns with
  | nil => rfl
  | cons pattern patterns ih =>
    rw [List.forall_mem_cons] at clear
    rw [List.foldl_cons, refine_plain, refine_nil, List.append_nil, split_of_absent filled clear.1]
    exact ih clear.2

end Pattern

namespace Segment

/-- A piece left plain holds no span, not even where the spans around it have been cut away. -/
theorem segments_of_plain_mem {text piece : Text} (left : .plain piece ∈ segments text) :
    segments piece = [.plain piece] := by
  have filled : piece ≠ [] := (segments_tight text).raw_ne_nil (.plain piece) left
  apply Pattern.foldl_refine_of_clear filled
  intro pattern member
  exact Pattern.foldl_refine_clears Pattern.all_clears Pattern.all_inherit _ pattern member piece left

theorem segments_of_plain_mem_asterisks :
    .plain "b*".toList ∈ segments "_x_*a*b*_y_".toList ∧
      segments "b*".toList = [.plain "b*".toList] := by
  have left : .plain "b*".toList ∈ segments "_x_*a*b*_y_".toList := by decide +kernel
  exact ⟨left, segments_of_plain_mem left⟩

end Segment

end ChatMarkup
