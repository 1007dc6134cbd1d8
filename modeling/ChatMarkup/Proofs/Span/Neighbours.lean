import ChatMarkup.Proofs.Span.Exhaustive
import Mathlib.Data.List.Chain

namespace ChatMarkup

namespace Segment

def Loose : Segment → Prop
  | .plain _ => True
  | .span unit => unit.delimiter = ['*']

/-- No two asterisks meet where a loose segment stands next to another. -/
def Spaced (left right : Segment) : Prop :=
  left.Loose → right.Loose → ¬ (left.raw.getLast? = some '*' ∧ right.raw.head? = some '*')

theorem spaced_span_left {unit : Span} (tied : unit.delimiter ≠ ['*']) (right : Segment) :
    Spaced (.span unit) right := fun loose => absurd loose tied

theorem spaced_span_right (left : Segment) {unit : Span} (tied : unit.delimiter ≠ ['*']) :
    Spaced left (.span unit) := fun _ loose => absurd loose tied

theorem Spaced.replace_right {left right : Segment} {piece : Text}
    (spaced : Spaced left (.plain piece)) (same : right.raw.head? = piece.head?) :
    Spaced left right := by
  intro loose _ touching
  rw [same] at touching
  exact spaced loose trivial touching

theorem Spaced.replace_left {left right : Segment} {piece : Text}
    (spaced : Spaced (.plain piece) right) (same : left.raw.getLast? = piece.getLast?) :
    Spaced left right := by
  intro _ loose touching
  rw [same] at touching
  exact spaced trivial loose touching

end Segment

namespace Pattern

open Segment

theorem spaced_of_tied {segments : List Segment} (tight : Tight segments)
    (tied : ∀ unit, .span unit ∈ segments → unit.delimiter ≠ ['*']) : segments.IsChain Spaced := by
  induction tight with
  | nil => exact .nil
  | @span unit rest _ _ ih =>
    have others := ih fun other member => tied other (List.mem_cons_of_mem _ member)
    exact others.cons fun next _ => spaced_span_left (tied unit List.mem_cons_self) next
  | @plain text rest _ apart _ ih =>
    have others := ih fun other member => tied other (List.mem_cons_of_mem _ member)
    refine others.cons fun next first => ?_
    obtain ⟨more, rfl⟩ := List.head?_eq_some_iff.mp first
    cases next with
    | plain other => cases apart
    | span unit => exact spaced_span_right _ (tied unit (by simp))

theorem Scan.asteriskItalic_spaced {before : Option Char} {segments : List Segment}
    (scan : Scan asteriskItalic before segments) : segments.IsChain Spaced := by
  induction scan with
  | nil => exact .nil
  | @span before unit rest read others ih =>
    refine ih.cons fun next first => ?_
    obtain ⟨more, rfl⟩ := List.head?_eq_some_iff.mp first
    rintro - - ⟨-, touching⟩
    have free := (asteriskItalic_read read).2.1
    rw [head?_source (others.tight.raw_ne_nil next List.mem_cons_self)] at free
    exact free touching
  | @plain before piece rest _ apart _ others ih =>
    refine ih.cons fun next first => ?_
    obtain ⟨more, rfl⟩ := List.head?_eq_some_iff.mp first
    rintro - - ⟨touching, -⟩
    cases others with
    | span read _ => exact (asteriskItalic_read read).1 touching
    | plain => cases apart

theorem split_ne_nil (pattern : Pattern) {text : Text} (filled : text ≠ []) :
    pattern.split none text ≠ [] := by
  intro empty
  have whole := source_split pattern none text
  rw [empty] at whole
  exact filled whole.symm

theorem head?_split {pattern : Pattern} {text : Text} {first : Segment}
    (member : first ∈ (pattern.split none text).head?) : first.raw.head? = text.head? := by
  obtain ⟨rest, cut⟩ := List.head?_eq_some_iff.mp member
  have tight := (scan_split pattern none text).tight
  rw [cut] at tight
  rw [← head?_source (tight.raw_ne_nil first List.mem_cons_self), ← cut, source_split]

theorem getLast?_split {pattern : Pattern} {text : Text} {last : Segment}
    (member : last ∈ (pattern.split none text).getLast?) : last.raw.getLast? = text.getLast? := by
  obtain ⟨front, cut⟩ := List.getLast?_eq_some_iff.mp member
  have tight := (scan_split pattern none text).tight
  rw [cut] at tight
  rw [← getLast?_source (tight.raw_ne_nil last (by simp)), ← cut, source_split]

theorem refine_spaced {pattern : Pattern} (cuts : ∀ text, (pattern.split none text).IsChain Spaced)
    {parts : List Segment} (tight : Tight parts) (spaced : parts.IsChain Spaced) :
    (pattern.refine parts).IsChain Spaced := by
  induction tight with
  | nil => exact .nil
  | @span unit rest _ others ih =>
    rw [refine_span]
    refine (ih spaced.tail).cons fun next first => ?_
    cases others with
    | nil => cases first
    | span =>
      cases first
      exact (List.isChain_cons_cons.mp spaced).1
    | plain filled =>
      rw [refine_plain, List.head?_append_of_ne_nil _ (split_ne_nil pattern filled)] at first
      exact (List.isChain_cons_cons.mp spaced).1.replace_right (head?_split first)
  | @plain text rest _ apart others ih =>
    rw [refine_plain]
    -- what the pattern makes of a piece begins and ends as the piece does
    refine (cuts text).append (ih spaced.tail) fun left last right first => ?_
    cases others with
    | nil => cases first
    | plain => cases apart
    | span =>
      cases first
      exact (List.isChain_cons_cons.mp spaced).1.replace_left (getLast?_split last)

theorem foldl_refine_spaced {patterns : List Pattern}
    (cuts : ∀ pattern ∈ patterns, ∀ text, (pattern.split none text).IsChain Spaced)
    {parts : List Segment} (tight : Tight parts) (spaced : parts.IsChain Spaced) :
    (patterns.foldl (fun parts pattern => pattern.refine parts) parts).IsChain Spaced := by
  induction patterns generalizing parts with
  | nil => exact spaced
  | cons pattern patterns ih =>
    rw [List.forall_mem_cons] at cuts
    exact ih cuts.2 (refine_tight pattern tight) (refine_spaced cuts.1 tight spaced)

def Yields (pattern : Pattern) (kind : Span.Kind) (delimiter : Text) : Prop :=
  ∀ {before text unit rest}, pattern.read? before text = some (unit, rest) →
    unit.kind = kind ∧ unit.delimiter = delimiter

theorem ofContent_yields {kind : Span.Kind} {delimiter : Text} {filled : delimiter ≠ []}
    {read? : Option Char → Text → Option (Text × Text)}
    (append_of_read? : ∀ {before text content rest}, read? before text = some (content, rest) →
      text = delimiter ++ content ++ delimiter ++ rest) :
    (ofContent kind delimiter filled read? append_of_read?).Yields kind delimiter := by
  intro before text unit rest found
  obtain ⟨_, _, rfl, _⟩ := Option.map_eq_some_iff.mp found
  exact ⟨rfl, rfl⟩

theorem codeBlock_yields : codeBlock.Yields .codeBlock Span.fence :=
  ofContent_yields append_of_fenced?

theorem inlineCode_yields : inlineCode.Yields .inlineCode Span.backtick :=
  ofContent_yields fun found => (append_of_enclosed? found).1

theorem link_yields : link.Yields .link ['['] := by
  intro before text unit rest found
  obtain ⟨label, target, rfl, _⟩ := append_of_readLink? found
  exact ⟨rfl, rfl⟩

theorem bold_yields : bold.Yields .bold ['*', '*'] :=
  ofContent_yields fun found => (append_of_enclosed? found).1

theorem asteriskItalic_yields : asteriskItalic.Yields .italic ['*'] :=
  ofContent_yields fun found => (append_of_enclosed? (loneAsterisks?_eq_some_iff.mp found).2.1).1

theorem underscoreItalic_yields : underscoreItalic.Yields .italic ['_'] :=
  ofContent_yields fun found => (append_of_enclosed? found).1

theorem Yields.split_spaced {pattern : Pattern} {kind : Span.Kind} {delimiter : Text}
    (yields : pattern.Yields kind delimiter) (other : delimiter ≠ ['*']) (text : Text) :
    (pattern.split none text).IsChain Spaced := by
  have scan := scan_split pattern none text
  refine spaced_of_tied scan.tight fun unit member => ?_
  obtain ⟨before, place, rest, read⟩ := scan.read_of_mem member
  rwa [(yields read).2]

theorem all_spaced : ∀ pattern ∈ all, ∀ text, (pattern.split none text).IsChain Spaced := by
  simp only [all, List.forall_mem_cons]
  exact ⟨codeBlock_yields.split_spaced (by decide), inlineCode_yields.split_spaced (by decide),
    link_yields.split_spaced (by decide), bold_yields.split_spaced (by decide),
    fun text => (scan_split asteriskItalic none text).asteriskItalic_spaced,
    underscoreItalic_yields.split_spaced (by decide), by simp⟩

end Pattern

namespace Segment

open Pattern

/-- No italic in single asterisks touches an asterisk of plain text or of another such italic. -/
theorem segments_spaced (text : Text) : (segments text).IsChain Spaced := by
  cases text with
  | nil =>
    rw [segments_nil]
    exact .nil
  | cons c text => exact foldl_refine_spaced all_spaced (.plain (by simp) rfl .nil) (.singleton _)

end Segment

end ChatMarkup
