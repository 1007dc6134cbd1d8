import ChatMarkup.Proofs.Span.Alone
import ChatMarkup.Proofs.Span.Grammar
import ChatMarkup.Proofs.Span.Neighbours

namespace ChatMarkup

namespace Span

structure Between (delimiter : Text) (unit : Span) : Prop where
  marked : unit.delimiter = delimiter
  written : unit.raw = delimiter ++ unit.content ++ delimiter
  unlinked : unit.url = none

def InLine (mark : Char) (content : Text) : Prop :=
  content ≠ [] ∧ ∀ c ∈ content, c ≠ mark ∧ c ≠ '\n'

/-- The fields of a span say the same, and what they say is markdown of its kind. -/
def WellFormed (unit : Span) : Prop :=
  match unit.kind with
  | .codeBlock =>
    unit.Between fence ∧ ∀ inner rest, unit.content ++ fence = inner ++ fence ++ rest → rest = []
  | .inlineCode => unit.Between backtick ∧ InLine '\x60' unit.content
  | .bold => unit.Between ['*', '*'] ∧ InLine '*' unit.content
  | .italic =>
    ∃ mark, (mark = '*' ∨ mark = '_') ∧ unit.Between [mark] ∧ InLine mark unit.content
  | .link =>
    ∃ label target : Text, label ≠ [] ∧ target ≠ [] ∧
      Text.Protected ']' label ∧ Text.Protected ')' target ∧
      unit.raw = '[' :: label ++ ']' :: '(' :: target ++ [')'] ∧ unit.delimiter = ['['] ∧
      unit.content = label.unprotect ']' ∧ unit.url = some (target.unprotect ')')
  | .other _ => False

theorem Between.eq_enclosed {delimiter : Text} {unit : Span} (between : unit.Between delimiter) :
    unit = enclosed unit.kind delimiter unit.content := by
  obtain ⟨marked, written, unlinked⟩ := between
  cases unit
  simp_all [enclosed]

theorem between_enclosed (kind : Kind) (delimiter content : Text) :
    (enclosed kind delimiter content).Between delimiter := ⟨rfl, rfl, rfl⟩

theorem Grammar.wellFormed {unit : Span} (grammar : unit.Grammar) : unit.WellFormed := by
  cases grammar with
  | codeBlock nearest => exact ⟨between_enclosed _ _ _, Text.breakOn?_append_self_iff.mp nearest⟩
  | inlineCode filled inside => exact ⟨between_enclosed _ _ _, filled, inside⟩
  | bold filled inside => exact ⟨between_enclosed _ _ _, filled, inside⟩
  | italic known filled inside => exact ⟨_, known, between_enclosed _ _ _, filled, inside⟩
  | link named placed labelRun targetRun =>
    exact ⟨_, _, named, placed, Text.spanProtected_eq_iff.mp labelRun,
      Text.spanProtected_eq_iff.mp targetRun, rfl, rfl, rfl, rfl⟩

theorem WellFormed.grammar {unit : Span} (formed : unit.WellFormed) : unit.Grammar := by
  obtain ⟨kind, raw, content, delimiter, url⟩ := unit
  cases kind with
  | codeBlock =>
    obtain ⟨between, nearest⟩ := formed
    rw [between.eq_enclosed]
    exact .codeBlock (Text.breakOn?_append_self_iff.mpr nearest)
  | inlineCode =>
    obtain ⟨between, filled, inside⟩ := formed
    rw [between.eq_enclosed]
    exact .inlineCode filled inside
  | bold =>
    obtain ⟨between, filled, inside⟩ := formed
    rw [between.eq_enclosed]
    exact .bold filled inside
  | italic =>
    obtain ⟨mark, known, between, filled, inside⟩ := formed
    rw [between.eq_enclosed]
    exact .italic known filled inside
  | link =>
    obtain ⟨label, target, named, placed, labelRun, targetRun, rfl, rfl, rfl, rfl⟩ := formed
    exact .link named placed labelRun.spanProtected_eq targetRun.spanProtected_eq
  | other => exact formed.elim

def Kind.rank : Kind → Nat
  | codeBlock => 0
  | inlineCode => 1
  | link => 2
  | bold => 3
  | italic => 4
  | other _ => 5

theorem Kind.isCode_of_rank_lt {kind : Kind} (lower : kind.rank < 2) : kind.isCode := by
  cases kind with
  | codeBlock | inlineCode => rfl
  | link | bold | italic | other => simp [rank] at lower

theorem Grammar.rank_le {unit : Span} (grammar : unit.Grammar) : unit.kind.rank ≤ 4 := by
  cases grammar <;> exact Nat.le_of_ble_eq_true rfl

theorem Grammar.ends_of_asterisk {unit : Span} (grammar : unit.Grammar) (single : unit.delimiter = ['*']) :
    unit.raw.head? = some '*' ∧ unit.raw.getLast? = some '*' := by
  cases grammar with
  | codeBlock | inlineCode | bold | link => cases single
  | italic =>
    cases single
    exact ⟨rfl, getLast?_enclosed rfl⟩

theorem Grammar.exists_written {code : Span} (grammar : code.Grammar) (isCode : code.kind.isCode)
    {closer : Char} (visible : closer ≠ '\\') (other : closer ≠ '\x60') {text : Text}
    (inside : code.raw <:+: text.unprotect closer) :
    ∃ written : Span, written.Grammar ∧ written.kind = code.kind ∧ written.raw <:+: text := by
  cases grammar with
  | codeBlock =>
    obtain ⟨written, -, part⟩ := Text.infix_of_unprotect visible (by simpa [fence] using other) inside
    -- with its backslashes the text may have a nearer fence, which then closes the block
    obtain ⟨front, rest, found⟩ := Text.exists_breakOn?_append fence written
    obtain ⟨tail, rfl⟩ := Text.breakOn?_prefix found
    have whole := Text.breakOn?_append found
    have shorter : (enclosed .codeBlock fence front).raw <:+: fence ++ written ++ fence := by
      rw [List.append_assoc, whole]
      exact ⟨[], tail, by simp [enclosed]⟩
    rw [whole, ← List.append_assoc] at found
    exact ⟨_, .codeBlock (Text.breakOn?_append_left found), rfl, shorter.trans part⟩
  | inlineCode filled proper =>
    obtain ⟨written, rfl, part⟩ := Text.infix_of_unprotect visible (by simpa [backtick] using other) inside
    refine ⟨enclosed .inlineCode backtick written, .inlineCode ?_ fun c member => ?_, rfl, part⟩
    · rintro rfl
      exact filled rfl
    · constructor
      · rintro rfl
        exact (proper _ ((Text.mem_unprotect_iff (by decide)).mpr member)).1 rfl
      · rintro rfl
        exact (proper _ ((Text.mem_unprotect_iff (by decide)).mpr member)).2 rfl
  | link | bold | italic => cases isCode

end Span

namespace Pattern

open Segment

def Finds (pattern : Pattern) (unit : Span) : Prop :=
  ∀ before rest, pattern.read? before (unit.raw ++ rest) = some (unit, rest)

theorem Clear.not_infix {pattern : Pattern} {text : Text} (clear : pattern.Clear text) {unit : Span}
    (finds : pattern.Finds unit) : ¬ unit.raw <:+: text := by
  rintro ⟨front, back, whole⟩
  have filled := pattern.raw_ne_nil (finds none [])
  have missing := clear front (unit.raw ++ back) (by simp [filled]) (by rw [← whole, List.append_assoc])
  rw [List.append_assoc, finds] at missing
  cases missing

theorem finds_of_grammar {unit : Span} (grammar : unit.Grammar) (lower : unit.kind.rank < 4) :
    ∃ pattern, all[unit.kind.rank]? = some pattern ∧ pattern.Finds unit := by
  cases grammar with
  | codeBlock nearest => exact ⟨codeBlock, rfl, read?_codeBlock nearest⟩
  | inlineCode filled inside => exact ⟨inlineCode, rfl, read?_inlineCode filled inside⟩
  | bold filled inside => exact ⟨bold, rfl, read?_bold filled inside⟩
  | italic => exact absurd lower (Nat.lt_irrefl 4)
  | link named placed labelRun targetRun =>
    exact ⟨link, rfl, fun _ rest => readLink?_ofWrittenLink named placed labelRun targetRun rest⟩

theorem rank_le_of_read {place : Nat} {pattern : Pattern} (known : all[place]? = some pattern)
    {before : Option Char} {text rest : Text} {unit : Span}
    (read : pattern.read? before text = some (unit, rest)) : unit.kind.rank ≤ place := by
  match place, known with
  | 0, rfl => rw [(codeBlock_yields read).1]; decide
  | 1, rfl => rw [(inlineCode_yields read).1]; decide
  | 2, rfl => rw [(link_yields read).1]; decide
  | 3, rfl => rw [(bold_yields read).1]; decide
  | 4, rfl => rw [(asteriskItalic_yields read).1]; decide
  | 5, rfl => rw [(underscoreItalic_yields read).1]; decide

end Pattern

namespace Segment

open Pattern

theorem raw_infix_source {segment : Segment} {segments : List Segment} (member : segment ∈ segments) :
    segment.raw <:+: source segments := by
  obtain ⟨front, back, rfl⟩ := List.append_of_mem member
  exact ⟨source front, source back, by simp⟩

theorem segments_raw_free {text : Text} {unit : Span} (member : .span unit ∈ segments text)
    {other : Span} (grammar : other.Grammar) (lower : other.kind.rank < unit.kind.rank) :
    ¬ other.raw <:+: unit.raw := by
  obtain ⟨earlier, pattern, later, piece, order, left, found⟩ := segments_origin member
  obtain ⟨before, place, rest, read⟩ := (scan_split pattern none piece).read_of_mem found
  have own : all[earlier.length]? = some pattern := by simp [order]
  have bound := (read_grammar (order ▸ by simp) read).rank_le
  obtain ⟨first, ranked, finds⟩ := finds_of_grammar grammar (by omega)
  have ahead : first ∈ earlier := by
    rw [order, List.getElem?_append_left (lower.trans_le (rank_le_of_read own read))] at ranked
    exact List.mem_of_getElem? ranked
  have clears : ∀ pattern ∈ earlier, pattern.Clears := fun pattern known =>
    all_clears pattern (order ▸ List.mem_append_left _ known)
  have inherits : earlier.Pairwise Inherits := (List.pairwise_append.mp (order ▸ all_inherit)).1
  have clear := foldl_refine_clears clears inherits _ first ahead piece left
  intro inside
  have part := raw_infix_source found
  rw [source_split] at part
  exact clear.not_infix finds (inside.trans part)

theorem segments_content_free {text : Text} {unit : Span} (member : .span unit ∈ segments text)
    {other : Span} (grammar : other.Grammar) (lower : other.kind.rank < unit.kind.rank) :
    ¬ other.raw <:+: unit.content ∧ ∀ url ∈ unit.url, ¬ other.raw <:+: url := by
  cases segments_grammar member with
  | codeBlock | inlineCode | bold | italic =>
    refine ⟨fun inside => segments_raw_free member grammar lower ?_, by simp [Span.enclosed]⟩
    exact inside.trans (List.infix_append _ _ _)
  | @link label target =>
    have isCode := Span.Kind.isCode_of_rank_lt lower
    have free {written : Span} (grammar : written.Grammar) (same : written.kind = other.kind) :
        ¬ written.raw <:+: (Span.ofWrittenLink label target).raw :=
      segments_raw_free member grammar (same ▸ lower)
    constructor
    · intro inside
      obtain ⟨written, own, same, part⟩ := grammar.exists_written isCode (by decide) (by decide) inside
      refine free own same (part.trans ⟨['['], ']' :: '(' :: target ++ [')'], ?_⟩)
      simp [Span.ofWrittenLink]
    · rintro url ⟨⟩ inside
      obtain ⟨written, own, same, part⟩ := grammar.exists_written isCode (by decide) (by decide) inside
      refine free own same (part.trans ⟨'[' :: label ++ [']', '('], [')'], ?_⟩)
      simp [Span.ofWrittenLink]

theorem spaced_of_segments {text : Text} {front back : List Segment} {left right : Segment}
    (cut : segments text = front ++ left :: right :: back) : Spaced left right :=
  List.isChain_iff_forall_rel_of_append_cons_cons.mp (segments_spaced text) cut

/-- Every span is written as its kind asks, and holds nothing of a kind that is looked for earlier. -/
theorem segments_sound (text : Text) :
    (∀ unit, .span unit ∈ segments text → unit.WellFormed ∧
      ∀ other : Span, other.WellFormed → other.kind.rank < unit.kind.rank →
        ¬ other.raw <:+: unit.raw ∧ ¬ other.raw <:+: unit.content ∧
          ∀ url ∈ unit.url, ¬ other.raw <:+: url) ∧
    ∀ front unit back, unit.delimiter = ['*'] →
      (∀ piece, segments text = front ++ .span unit :: .plain piece :: back →
        piece.head? ≠ some '*') ∧
      (∀ piece, segments text = front ++ .plain piece :: .span unit :: back →
        piece.getLast? ≠ some '*') ∧
      ∀ other, other.delimiter = ['*'] → segments text ≠ front ++ .span unit :: .span other :: back := by
  refine ⟨fun unit member => ⟨(segments_grammar member).wellFormed, fun other formed lower => ?_⟩,
    fun front unit back single => ⟨fun piece cut first => ?_, fun piece cut last => ?_,
      fun other twin cut => ?_⟩⟩
  · exact ⟨segments_raw_free member formed.grammar lower,
      segments_content_free member formed.grammar lower⟩
  all_goals
    have member : .span unit ∈ segments text := by simp [cut]
    have ends := (segments_grammar member).ends_of_asterisk single
  · exact spaced_of_segments cut single trivial ⟨ends.2, first⟩
  · exact spaced_of_segments cut trivial single ⟨last, ends.1⟩
  · have next : .span other ∈ segments text := by simp [cut]
    have others := (segments_grammar next).ends_of_asterisk twin
    exact spaced_of_segments cut single twin ⟨ends.2, others.1⟩

end Segment

end ChatMarkup
