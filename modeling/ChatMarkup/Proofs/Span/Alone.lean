import ChatMarkup.Proofs.Span.Exhaustive
import ChatMarkup.Proofs.Text.Apart

namespace ChatMarkup

namespace Pattern

open Segment

theorem nearest_of_unfenced {content : Text} (free : ¬ Span.fence <:+: content)
    (ends : content.getLast? ≠ some '\x60') :
    Text.breakOn? Span.fence (content ++ Span.fence) = some (content, Span.fence) := by
  rcases List.eq_nil_or_concat content with rfl | ⟨front, last, rfl⟩
  · decide
  · rw [List.concat_eq_append] at free ends ⊢
    rw [List.getLast?_concat] at ends
    have apart : last ∉ Span.fence := by simpa [Span.fence] using ends
    rw [List.append_assoc]
    exact Text.breakOn?_append_self apart free

/-! How a span of each notation is read off the front of a text. -/

theorem read?_codeBlock {content : Text}
    (nearest : Text.breakOn? Span.fence (content ++ Span.fence) = some (content, Span.fence))
    (before : Option Char) (rest : Text) :
    codeBlock.read? before ((Span.enclosed .codeBlock Span.fence content).raw ++ rest) =
      some (.enclosed .codeBlock Span.fence content, rest) := by
  have read : fenced? ((Span.enclosed .codeBlock Span.fence content).raw ++ rest) =
      some (content, rest) := fenced?_eq_some_iff.mpr ⟨rfl, nearest⟩
  exact Option.map_eq_some_iff.mpr ⟨_, read, rfl⟩

theorem read?_inlineCode {content : Text} (filled : content ≠ [])
    (inside : ∀ c ∈ content, c ≠ '\x60' ∧ c ≠ '\n') (before : Option Char) (rest : Text) :
    inlineCode.read? before ((Span.enclosed .inlineCode Span.backtick content).raw ++ rest) =
      some (.enclosed .inlineCode Span.backtick content, rest) := by
  have read : enclosed? Span.backtick '\x60'
      ((Span.enclosed .inlineCode Span.backtick content).raw ++ rest) = some (content, rest) :=
    enclosed?_eq_some_iff.mpr ⟨rfl, filled, inside⟩
  exact Option.map_eq_some_iff.mpr ⟨_, read, rfl⟩

theorem read?_bold {content : Text} (filled : content ≠ [])
    (inside : ∀ c ∈ content, c ≠ '*' ∧ c ≠ '\n') (before : Option Char) (rest : Text) :
    bold.read? before ((Span.enclosed .bold ['*', '*'] content).raw ++ rest) =
      some (.enclosed .bold ['*', '*'] content, rest) := by
  have read : enclosed? ['*', '*'] '*' ((Span.enclosed .bold ['*', '*'] content).raw ++ rest) =
      some (content, rest) := enclosed?_eq_some_iff.mpr ⟨rfl, filled, inside⟩
  exact Option.map_eq_some_iff.mpr ⟨_, read, rfl⟩

theorem read?_asteriskItalic {content : Text} (filled : content ≠ [])
    (inside : ∀ c ∈ content, c ≠ '*' ∧ c ≠ '\n') {before : Option Char} (free : before ≠ some '*')
    {rest : Text} (next : rest.head? ≠ some '*') :
    asteriskItalic.read? before ((Span.enclosed .italic ['*'] content).raw ++ rest) =
      some (.enclosed .italic ['*'] content, rest) := by
  have read : enclosed? ['*'] '*' ((Span.enclosed .italic ['*'] content).raw ++ rest) =
      some (content, rest) := enclosed?_eq_some_iff.mpr ⟨rfl, filled, inside⟩
  exact Option.map_eq_some_iff.mpr ⟨_, loneAsterisks?_eq_some_iff.mpr ⟨free, read, next⟩, rfl⟩

/-! A text without what every span of a notation has in it is clear of the notation. -/

def Needs (pattern : Pattern) (mark : Text) : Prop :=
  ∀ before text unit rest, pattern.read? before text = some (unit, rest) → mark <:+: unit.raw

theorem Needs.clear {pattern : Pattern} {mark text : Text} (needs : pattern.Needs mark)
    (free : ¬ mark <:+: text) : pattern.Clear text := by
  intro front tail filled whole
  rw [List.append_nil]
  cases read : pattern.read? (front.getLast?.or none) tail with
  | none => rfl
  | some found =>
    refine absurd ?_ free
    rw [whole, pattern.append_of_read? read]
    exact (needs _ _ _ _ read).trans ((List.prefix_append _ _).isInfix.trans (List.suffix_append _ _).isInfix)

theorem ofContent_needs {kind : Span.Kind} {delimiter : Text} {filled : delimiter ≠ []}
    {read? : Option Char → Text → Option (Text × Text)}
    (append_of_read? : ∀ {before text content rest}, read? before text = some (content, rest) →
      text = delimiter ++ content ++ delimiter ++ rest) :
    (ofContent kind delimiter filled read? append_of_read?).Needs delimiter := by
  intro before text unit rest found
  obtain ⟨⟨content, after⟩, _, rfl, rfl⟩ := Option.map_eq_some_iff.mp found
  exact ⟨[], content ++ delimiter, by simp [Span.enclosed]⟩

theorem codeBlock_needs : codeBlock.Needs Span.fence := ofContent_needs append_of_fenced?

theorem inlineCode_needs : inlineCode.Needs Span.backtick :=
  ofContent_needs fun found => (append_of_enclosed? found).1

theorem bold_needs : bold.Needs ['*', '*'] :=
  ofContent_needs fun found => (append_of_enclosed? found).1

theorem link_needs_bracket : link.Needs ['['] := by
  intro before text unit rest found
  obtain ⟨label, target, rfl, _⟩ := append_of_readLink? found
  exact ⟨[], label ++ ']' :: '(' :: target ++ [')'], rfl⟩

theorem link_needs_middle : link.Needs [']', '('] := by
  intro before text unit rest found
  obtain ⟨label, target, rfl, _⟩ := append_of_readLink? found
  exact ⟨'[' :: label, target ++ [')'], by simp [Span.ofWrittenLink]⟩

theorem codeBlock_clear {text : Text} (plain : '\x60' ∉ text) : codeBlock.Clear text :=
  codeBlock_needs.clear fun inside => plain (inside.mem (by decide))

theorem inlineCode_clear {text : Text} (plain : '\x60' ∉ text) : inlineCode.Clear text :=
  inlineCode_needs.clear fun inside => plain (inside.mem (by decide))

theorem link_clear {text : Text} (plain : '[' ∉ text) : link.Clear text :=
  link_needs_bracket.clear fun inside => plain (inside.mem (by decide))

end Pattern

namespace Segment

open Pattern

/-- A span alone is its own only segment if no earlier pattern finds anything in it. -/
theorem segments_raw (earlier : List Pattern) {later : List Pattern} {pattern : Pattern}
    (order : Pattern.all = earlier ++ pattern :: later) {unit : Span}
    (clear : ∀ first ∈ earlier, first.Clear unit.raw)
    (read : pattern.read? none (unit.raw ++ []) = some (unit, [])) :
    segments unit.raw = [.span unit] := by
  have filled := pattern.raw_ne_nil read
  have cut : pattern.split none unit.raw = [.span unit] := by
    rw [List.append_nil] at read
    rw [split_of_read read, split_nil]
  rw [segments, order, List.foldl_append, Pattern.foldl_refine_of_clear filled clear, List.foldl_cons,
    refine_plain, refine_nil, cut, List.singleton_append, foldl_refine_span_cons, foldl_refine_nil]

theorem segments_codeBlock {content : Text} (free : ¬ Span.fence <:+: content)
    (ends : content.getLast? ≠ some '\x60') :
    segments (Span.enclosed .codeBlock Span.fence content).raw =
      [.span (.enclosed .codeBlock Span.fence content)] :=
  segments_raw [] rfl (by simp) (read?_codeBlock (nearest_of_unfenced free ends) none [])

theorem segments_inlineCode {content : Text} (filled : content ≠ [])
    (inside : ∀ c ∈ content, c ≠ '\x60' ∧ c ≠ '\n') :
    segments (Span.enclosed .inlineCode Span.backtick content).raw =
      [.span (.enclosed .inlineCode Span.backtick content)] := by
  have apart : ∀ c ∈ content, c ∉ Span.fence := fun c member => by
    simpa [Span.fence] using (inside c member).1
  have unfenced : ¬ Span.fence <:+: Span.backtick ++ content ++ Span.backtick := by
    rw [Text.infix_append_run_iff (by decide) filled apart]
    decide
  have clear : ∀ first ∈ [codeBlock], first.Clear (Span.backtick ++ content ++ Span.backtick) :=
    List.forall_mem_singleton.mpr (codeBlock_needs.clear unfenced)
  exact segments_raw [.codeBlock] rfl clear (read?_inlineCode filled inside none [])

theorem segments_bold {content : Text} (filled : content ≠ [])
    (inside : ∀ c ∈ content, c ≠ '*' ∧ c ≠ '\n') (code : '\x60' ∉ content) (links : '[' ∉ content) :
    segments (Span.enclosed .bold ['*', '*'] content).raw =
      [.span (.enclosed .bold ['*', '*'] content)] := by
  refine segments_raw [.codeBlock, .inlineCode, .link] rfl ?_ (read?_bold filled inside none [])
  simp only [List.forall_mem_cons]
  refine ⟨codeBlock_clear ?_, inlineCode_clear ?_, link_clear ?_, by simp⟩ <;>
    simp [Span.enclosed, code, links]

theorem segments_italic {content : Text} (filled : content ≠ [])
    (inside : ∀ c ∈ content, c ≠ '*' ∧ c ≠ '\n') (code : '\x60' ∉ content) (links : '[' ∉ content) :
    segments (Span.enclosed .italic ['*'] content).raw = [.span (.enclosed .italic ['*'] content)] := by
  have apart : ∀ c ∈ content, c ∉ ['*', '*'] := fun c member => by simpa using (inside c member).1
  have single : ¬ ['*', '*'] <:+: ['*'] ++ content ++ ['*'] := by
    rw [Text.infix_append_run_iff (by decide) filled apart]
    decide
  refine segments_raw [.codeBlock, .inlineCode, .link, .bold] rfl ?_
    (read?_asteriskItalic filled inside (by simp) (by simp))
  simp only [List.forall_mem_cons]
  refine ⟨codeBlock_clear ?_, inlineCode_clear ?_, link_clear ?_, bold_needs.clear single, by simp⟩ <;>
    simp [Span.enclosed, code, links]

theorem segments_link {label target : Text} (named : label ≠ []) (placed : target ≠ [])
    (labelRun : label.spanProtected ']' = (label, []))
    (targetRun : target.spanProtected ')' = (target, [])) (codeLabel : '\x60' ∉ label)
    (codeTarget : '\x60' ∉ target) :
    segments (Span.ofWrittenLink label target).raw = [.span (.ofWrittenLink label target)] := by
  refine segments_raw [.codeBlock, .inlineCode] rfl ?_
    (readLink?_ofWrittenLink named placed labelRun targetRun [])
  simp only [List.forall_mem_cons]
  refine ⟨codeBlock_clear ?_, inlineCode_clear ?_, by simp⟩ <;>
    simp [Span.ofWrittenLink, codeLabel, codeTarget]

end Segment

end ChatMarkup
