import ChatMarkup.Proofs.Span.Alone

namespace ChatMarkup

namespace Segment

def onto : Segment → List Segment → List Segment
  | .plain text, segments => text.foldr consPlain segments
  | .span unit, segments => .span unit :: segments

def join (left right : List Segment) : List Segment := left.foldr onto right

def joinLines (above below : List Segment) : List Segment := join above (consPlain '\n' below)

@[simp] theorem join_nil (right : List Segment) : join [] right = right := rfl

@[simp] theorem join_span (unit : Span) (left right : List Segment) :
    join (.span unit :: left) right = .span unit :: join left right := rfl

@[simp] theorem join_plain (text : Text) (left right : List Segment) :
    join (.plain text :: left) right = text.foldr consPlain (join left right) := rfl

theorem join_append (first second right : List Segment) :
    join (first ++ second) right = join first (join second right) := List.foldr_append

theorem join_consPlain (c : Char) (left right : List Segment) :
    join (consPlain c left) right = consPlain c (join left right) := by
  unfold consPlain
  cases left with
  | nil => rfl
  | cons segment left => cases segment <;> rfl

theorem join_foldr_consPlain (text : Text) (right : List Segment) :
    join (text.foldr consPlain []) right = text.foldr consPlain right := by
  induction text with
  | nil => rfl
  | cons c text ih => rw [List.foldr_cons, join_consPlain, ih, List.foldr_cons]

theorem consPlain_ne_nil (c : Char) (segments : List Segment) : consPlain c segments ≠ [] := by
  unfold consPlain
  split <;> simp

theorem consPlain_append (c : Char) {left right : List Segment}
    (apart : left = [] → startsPlain right = false) :
    consPlain c left ++ right = consPlain c (left ++ right) := by
  cases left with
  | nil =>
    cases right with
    | nil => rfl
    | cons segment right =>
      cases segment with
      | plain text => cases apart rfl
      | span unit => rfl
  | cons segment left => cases segment <;> rfl

theorem foldr_consPlain_plain (text more : Text) (rest : List Segment) :
    text.foldr consPlain (.plain more :: rest) = .plain (text ++ more) :: rest := by
  induction text with
  | nil => rfl
  | cons c text ih => rw [List.foldr_cons, ih, consPlain, List.cons_append]

theorem join_of_tight {left right : List Segment} (tight : Tight left)
    (apart : startsPlain right = false) : join left right = left ++ right := by
  induction tight with
  | nil => rfl
  | span _ _ ih => rw [join_span, ih, List.cons_append]
  | @plain text rest filled next _ ih =>
    have after : startsPlain (rest ++ right) = false := by
      cases rest with
      | nil => exact apart
      | cons segment rest => cases segment <;> simp_all
    rw [join_plain, ih, foldr_consPlain_of_apart filled after, List.cons_append]

theorem foldr_consPlain_ne_nil (text : Text) {right : List Segment} (filled : right ≠ []) :
    text.foldr consPlain right ≠ [] := by
  cases text with
  | nil => exact filled
  | cons c text => exact consPlain_ne_nil c _

theorem foldr_consPlain_append (text : Text) {right : List Segment} (filled : right ≠ [])
    (more : List Segment) : text.foldr consPlain right ++ more = text.foldr consPlain (right ++ more) := by
  induction text with
  | nil => rfl
  | cons c text ih =>
    have rest := foldr_consPlain_ne_nil text filled
    rw [List.foldr_cons, consPlain_append c fun empty => absurd empty rest, ih, List.foldr_cons]

theorem join_ne_nil (left : List Segment) {right : List Segment} (filled : right ≠ []) :
    join left right ≠ [] := by
  induction left with
  | nil => exact filled
  | cons segment left ih =>
    cases segment with
    | plain text => exact foldr_consPlain_ne_nil text ih
    | span unit => simp

theorem join_append_right (left : List Segment) {right : List Segment} (filled : right ≠ [])
    (more : List Segment) : join left right ++ more = join left (right ++ more) := by
  induction left with
  | nil => rfl
  | cons segment left ih =>
    cases segment with
    | plain text =>
      rw [join_plain, foldr_consPlain_append text (join_ne_nil left filled), ih, join_plain]
    | span unit => rw [join_span, List.cons_append, ih, join_span]

theorem consPlain_tight (c : Char) {below : List Segment} (tight : Tight below) :
    ∃ piece rest, consPlain c below = .plain (c :: piece) :: rest ∧
      (piece ≠ [] ∧ below = .plain piece :: rest ∨
        piece = [] ∧ below = rest ∧ startsPlain rest = false) := by
  cases tight with
  | nil => exact ⟨[], [], rfl, .inr ⟨rfl, rfl, rfl⟩⟩
  | @span unit rest => exact ⟨[], .span unit :: rest, rfl, .inr ⟨rfl, rfl, rfl⟩⟩
  | @plain text rest filled => exact ⟨text, rest, rfl, .inl ⟨filled, rfl⟩⟩

end Segment

namespace Pattern

open Segment

theorem enclosed?_line {mark : Char} {others text more content rest : Text}
    (inLine : '\n' ∉ mark :: others)
    (read : enclosed? (mark :: others) mark (text ++ '\n' :: more) = some (content, rest)) :
    ∃ inner, rest = inner ++ '\n' :: more ∧ enclosed? (mark :: others) mark text = some (content, inner) := by
  obtain ⟨whole, filled, inside⟩ := enclosed?_eq_some_iff.mp read
  have oneLine : '\n' ∉ mark :: others ++ content ++ mark :: others := by
    rw [List.mem_append, List.mem_append]
    rintro ((member | member) | member)
    · exact inLine member
    · exact (inside _ member).2 rfl
    · exact inLine member
  obtain ⟨inner, rfl⟩ := (Text.prefix_append_cons_iff oneLine).mp ⟨rest, whole.symm⟩
  rw [List.append_assoc] at whole
  exact ⟨inner, (List.append_cancel_left whole).symm, enclosed?_eq_some_iff.mpr ⟨rfl, filled, inside⟩⟩

/-- A pattern whose spans lie on one line and that reads a line by itself as it reads a text. -/
structure LineBound (pattern : Pattern) : Prop where
  extend : ∀ {before text unit rest}, pattern.read? before text = some (unit, rest) →
    ∀ more, pattern.read? before (text ++ '\n' :: more) = some (unit, rest ++ '\n' :: more)
  restrict : ∀ {before text more unit rest},
    pattern.read? before (text ++ '\n' :: more) = some (unit, rest) →
      ∃ inner, pattern.read? before text = some (unit, inner)
  restart : ∀ text, pattern.read? (some '\n') text = pattern.read? none text

theorem LineBound.split_restart {pattern : Pattern} (bound : pattern.LineBound) (text : Text) :
    pattern.split (some '\n') text = pattern.split none text :=
  split_congr bound.restart text

theorem LineBound.read_none {pattern : Pattern} (bound : pattern.LineBound) {before : Option Char}
    {text : Text} (missing : pattern.read? before text = none) (more : Text) :
    pattern.read? before (text ++ '\n' :: more) = none := by
  cases read : pattern.read? before (text ++ '\n' :: more) with
  | none => rfl
  | some found =>
    obtain ⟨inner, shorter⟩ := bound.restrict read
    rw [missing] at shorter
    cases shorter

theorem read?_nil (pattern : Pattern) (before : Option Char) : pattern.read? before [] = none := by
  cases read : pattern.read? before [] with
  | none => rfl
  | some found =>
    have whole := List.append_eq_nil_iff.mp (pattern.append_of_read? read).symm
    exact absurd whole.1 (pattern.raw_ne_nil read)

theorem LineBound.split_line {pattern : Pattern} (bound : pattern.LineBound) (before : Option Char)
    (above below : Text) : pattern.split before (above ++ '\n' :: below) =
      joinLines (pattern.split before above) (pattern.split none below) := by
  fun_induction pattern.split before above with
  | case1 before =>
    have missing := bound.read_none (pattern.read?_nil before) below
    rw [List.nil_append] at missing ⊢
    rw [split_of_none missing, bound.split_restart]
    rfl
  | case2 before c cs span rest found ih =>
    rw [split_of_read (bound.extend found below), ih]
    rfl
  | case3 before c cs missing ih =>
    have still := bound.read_none missing below
    rw [List.cons_append] at still ⊢
    rw [split_of_none still, ih, joinLines, joinLines, join_consPlain]

theorem LineBound.refine_line {pattern : Pattern} (bound : pattern.LineBound) (text : Text)
    {below : List Segment} (tight : Tight below) :
    pattern.refine (text.foldr consPlain (consPlain '\n' below)) =
      joinLines (pattern.split none text) (pattern.refine below) := by
  obtain ⟨piece, rest, start, shape⟩ := consPlain_tight '\n' tight
  have whole : pattern.refine below = pattern.split none piece ++ pattern.refine rest := by
    rcases shape with ⟨_, rfl⟩ | ⟨rfl, rfl, _⟩ <;> simp
  have apart : pattern.split none piece = [] → startsPlain (pattern.refine rest) = false := by
    intro empty
    rcases shape with ⟨filled, _⟩ | ⟨_, _, apart⟩
    · have same := source_split pattern none piece
      rw [empty] at same
      exact absurd same.symm filled
    · exact startsPlain_refine pattern apart
  rw [start, foldr_consPlain_plain, refine_plain, bound.split_line, joinLines,
    join_append_right _ (consPlain_ne_nil _ _), consPlain_append _ apart, ← whole, joinLines]

theorem LineBound.refine_joinLines {pattern : Pattern} (bound : pattern.LineBound)
    {above below : List Segment} (first : Tight above) (second : Tight below) :
    pattern.refine (joinLines above below) =
      joinLines (pattern.refine above) (pattern.refine below) := by
  induction first with
  | nil =>
    have line := bound.refine_line [] second
    rwa [split_nil] at line
  | @span unit rest _ _ ih =>
    rw [joinLines] at ih
    rw [joinLines, join_span, refine_span, refine_span, ih]
    rfl
  | @plain text rest filled apart others ih =>
    cases rest with
    | nil =>
      rw [refine_plain, refine_nil, List.append_nil]
      exact bound.refine_line text second
    | cons segment rest =>
      cases segment with
      | plain other => cases apart
      | span unit =>
        -- the span keeps the piece in front of it from meeting the line end
        have cut := (scan_split pattern none text).tight
        calc
          pattern.refine (joinLines (.plain text :: .span unit :: rest) below) =
              pattern.refine (.plain text :: joinLines (.span unit :: rest) below) := by
            rw [joinLines, join_plain, join_span, foldr_consPlain_of_apart filled rfl]
            rfl
          _ = pattern.split none text ++
              joinLines (.span unit :: pattern.refine rest) (pattern.refine below) := by
            rw [refine_plain, ih, refine_span]
          _ = _ := by
            rw [refine_plain, refine_span, joinLines, joinLines, join_append, join_of_tight cut rfl]

theorem foldl_refine_joinLines {patterns : List Pattern} (bound : ∀ pattern ∈ patterns, pattern.LineBound)
    {above below : List Segment} (first : Tight above) (second : Tight below) :
    patterns.foldl (fun parts pattern => pattern.refine parts) (joinLines above below) =
      joinLines (patterns.foldl (fun parts pattern => pattern.refine parts) above)
        (patterns.foldl (fun parts pattern => pattern.refine parts) below) := by
  induction patterns generalizing above below with
  | nil => rfl
  | cons pattern patterns ih =>
    rw [List.forall_mem_cons] at bound
    rw [List.foldl_cons, bound.1.refine_joinLines first second]
    exact ih bound.2 (refine_tight pattern first) (refine_tight pattern second)

theorem enclosed_lineBound (kind : Span.Kind) {mark : Char} {others : Text}
    (inLine : '\n' ∉ mark :: others) :
    (ofContent kind (mark :: others) (by simp) (fun _ text => enclosed? (mark :: others) mark text)
      fun found => (append_of_enclosed? found).1).LineBound where
  extend found more := by
    obtain ⟨⟨content, rest⟩, read, rfl, rfl⟩ := Option.map_eq_some_iff.mp found
    exact Option.map_eq_some_iff.mpr ⟨_, enclosed?_append (by simp) read _, rfl⟩
  restrict {before text more unit rest} found := by
    obtain ⟨⟨content, after⟩, read, rfl, rfl⟩ := Option.map_eq_some_iff.mp found
    obtain ⟨inner, _, shorter⟩ := enclosed?_line inLine read
    exact ⟨inner, Option.map_eq_some_iff.mpr ⟨_, shorter, rfl⟩⟩
  restart text := rfl

theorem inlineCode_lineBound : inlineCode.LineBound := enclosed_lineBound .inlineCode (by decide)

theorem bold_lineBound : bold.LineBound := enclosed_lineBound .bold (by decide)

theorem underscoreItalic_lineBound : underscoreItalic.LineBound :=
  enclosed_lineBound .italic (by decide)

theorem asteriskItalic_lineBound : asteriskItalic.LineBound where
  extend {before text unit rest} found more := by
    obtain ⟨⟨content, after⟩, read, rfl, rfl⟩ := Option.map_eq_some_iff.mp found
    obtain ⟨free, read, next⟩ := loneAsterisks?_eq_some_iff.mp read
    have longer := enclosed?_append (by simp) read ('\n' :: more)
    refine Option.map_eq_some_iff.mpr ⟨_, loneAsterisks?_eq_some_iff.mpr ⟨free, longer, ?_⟩, rfl⟩
    cases rest with
    | nil => simp
    | cons c rest => exact next
  restrict {before text more unit rest} found := by
    obtain ⟨⟨content, after⟩, read, rfl, rfl⟩ := Option.map_eq_some_iff.mp found
    obtain ⟨free, read, next⟩ := loneAsterisks?_eq_some_iff.mp read
    obtain ⟨inner, rfl, shorter⟩ := enclosed?_line (by decide) read
    refine ⟨inner, Option.map_eq_some_iff.mpr
      ⟨_, loneAsterisks?_eq_some_iff.mpr ⟨free, shorter, ?_⟩, rfl⟩⟩
    cases inner with
    | nil => simp
    | cons c inner => exact next
  restart text := by
    have same : loneAsterisks? (some '\n') text = loneAsterisks? none text := by
      simp [loneAsterisks?]
    exact congrArg (Option.map _) same

theorem split_of_clear {pattern : Pattern} {text : Text} (clear : pattern.Clear text) :
    pattern.split none text = text.foldr consPlain [] := by
  have whole := split_append_of_absent clear
  rwa [List.append_nil, split_nil] at whole

theorem Needs.refine {pattern : Pattern} {mark : Text} (needs : pattern.Needs mark)
    {parts : List Segment} (tight : Tight parts) (free : ¬ mark <:+: source parts) :
    pattern.refine parts = parts := by
  induction tight with
  | nil => rfl
  | @span unit rest _ _ ih =>
    rw [source_cons] at free
    rw [refine_span, ih fun inside => free (inside.trans (List.suffix_append _ _).isInfix)]
  | @plain text rest filled _ _ ih =>
    rw [source_cons] at free
    have clear := needs.clear fun inside => free (inside.trans (List.prefix_append text _).isInfix)
    rw [refine_plain, split_of_absent filled clear,
      ih fun inside => free (inside.trans (List.suffix_append _ _).isInfix)]
    rfl

end Pattern

namespace Segment

open Pattern

def onLine : List Pattern := [inlineCode, bold, asteriskItalic, underscoreItalic]

theorem onLine_lineBound : ∀ pattern ∈ onLine, pattern.LineBound := by
  simp only [onLine, List.forall_mem_cons]
  exact ⟨inlineCode_lineBound, bold_lineBound, asteriskItalic_lineBound, underscoreItalic_lineBound,
    by simp⟩

theorem segments_of_unfenced {text : Text} (unfenced : ¬ Span.fence <:+: text)
    (unlinked : ¬ [']', '('] <:+: text) :
    segments text = onLine.foldl (fun parts pattern => pattern.refine parts) (codeBlock.split none text) ∧
      codeBlock.split none text = text.foldr consPlain [] := by
  have tight := refine_tight inlineCode (scan_split codeBlock none text).tight
  have free : ¬ [']', '('] <:+: source (inlineCode.refine (codeBlock.split none text)) := by
    rwa [source_refine, source_split]
  refine ⟨?_, split_of_clear (codeBlock_needs.clear unfenced)⟩
  simp only [segments, Pattern.all, onLine, List.foldl_cons, List.foldl_nil, refine_plain, refine_nil,
    List.append_nil, link_needs_middle.refine tight free]

/-- A line end parts the segments of a text, but for fences and links. -/
theorem segments_lines {above below : Text}
    (unfenced : ∀ lines ∈ [above, below], ¬ Span.fence <:+: lines ∧ ¬ [']', '('] <:+: lines) :
    segments (above ++ '\n' :: below) = joinLines (segments above) (segments below) := by
  simp only [List.forall_mem_cons] at unfenced
  obtain ⟨⟨fenceAbove, linkAbove⟩, ⟨fenceBelow, linkBelow⟩, _⟩ := unfenced
  have fenceBoth : ¬ Span.fence <:+: above ++ '\n' :: below := by
    rw [Text.infix_append_cons_iff (by decide), not_or]
    exact ⟨fenceAbove, fenceBelow⟩
  have linkBoth : ¬ [']', '('] <:+: above ++ '\n' :: below := by
    rw [Text.infix_append_cons_iff (by decide), not_or]
    exact ⟨linkAbove, linkBelow⟩
  obtain ⟨first, start⟩ := segments_of_unfenced fenceAbove linkAbove
  obtain ⟨second, next⟩ := segments_of_unfenced fenceBelow linkBelow
  obtain ⟨both, whole⟩ := segments_of_unfenced fenceBoth linkBoth
  have parts : codeBlock.split none (above ++ '\n' :: below) =
      joinLines (codeBlock.split none above) (codeBlock.split none below) := by
    rw [whole, start, next, joinLines, join_foldr_consPlain, List.foldr_append, List.foldr_cons]
  rw [both, parts, first, second]
  exact foldl_refine_joinLines onLine_lineBound (scan_split _ _ _).tight (scan_split _ _ _).tight

end Segment

end ChatMarkup
