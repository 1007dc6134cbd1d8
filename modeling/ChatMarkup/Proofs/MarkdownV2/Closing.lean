import ChatMarkup.Proofs.MarkdownV2.ReadBack
import ChatMarkup.Proofs.Text.Guarded
import ChatMarkup.Proofs.Text.Protected

namespace ChatMarkup.MarkdownV2

open Segment
open Style (markdownV2Reserved)

/-- `rest` is what follows the first unescaped `closer` of a text. -/
def Closes (closer : Char) (text rest : Text) : Prop :=
  (unescapedTo? closer text).map Prod.snd = some rest

theorem closes_pair (closer c : Char) (text rest : Text) :
    Closes closer ('\\' :: c :: text) rest ↔ Closes closer text rest := by
  rw [Closes, unescapedTo?, Option.map_map]
  rfl

theorem closes_cons {closer c : Char} {text : Text}
    (single : ∀ d more, c = '\\' → text = d :: more → False) (rest : Text) :
    Closes closer (c :: text) rest ↔ if c = closer then text = rest else Closes closer text rest := by
  rw [Closes, unescapedTo?.eq_3 closer c text single]
  split
  · simp
  · rw [Option.map_map]
    rfl

theorem Closes.append {closer : Char} {text rest : Text} (closes : Closes closer text rest) :
    ∃ inside, text = inside ++ closer :: rest := by
  fun_induction unescapedTo? closer text with
  | case1 => cases closes
  | case2 c text ih =>
    obtain ⟨inside, rfl⟩ := ih ((closes_pair closer c text rest).mp closes)
    exact ⟨'\\' :: c :: inside, rfl⟩
  | case3 text single =>
    rw [closes_cons single, if_pos rfl] at closes
    exact ⟨[], by rw [closes, List.nil_append]⟩
  | case4 c text single other ih =>
    rw [closes_cons single, if_neg other] at closes
    obtain ⟨inside, rfl⟩ := ih closes
    exact ⟨c :: inside, rfl⟩

theorem Closes.length_lt {closer : Char} {text rest : Text} (closes : Closes closer text rest) :
    rest.length < text.length := by
  obtain ⟨inside, rfl⟩ := closes.append
  simp only [List.length_append, List.length_cons]
  omega

theorem closes_append_iff {closer : Char} (visible : closer ≠ '\\') (inside rest : Text) :
    Closes closer (inside ++ closer :: rest) rest ↔
      Text.ReadsEscaped [closer] false inside ∧ inside.trailingBackslashes % 2 = 0 := by
  have own : ∀ d more, closer = '\\' → rest = d :: more → False := fun _ _ same _ => visible same
  fun_induction unescapedTo? closer inside with
  | case1 =>
    rw [List.nil_append, closes_cons own, if_pos rfl]
    simp [Text.ReadsEscaped, Text.trailingBackslashes]
  | case2 c inside ih =>
    have pair : Text.trailingBackslashes ['\\', c] % 2 = Text.trailingBackslashes [] % 2 := by
      by_cases slash : c = '\\' <;> simp [Text.trailingBackslashes, slash]
    have ends : Text.trailingBackslashes ('\\' :: c :: inside) % 2 =
        Text.trailingBackslashes inside % 2 := Text.trailingBackslashes_append_mod 2 pair inside
    refine (closes_pair closer c _ rest).trans (ih.trans ?_)
    simp [Text.ReadsEscaped, visible.symm, ends]
  | case3 inside single =>
    have long : inside ++ closer :: rest ≠ rest := fun same => by
      have lengths := congrArg List.length same
      simp only [List.length_append, List.length_cons] at lengths
      omega
    rw [List.cons_append, closes_cons (fun _ _ same _ => visible same), if_pos rfl]
    simp [Text.ReadsEscaped, long]
  | case4 c inside single other ih =>
    by_cases slash : c = '\\'
    · -- a lone backslash at the end escapes the closer
      subst slash
      cases inside with
      | cons d inside => exact (single d inside rfl rfl).elim
      | nil =>
        have past : ¬ Closes closer rest rest := fun closes => Nat.lt_irrefl _ closes.length_lt
        rw [List.cons_append, List.nil_append, closes_pair]
        simp [past, Text.trailingBackslashes]
    · have alone : Text.trailingBackslashes [c] = Text.trailingBackslashes [] := by
        simp [Text.trailingBackslashes, slash]
      have ends : Text.trailingBackslashes (c :: inside) = Text.trailingBackslashes inside :=
        Text.trailingBackslashes_append alone inside
      rw [List.cons_append, closes_cons (fun _ _ same _ => slash same), if_neg other]
      refine ih.trans ?_
      simp [Text.ReadsEscaped, slash, other, ends]

theorem closes_escapeChars_iff {reserved : List Char} {closer : Char} (known : closer ∈ reserved)
    (proper : '\\' ∉ reserved) (content rest : Text) :
    Closes closer (Text.escapeChars reserved content ++ closer :: rest) rest ↔
      Text.Preceded [closer] (fun run => run = 0 ∨ run % 2 = 1) 0 content ∧
        content.trailingBackslashes % 2 = 0 := by
  have visible : closer ≠ '\\' := fun same => proper (same ▸ known)
  have covered : [closer] ⊆ reserved := List.cons_subset.mpr ⟨known, List.nil_subset _⟩
  have inside := (Text.readsEscaped_iff_preceded [closer] 0 (Text.escapeChars reserved content)).trans
    (Text.preceded_escapeChars proper covered fun _ _ _ => rfl)
  have ends := Text.trailingBackslashes_escapeChars proper [] content
  rw [List.nil_append, List.nil_append] at ends
  rw [closes_append_iff visible, ends]
  exact and_congr_left' inside

/-- Emphasis ends at its last delimiter unless this one is escaped or one before it is left bare. -/
theorem emphasis_closes_iff {text : Text} {unit : Span} (member : .span unit ∈ segments text)
    (emphasis : unit.kind = .bold ∨ unit.kind = .italic) :
    ∃ mark body, mark = (if unit.kind = .bold then '*' else '_') ∧
      unit.render .telegram = .ok (mark :: body ++ [mark]) ∧
      (Closes mark (body ++ [mark]) [] ↔ unit.content.trailingBackslashes % 2 = 0 ∧
        ∀ front back, unit.content = front ++ mark :: back →
          front.trailingBackslashes = 0 ∨ front.trailingBackslashes % 2 = 1) := by
  have grammar := segments_grammar member
  have proper : '\\' ∉ markdownV2Reserved := by decide
  obtain ⟨mark, known, same, form⟩ : ∃ mark ∈ markdownV2Reserved,
      mark = (if unit.kind = .bold then '*' else '_') ∧
        unit.written .telegram = mark :: Text.escapeChars markdownV2Reserved unit.content ++ [mark] := by
    cases grammar with
    | codeBlock | inlineCode | link => rcases emphasis with kind | kind <;> cases kind
    | bold => exact ⟨'*', by decide, rfl, rfl⟩
    | italic => exact ⟨'_', by decide, rfl, rfl⟩
  have usable : Text.Usable Style.telegram.reserved := telegram_usable true
  have closes := closes_escapeChars_iff known proper unit.content []
  rw [Text.preceded_singleton_iff, and_comm] at closes
  exact ⟨mark, _, same, (grammar.render_eq usable).trans (congrArg Except.ok form), closes⟩

theorem emphasis_closes_iff_escaped :
    let text := "*a\\_b\\\\*".toList
    let unit : Span := .enclosed .italic ['*'] "a\\_b\\\\".toList
    .span unit ∈ segments text ∧ (unit.kind = .bold ∨ unit.kind = .italic) ∧
    ∃ mark body, mark = (if unit.kind = .bold then '*' else '_') ∧
      unit.render .telegram = .ok (mark :: body ++ [mark]) ∧
      (Closes mark (body ++ [mark]) [] ↔ unit.content.trailingBackslashes % 2 = 0 ∧
        ∀ front back, unit.content = front ++ mark :: back →
          front.trailingBackslashes = 0 ∨ front.trailingBackslashes % 2 = 1) := by
  intro text unit
  have member : .span unit ∈ segments text := by decide +kernel
  have emphasis : unit.kind = .bold ∨ unit.kind = .italic := .inr rfl
  exact ⟨member, emphasis, emphasis_closes_iff member emphasis⟩

/-- A backslash at the end of bold text escapes the closing asterisk. -/
theorem emphasis_left_open :
    ¬ ∀ (text body : Text) (mark : Char) (unit : Span), .span unit ∈ segments text →
      unit.kind = .bold ∨ unit.kind = .italic →
      unit.render .telegram = .ok (mark :: body ++ [mark]) → Closes mark (body ++ [mark]) [] := by
  intro each
  have member : .span (.enclosed .bold ['*', '*'] ['a', '\\']) ∈ segments "**a\\**".toList := by
    decide +kernel
  have closes := each _ ['a', '\\'] '*' _ member (.inl rfl) rfl
  cases closes

theorem protected_closes_iff {reserved : List Char} {closer : Char} (known : closer ∈ reserved)
    (proper : '\\' ∉ reserved) {part : Text} (run : Text.Protected closer part) (rest : Text) :
    Closes closer (Text.escapeChars reserved (part.unprotect closer) ++ closer :: rest) rest ↔
      ¬ ['\\', closer] <:+: part.unprotect closer := by
  have visible : closer ≠ '\\' := fun same => proper (same ▸ known)
  have even : Text.Preceded [closer] (· % 2 = 0) 0 (part.unprotect closer) :=
    run.preceded_unprotect visible rfl
  have ends : Text.trailingBackslashes ([] ++ part.unprotect closer) % 2 = 0 :=
    run.trailingBackslashes_unprotect visible rfl
  rw [closes_escapeChars_iff known proper, Text.preceded_iff_not_infix even]
  exact and_iff_left ends

theorem exists_closes {closer : Char} (visible : closer ≠ '\\') {text : Text}
    (bare : ¬ Text.ReadsEscaped [closer] false text) :
    ∃ front back, text = front ++ closer :: back ∧
      ∀ rest, Closes closer (text ++ rest) (back ++ rest) := by
  fun_induction unescapedTo? closer text with
  | case1 => exact absurd trivial bare
  | case2 c text ih =>
    have later : ¬ Text.ReadsEscaped [closer] false text := fun escaped =>
      bare (by simpa [Text.ReadsEscaped, visible.symm] using escaped)
    obtain ⟨front, back, whole, closes⟩ := ih later
    exact ⟨'\\' :: c :: front, back, by rw [whole]; rfl,
      fun rest => (closes_pair closer c _ _).mpr (closes rest)⟩
  | case3 text single =>
    refine ⟨[], text, rfl, fun rest => ?_⟩
    rw [List.cons_append, closes_cons (fun _ _ same _ => visible same), if_pos rfl]
  | case4 c text single other ih =>
    by_cases slash : c = '\\'
    · subst slash
      cases text with
      | nil => exact absurd ⟨by simpa using visible.symm, trivial⟩ bare
      | cons d text => exact (single d text rfl rfl).elim
    · have later : ¬ Text.ReadsEscaped [closer] false text := fun escaped =>
        bare (by simpa [Text.ReadsEscaped, slash, other] using escaped)
      obtain ⟨front, back, whole, closes⟩ := ih later
      refine ⟨c :: front, back, by rw [whole]; rfl, fun rest => ?_⟩
      rw [List.cons_append, closes_cons (fun _ _ same _ => slash same), if_neg other]
      exact closes rest

theorem Closes.unique {closer : Char} {text rest other : Text} (closes : Closes closer text rest)
    (again : Closes closer text other) : rest = other :=
  Option.some.inj (closes.symm.trans again)

/-- The first unescaped bracket closes the label, the first unescaped parenthesis the target. -/
def ReadsAsLink (text label target : Text) : Prop :=
  text = '[' :: label ++ ']' :: '(' :: target ++ [')'] ∧
    Closes ']' (label ++ ']' :: '(' :: target ++ [')']) ('(' :: target ++ [')']) ∧
    Closes ')' (target ++ [')']) []

theorem label_ends {part rest after : Text} (run : Text.Protected ']' part)
    (closes : Closes ']' (Text.escapeChars markdownV2Reserved (part.unprotect ']') ++ ']' :: rest)
      ('(' :: after)) : rest = '(' :: after := by
  have proper : '\\' ∉ markdownV2Reserved := by decide
  by_cases escaped : Text.ReadsEscaped [']'] false
      (Text.escapeChars markdownV2Reserved (part.unprotect ']'))
  · have ends : Text.trailingBackslashes
        (Text.escapeChars markdownV2Reserved (part.unprotect ']')) % 2 = 0 := by
      have same := Text.trailingBackslashes_escapeChars proper [] (part.unprotect ']')
      rw [List.nil_append] at same
      rw [same]
      exact run.trailingBackslashes_unprotect (by decide) rfl
    exact ((closes_append_iff (by decide) _ rest).mpr ⟨escaped, ends⟩).unique closes
  · obtain ⟨front, back, whole, early⟩ := exists_closes (by decide) escaped
    have next := (early (']' :: rest)).unique closes
    -- an earlier bracket would stand next to the parenthesis, in front of which there is a backslash
    have guarded := Text.guarded_escapeChars proper none (part.unprotect ']')
    rw [whole] at guarded
    cases back with
    | nil => cases next
    | cons c back =>
      cases next
      exact absurd ⟨front, back, by simp⟩
        (guarded.not_adjacent (by decide : ']' ≠ '\\') (by decide : '(' ∈ markdownV2Reserved))

/-- A link is one link for a reader unless a closing bracket, as stored, is behind a backslash. -/
theorem link_closes_iff (escapesUrl : Bool) {text : Text} {unit : Span}
    (member : .span unit ∈ segments text) (link : unit.kind = .link) :
    ∃ url rendered, unit.url = some url ∧ unit.render (telegram escapesUrl) = .ok rendered ∧
      ((∃ label target, ReadsAsLink rendered label target) ↔
        ¬ ['\\', ']'] <:+: unit.content ∧ ¬ ['\\', ')'] <:+: url) := by
  have grammar := segments_grammar member
  have rendered := grammar.render_eq (telegram_usable escapesUrl)
  cases grammar with
  | codeBlock | inlineCode | bold | italic => cases link
  | @link label target _ _ labelRun targetRun =>
    have first := Text.spanProtected_eq_iff.mp labelRun
    have second := Text.spanProtected_eq_iff.mp targetRun
    let locked := if escapesUrl then markdownV2Reserved else [')']
    have parenthesis : ')' ∈ locked := by cases escapesUrl <;> decide
    have proper : '\\' ∉ locked := by cases escapesUrl <;> decide
    let content := Text.escapeChars markdownV2Reserved (label.unprotect ']')
    let place := Text.escapeChars locked (target.unprotect ')')
    have form : (Span.ofWrittenLink label target).written (telegram escapesUrl) =
        '[' :: content ++ ']' :: '(' :: place ++ [')'] := rfl
    have labelEnds (rest : Text) : Closes ']' (content ++ ']' :: rest) rest ↔ _ :=
      protected_closes_iff (by decide) (by decide) first rest
    have targetEnds : Closes ')' (place ++ [')']) [] ↔ _ :=
      protected_closes_iff parenthesis proper second []
    rw [form] at rendered
    refine ⟨_, _, rfl, rendered, ?_, ?_⟩
    · rintro ⟨other, more, whole, closes, last⟩
      have body : other ++ ']' :: '(' :: more ++ [')'] = content ++ ']' :: ('(' :: (place ++ [')'])) := by
        simpa using whole.symm
      rw [body] at closes
      have parts : place ++ [')'] = more ++ [')'] := (List.cons.inj (label_ends first closes)).2
      have same : more = place := (List.append_cancel_right parts).symm
      subst same
      exact ⟨(labelEnds _).mp closes, targetEnds.mp last⟩
    · rintro ⟨clear, free⟩
      have closes := (labelEnds ('(' :: (place ++ [')']))).mpr clear
      exact ⟨content, place, rfl, by simpa using closes, targetEnds.mpr free⟩

theorem link_closes_iff_brackets :
    let text := "[a\\]\\\\b](c\\)(\\!)".toList
    let unit : Span := .ofWrittenLink "a\\]\\\\b".toList "c\\)(\\!".toList
    .span unit ∈ segments text ∧ unit.kind = .link ∧
    ∃ url rendered, unit.url = some url ∧ unit.render (telegram false) = .ok rendered ∧
      ((∃ label target, ReadsAsLink rendered label target) ↔
        ¬ ['\\', ']'] <:+: unit.content ∧ ¬ ['\\', ')'] <:+: url) := by
  intro text unit
  have member : .span unit ∈ segments text := by decide +kernel
  exact ⟨member, rfl, link_closes_iff false member rfl⟩

/-- A bracket behind three backslashes keeps two of them, and with those it ends the label. -/
theorem link_closes_early :
    ¬ ∀ (escapesUrl : Bool) (text rendered : Text) (unit : Span), .span unit ∈ segments text →
      unit.kind = .link → unit.render (telegram escapesUrl) = .ok rendered →
      ∃ label target, ReadsAsLink rendered label target := by
  intro each
  have member : .span (.ofWrittenLink "a\\\\\\]b".toList ['u']) ∈
      segments "[a\\\\\\]b](u)".toList := by decide +kernel
  obtain ⟨label, target, whole, closes, _⟩ := each true _ "[a\\\\]b](u)".toList _ member rfl rfl
  have body : label ++ ']' :: '(' :: target ++ [')'] = "a\\\\]b](u)".toList :=
    (List.cons.inj whole).2.symm
  have early : Closes ']' "a\\\\]b](u)".toList "b](u)".toList := rfl
  rw [body] at closes
  cases early.unique closes

end ChatMarkup.MarkdownV2
