import ChatMarkup.Proofs.Span.Grammar
import ChatMarkup.Proofs.Text.Escaped
import ChatMarkup.Span.Render

namespace ChatMarkup

def Style.marks (style : Style) : List Char :=
  ['\\', '<', '|', '>', '[', ']', '(', ')'] ++ style.boldDelimiter ++ style.italicDelimiter

namespace Span

def writtenContent (style : Style) (content : Text) : Text :=
  if style.escapesContent then Text.escapeChars style.reserved.flatten content else content

def writtenTarget (style : Style) (target : Text) : Text :=
  Text.escapeChars (if style.escapesUrl then style.reserved.flatten else [')']) target

def written (style : Style) (unit : Span) : Text :=
  match unit.kind with
  | .codeBlock | .inlineCode => unit.raw
  | .link =>
    let target := unit.url.getD []
    match style.linkForm with
    | .angle => '<' :: target ++ '|' :: unit.content ++ ['>']
    | .inline =>
      '[' :: writtenContent style unit.content ++ ']' :: '(' :: writtenTarget style target ++ [')']
  | .bold => style.boldDelimiter ++ writtenContent style unit.content ++ style.boldDelimiter
  | .italic => style.italicDelimiter ++ writtenContent style unit.content ++ style.italicDelimiter
  | .other _ => []

theorem renderContent_ok {style : Style} (usable : Text.Usable style.reserved) (content : Text) :
    renderContent style content = .ok (writtenContent style content) := by
  unfold renderContent writtenContent
  split
  · exact Text.escape_of_usable usable content
  · rfl

theorem renderTarget_ok {style : Style} (usable : Text.Usable style.reserved) (target : Text) :
    renderTarget style target = .ok (writtenTarget style target) := by
  unfold renderTarget writtenTarget
  split
  · exact Text.escape_of_usable usable target
  · exact Text.escape_of_usable (.inr ⟨[')'], by simp, by simp⟩) target

theorem mem_writtenContent {style : Style} {content : Text} {c : Char}
    (member : c ∈ writtenContent style content) : c = '\\' ∨ c ∈ content := by
  unfold writtenContent at member
  split at member
  · exact Text.mem_escapeChars member
  · exact .inr member

theorem Grammar.content_mem {unit : Span} (grammar : unit.Grammar) {c : Char}
    (member : c ∈ unit.content) : c ∈ unit.raw := by
  cases grammar with
  | link =>
    have inLabel := (Text.unprotect_sublist _ _).subset member
    simp [ofWrittenLink, inLabel]
  | codeBlock | inlineCode | bold | italic =>
    simp only [enclosed] at member ⊢
    simp [member]

theorem Grammar.url_mem {unit : Span} (grammar : unit.Grammar) {c : Char}
    (member : c ∈ unit.url.getD []) : c ∈ unit.raw := by
  cases grammar with
  | link =>
    have inTarget := (Text.unprotect_sublist _ _).subset member
    simp [ofWrittenLink, inTarget]
  | codeBlock | inlineCode | bold | italic => simp [enclosed] at member

theorem render_of_known {style : Style} (usable : Text.Usable style.reserved) {unit : Span}
    (known : ∀ name, unit.kind ≠ .other name) : unit.render style = .ok (unit.written style) := by
  unfold render written
  cases kind : unit.kind with
  | codeBlock | inlineCode => rfl
  | bold | italic =>
    simp only [renderContent_ok usable]
    rfl
  | link =>
    cases form : style.linkForm with
    | angle => rfl
    | inline =>
      simp only [renderTarget_ok usable, renderContent_ok usable]
      rfl
  | other name => exact absurd kind (known name)

theorem Grammar.known {unit : Span} (grammar : unit.Grammar) (name : Text) :
    unit.kind ≠ .other name := by
  cases grammar <;> simp [enclosed, ofWrittenLink]

theorem Grammar.render_eq {style : Style} (usable : Text.Usable style.reserved) {unit : Span}
    (grammar : unit.Grammar) : unit.render style = .ok (unit.written style) :=
  render_of_known usable grammar.known

theorem Grammar.mem_writtenContent {style : Style} {unit : Span} (grammar : unit.Grammar) {c : Char}
    (member : c ∈ writtenContent style unit.content) : c ∈ unit.raw ∨ c ∈ style.marks := by
  rcases Span.mem_writtenContent member with rfl | member
  · exact .inr (by simp [Style.marks])
  · exact .inl (grammar.content_mem member)

theorem Grammar.mem_writtenTarget {style : Style} {unit : Span} (grammar : unit.Grammar) {c : Char}
    (member : c ∈ writtenTarget style (unit.url.getD [])) : c ∈ unit.raw ∨ c ∈ style.marks := by
  rcases Text.mem_escapeChars member with rfl | member
  · exact .inr (by simp [Style.marks])
  · exact .inl (grammar.url_mem member)

theorem Grammar.mem_between {style : Style} {unit : Span} (grammar : unit.Grammar) {delimiter : Text}
    (own : ∀ c ∈ delimiter, c ∈ style.marks) {c : Char}
    (member : c ∈ delimiter ++ writtenContent style unit.content ++ delimiter) :
    c ∈ unit.raw ∨ c ∈ style.marks := by
  rw [List.mem_append, List.mem_append] at member
  rcases member with (member | member) | member
  · exact .inr (own c member)
  · exact grammar.mem_writtenContent member
  · exact .inr (own c member)

theorem Grammar.mem_written {style : Style} {unit : Span} (grammar : unit.Grammar) {c : Char}
    (member : c ∈ unit.written style) : c ∈ unit.raw ∨ c ∈ style.marks := by
  unfold written at member
  split at member
  · exact .inl member
  · exact .inl member
  · dsimp only at member
    split at member <;>
      simp only [List.cons_append, List.mem_cons, List.mem_append, List.not_mem_nil, or_false] at member
    · rcases member with rfl | (member | rfl | member) | rfl
      · simp [Style.marks]
      · exact .inl (grammar.url_mem member)
      · simp [Style.marks]
      · exact .inl (grammar.content_mem member)
      · simp [Style.marks]
    · rcases member with rfl | (member | rfl | rfl | member) | rfl
      · simp [Style.marks]
      · exact grammar.mem_writtenContent member
      · simp [Style.marks]
      · simp [Style.marks]
      · exact grammar.mem_writtenTarget member
      · simp [Style.marks]
  · exact grammar.mem_between (fun c member => by simp [Style.marks, member]) member
  · exact grammar.mem_between (fun c member => by simp [Style.marks, member]) member
  · cases member

end Span

end ChatMarkup
