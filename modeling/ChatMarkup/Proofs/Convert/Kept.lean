import ChatMarkup.Proofs.Convert.Piecewise
import Mathlib.Data.List.Basic

namespace ChatMarkup

namespace Text

def IsControl (c : Char) : Prop := c.toNat < 0x20 ∨ 0x7f ≤ c.toNat ∧ c.toNat < 0xa0

instance (c : Char) : Decidable (IsControl c) := inferInstanceAs (Decidable (_ ∨ _))

end Text

namespace MarkdownV2

def isInert (c : Char) : Bool := c ≠ '\\' ∧ c ∉ Style.markdownV2Reserved

theorem inert_of_control {c : Char} (control : Text.IsControl c) : isInert c ∧ c ≠ '<' := by
  have every : ('<' :: '\\' :: Style.markdownV2Reserved).all (¬ Text.IsControl ·) := by decide
  have apart {d : Char} (known : d ∈ '<' :: '\\' :: Style.markdownV2Reserved) : c ≠ d :=
    fun same => of_decide_eq_true (List.all_eq_true.mp every d known) (same ▸ control)
  refine ⟨decide_eq_true ⟨apart (by simp), fun reserved => ?_⟩, apart (by simp)⟩
  exact apart (List.mem_cons_of_mem _ (List.mem_cons_of_mem _ reserved)) rfl

end MarkdownV2

/-- None of the characters that links and emphasis are marked with, in markdown or in the style, is
    one to `keep`. -/
structure Style.Passes (style : Style) (keep : Char → Bool) : Prop where
  markdown : ∀ c ∈ ['\\', '*', '_', '[', ']', '(', ')'], keep c = false
  bold : ∀ c ∈ style.boldDelimiter, keep c = false
  italic : ∀ c ∈ style.italicDelimiter, keep c = false
  angle : style.linkForm = .angle → ∀ c ∈ ['<', '|', '>'], keep c = false

def LinkForm.arrange : LinkForm → Text → Text → Text
  | .angle, label, target => target ++ label
  | .inline, label, target => label ++ target

def Segment.joined (arrange : Text → Text → Text) : Segment → Text
  | .plain text => text
  | .span unit => if unit.kind = .link then arrange unit.content (unit.url.getD []) else unit.raw

open Segment

section Kept

variable {keep : Char → Bool}

namespace Span

theorem filter_writtenContent (silent : keep '\\' = false) (style : Style) (content : Text) :
    (writtenContent style content).filter keep = content.filter keep := by
  unfold writtenContent
  split
  · exact Text.filter_escapeChars silent _ _
  · rfl

theorem filter_writtenTarget (silent : keep '\\' = false) (style : Style) (target : Text) :
    (writtenTarget style target).filter keep = target.filter keep :=
  Text.filter_escapeChars silent _ _

theorem filter_between {delimiter : Text} (passed : ∀ c ∈ delimiter, keep c = false) (content : Text) :
    (delimiter ++ content ++ delimiter).filter keep = content.filter keep := by
  have none : delimiter.filter keep = [] := by
    rw [List.filter_eq_nil_iff]
    exact fun c member => by simp [passed c member]
  rw [List.filter_append, List.filter_append, none, List.nil_append, List.append_nil]

theorem Grammar.filter_raw {style : Style} (passes : style.Passes keep) {unit : Span}
    (grammar : unit.Grammar) :
    unit.raw.filter keep = (Segment.joined (· ++ ·) (.span unit)).filter keep := by
  cases grammar with
  | codeBlock | inlineCode | bold | italic => rfl
  | link =>
    have signs := passes.markdown
    simp only [List.forall_mem_cons] at signs
    simp [Segment.joined, ofWrittenLink, Text.filter_unprotect, signs]

theorem Grammar.filter_written {style : Style} (passes : style.Passes keep) {unit : Span}
    (grammar : unit.Grammar) :
    (unit.written style).filter keep =
      (Segment.joined style.linkForm.arrange (.span unit)).filter keep := by
  have signs := passes.markdown
  simp only [List.forall_mem_cons] at signs
  cases grammar with
  | codeBlock | inlineCode => rfl
  | @bold content =>
    have given : ∀ c ∈ ['*', '*'], keep c = false := by simp [signs]
    exact (filter_between passes.bold _).trans
      ((filter_writtenContent signs.1 style content).trans (filter_between given content).symm)
  | @italic mark content known =>
    have given : ∀ c ∈ [mark], keep c = false := by
      rcases known with rfl | rfl <;> simp [signs]
    exact (filter_between passes.italic _).trans
      ((filter_writtenContent signs.1 style content).trans (filter_between given content).symm)
  | link =>
    cases form : style.linkForm with
    | angle =>
      have around := passes.angle form
      simp only [List.forall_mem_cons] at around
      simp [written, ofWrittenLink, Segment.joined, LinkForm.arrange, form, around]
    | inline =>
      simp [written, ofWrittenLink, Segment.joined, LinkForm.arrange, form, signs,
        filter_writtenContent, filter_writtenTarget]

end Span

theorem filter_source {style : Style} (passes : style.Passes keep) (text : Text) :
    text.filter keep = ((segments text).flatMap (joined (· ++ ·))).filter keep := by
  have each : ∀ segment ∈ segments text,
      segment.raw.filter keep = (segment.joined (· ++ ·)).filter keep := by
    intro segment member
    cases segment with
    | plain piece => rfl
    | span unit => exact (segments_grammar member).filter_raw passes
  calc
    text.filter keep = (source (segments text)).filter keep := by rw [source_segments]
    _ = _ := by rw [source, List.filter_flatMap, List.filter_flatMap, List.flatMap_congr each]

theorem filter_convert {style : Style} (usable : Text.Usable style.reserved)
    (passes : style.Passes keep) {dialect : Dialect} {text output : Text}
    (done : (convert dialect style text).result = .ok output) :
    output.filter keep = ((segments text).flatMap (joined style.linkForm.arrange)).filter keep := by
  have each : ∀ segment ∈ segments text,
      (written style segment).filter keep = (segment.joined style.linkForm.arrange).filter keep := by
    intro segment member
    cases segment with
    | plain piece => exact Text.filter_escapeChars (passes.markdown '\\' (by simp)) _ _
    | span unit => exact (segments_grammar member).filter_written passes
  rw [eq_of_convert usable done, List.filter_flatMap, List.filter_flatMap, List.flatMap_congr each]

theorem count_arrange (form : LinkForm) (label target : Text) (c : Char) :
    (form.arrange label target).count c = (label ++ target).count c := by
  cases form with
  | angle => rw [LinkForm.arrange, List.count_append, List.count_append, Nat.add_comm]
  | inline => rfl

theorem count_convert {style : Style} (usable : Text.Usable style.reserved)
    (passes : style.Passes keep) {dialect : Dialect} {text output : Text}
    (done : (convert dialect style text).result = .ok output) {c : Char} (kept : keep c = true) :
    output.count c = text.count c := by
  have each (segment : Segment) :
      (segment.joined style.linkForm.arrange).count c = (segment.joined (· ++ ·)).count c := by
    cases segment with
    | plain piece => rfl
    | span unit =>
      simp only [joined]
      split
      · exact count_arrange _ _ _ _
      · rfl
  calc
    output.count c = (output.filter keep).count c := (List.count_filter kept).symm
    _ = ((segments text).flatMap (joined style.linkForm.arrange)).count c := by
      rw [filter_convert usable passes done, List.count_filter kept]
    _ = ((segments text).flatMap (joined (· ++ ·))).count c := by
      simp only [List.count_flatMap, Function.comp_def, each]
    _ = (text.filter keep).count c := by rw [filter_source passes, List.count_filter kept]
    _ = text.count c := List.count_filter kept

end Kept

theorem Style.telegram_passes (escapesUrl : Bool) :
    Style.Passes { Style.telegram with escapesUrl } MarkdownV2.isInert where
  markdown := by simp [MarkdownV2.isInert, Style.markdownV2Reserved]
  bold := by simp [MarkdownV2.isInert, Style.markdownV2Reserved, Style.telegram]
  italic := by simp [MarkdownV2.isInert, Style.markdownV2Reserved, Style.telegram]
  angle form := by cases form

def Style.isSlackInert (c : Char) : Bool := MarkdownV2.isInert c && c != '<'

theorem Style.slack_passes : Style.slack.Passes isSlackInert where
  markdown := by simp [isSlackInert, MarkdownV2.isInert, Style.markdownV2Reserved]
  bold := by simp [isSlackInert, MarkdownV2.isInert, Style.markdownV2Reserved, Style.slack]
  italic := by simp [isSlackInert, MarkdownV2.isInert, Style.markdownV2Reserved, Style.slack]
  angle _ := by simp [isSlackInert, MarkdownV2.isInert, Style.markdownV2Reserved]

theorem Style.slackInert_of_control {c : Char} (control : Text.IsControl c) : isSlackInert c := by
  simp [isSlackInert, MarkdownV2.inert_of_control control]

/-- Apart from marks and backslashes a conversion invents nothing and drops nothing. -/
theorem convertNamed_keeps (text output : Text) :
    (∀ escapesUrl,
      (convertNamed "telegram".toList (some { Style.telegram with escapesUrl }) text).result =
        .ok output →
      output.filter MarkdownV2.isInert = text.filter MarkdownV2.isInert ∧
      ∀ c, Text.IsControl c → output.count c = text.count c) ∧
    ((convertNamed "slack".toList none text).result = .ok output →
      text.filter Style.isSlackInert = ((segments text).flatMap
        (joined fun label target => label ++ target)).filter Style.isSlackInert ∧
      output.filter Style.isSlackInert = ((segments text).flatMap
        (joined fun label target => target ++ label)).filter Style.isSlackInert ∧
      (∀ c, Style.isSlackInert c → output.count c = text.count c) ∧
      ∀ c, Text.IsControl c → output.count c = text.count c) := by
  constructor
  · intro escapesUrl done
    have usable : Text.Usable ({ Style.telegram with escapesUrl } : Style).reserved := by
      cases escapesUrl <;> decide
    have passes := Style.telegram_passes escapesUrl
    have converted := (convertNamed_name .telegram { Style.telegram with escapesUrl } text).symm ▸ done
    refine ⟨(filter_convert usable passes converted).trans (filter_source passes text).symm, ?_⟩
    intro c control
    exact count_convert usable passes converted (MarkdownV2.inert_of_control control).1
  · intro done
    have usable : Text.Usable Style.slack.reserved := by decide
    have converted : (convert .slack .slack text).result = .ok output :=
      (convertNamed_own .slack text).symm ▸ done
    refine ⟨filter_source Style.slack_passes text, filter_convert usable Style.slack_passes converted,
      fun c inert => count_convert usable Style.slack_passes converted inert, ?_⟩
    intro c control
    exact count_convert usable Style.slack_passes converted (Style.slackInert_of_control control)

theorem convertNamed_keeps_link :
    let text := "[a.b](c\\)d) *e*\x00<f".toList
    let output := "<c)d|a.b> _e_\x00<f".toList
    (convertNamed "slack".toList none text).result = .ok output ∧
      text.filter Style.isSlackInert = "abcd e\x00f".toList ∧
      output.filter Style.isSlackInert = "cdab e\x00f".toList ∧ output.count '\x00' = text.count '\x00' := by
  intro text output
  have usable : Text.Usable Style.slack.reserved := by decide
  have sealed : ¬ Leaks .slack '\x01' (segments text) := by
    rw [leaks_iff usable]
    decide +kernel
  have written := convert_of_no_leak usable .slack (by decide) (by decide) sealed
  have done : (convertNamed "slack".toList none text).result = .ok output :=
    ((convertNamed_own .slack text) ▸ written).trans (congrArg Except.ok (by decide +kernel))
  obtain ⟨before, after, _, controls⟩ := (convertNamed_keeps text output).2 done
  refine ⟨done, before.trans ?_, after.trans ?_, controls '\x00' (by decide)⟩ <;> decide +kernel

end ChatMarkup
