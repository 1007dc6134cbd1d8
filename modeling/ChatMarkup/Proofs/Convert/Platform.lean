import ChatMarkup.Platform
import ChatMarkup.Proofs.MarkdownV2.ReadBack
import ChatMarkup.Proofs.Text.Paired

namespace ChatMarkup

open Segment Placeholder

namespace MarkdownV2

open Style (markdownV2Reserved)

/-- The escapes in targets show in links only, and there between the parentheses alone. -/
def VariesInTarget (segment : Segment) : Prop :=
  (∃ text, ∀ escapesUrl, segment.write (telegram escapesUrl) = .ok text) ∨
    ∃ unit label, segment = .span unit ∧ unit.kind = .link ∧ ∀ escapesUrl, ∃ target,
      Span.renderTarget (telegram escapesUrl) (unit.url.getD []) = .ok target ∧
      segment.write (telegram escapesUrl) = .ok ('[' :: label ++ ']' :: '(' :: target ++ [')'])

theorem written_telegram_cases {text : Text} {segment : Segment} (member : segment ∈ segments text) :
    (∀ escapesUrl, written (telegram escapesUrl) segment = written (telegram true) segment) ∨
      ∃ unit label, segment = .span unit ∧ unit.kind = .link ∧ ∀ escapesUrl,
        written (telegram escapesUrl) segment =
          '[' :: label ++ ']' :: '(' :: Span.writtenTarget (telegram escapesUrl) (unit.url.getD []) ++
            [')'] := by
  cases segment with
  | plain piece => exact .inl fun _ => rfl
  | span unit =>
    cases segments_grammar member with
    | codeBlock | inlineCode | bold | italic => exact .inl fun _ => rfl
    | link => exact .inr ⟨_, Text.escapeChars markdownV2Reserved _, rfl, rfl, fun _ => rfl⟩

theorem write_telegram {text : Text} {segment : Segment} (member : segment ∈ segments text)
    (escapesUrl : Bool) :
    segment.write (telegram escapesUrl) = .ok (written (telegram escapesUrl) segment) := by
  cases segment with
  | plain piece => exact Text.escape_of_usable (telegram_usable escapesUrl) piece
  | span unit => exact (segments_grammar member).render_eq (telegram_usable escapesUrl)

theorem variesInTarget {text : Text} {segment : Segment} (member : segment ∈ segments text) :
    VariesInTarget segment := by
  rcases written_telegram_cases member with same | ⟨unit, label, whole, link, every⟩
  · refine .inl ⟨written (telegram true) segment, fun escapesUrl => ?_⟩
    rw [write_telegram member, same]
  · refine .inr ⟨unit, label, whole, link, fun escapesUrl => ?_⟩
    refine ⟨_, Span.renderTarget_ok (telegram_usable escapesUrl) _, ?_⟩
    rw [write_telegram member, every]

theorem writtenTarget_sublist (target : Text) :
    (Span.writtenTarget (telegram false) target).Sublist (Span.writtenTarget (telegram true) target) := by
  have proper : '\\' ∉ markdownV2Reserved := by decide
  have known : [')'] ⊆ markdownV2Reserved := by decide
  exact Text.escapeChars_sublist proper known target

theorem written_telegram_sublist {text : Text} {segment : Segment} (member : segment ∈ segments text) :
    (written (telegram false) segment).Sublist (written (telegram true) segment) := by
  rcases written_telegram_cases member with same | ⟨unit, label, _, _, every⟩
  · rw [same]
  · have inner := (writtenTarget_sublist (unit.url.getD [])).cons_cons '('
    rw [every, every]
    exact ((inner.cons_cons ']').append_left ('[' :: label)).append_right [')']

theorem filter_written_telegram {text : Text} {segment : Segment} (member : segment ∈ segments text) :
    (written (telegram false) segment).filter (· ≠ '\\') =
      (written (telegram true) segment).filter (· ≠ '\\') := by
  rcases written_telegram_cases member with same | ⟨unit, label, _, _, every⟩
  · rw [same]
  · have bare (escapesUrl : Bool) :
        (Span.writtenTarget (telegram escapesUrl) (unit.url.getD [])).filter (· ≠ '\\') =
          (unit.url.getD []).filter (· ≠ '\\') := Text.filter_escapeChars (by decide) _ _
    rw [every, every]
    simp only [List.filter_append, List.filter_cons, bare]

end MarkdownV2

namespace Platform

theorem result_format_plain {platform : Platform} {settings : Settings}
    (plain : platform.dialect? settings = none) (text : Text) :
    (platform.format settings text).result = .ok text := by
  simp only [format, plain, Reported.result_pure]

theorem result_format {platform : Platform} {settings : Settings} {dialect : Dialect}
    (own : platform.dialect? settings = some dialect) (text : Text) :
    (platform.format settings text).result = (convert dialect (style settings dialect) text).result := by
  simp only [format, own, Reported.result_within]

theorem exists_ofName_dialect (dialect : Dialect) (settings : Settings) : ∃ platform,
    ofName dialect.name = .ok platform ∧ platform.dialect? settings = some dialect := by
  cases dialect with
  | slack => exact ⟨.slack, rfl, rfl⟩
  | telegram => exact ⟨.telegram, rfl, rfl⟩

theorem result_format_telegram (settings : Settings) (text : Text) :
    (telegram.format settings text).result =
      (convert .telegram (MarkdownV2.telegram settings.escapesTelegramUrls) text).result :=
  result_format rfl text

/-- Discord gets plain text or what the platform of its dialect would get. -/
theorem format_agrees (settings : Settings) (text : Text) :
    let result (platform : Platform) (settings : Settings) := (platform.format settings text).result
    (settings.discordDialect = none → result discord settings = .ok text) ∧
    (∀ dialect, settings.discordDialect = some dialect → ∃ platform,
      ofName dialect.name = .ok platform ∧ result discord settings = result platform settings) ∧
    result slack settings = (convertNamed "slack".toList none text).result ∧
    (settings.escapesTelegramUrls = true →
      result telegram settings = (convertNamed "telegram".toList none text).result) ∧
    let flagged (escapesTelegramUrls : Bool) := result telegram { settings with escapesTelegramUrls }
    (∀ fault, flagged true = .error fault ↔ flagged false = .error fault) ∧
    ∀ full least, flagged true = .ok full → flagged false = .ok least →
      least.filter (· ≠ '\\') = full.filter (· ≠ '\\') ∧ least.Sublist full ∧
      writeAll (MarkdownV2.telegram true) (segments text) = .ok full ∧
      writeAll (MarkdownV2.telegram false) (segments text) = .ok least ∧
      ∀ segment ∈ segments text, MarkdownV2.VariesInTarget segment := by
  dsimp only
  have discordDialect : discord.dialect? settings = settings.discordDialect := rfl
  rw [← discordDialect]
  refine ⟨fun plain => result_format_plain plain text, ?_, ?_, ?_, ?_, ?_⟩
  · intro dialect chosen
    obtain ⟨platform, named, own⟩ := exists_ofName_dialect dialect settings
    exact ⟨platform, named, (result_format chosen text).trans (result_format own text).symm⟩
  · exact (result_format rfl text).trans (congrArg Reported.result (convertNamed_own .slack text).symm)
  · intro escapes
    rw [result_format_telegram, escapes]
    exact congrArg Reported.result (convertNamed_own .telegram text).symm
  · intro fault
    have failing (escapesUrl : Bool) : (convert .telegram (MarkdownV2.telegram escapesUrl) text).result =
        .error fault ↔ fault = .noFreeMark ∧ ¬ ∃ mark ∈ Table.markCandidates, mark ∉ text :=
      convert_error_iff (MarkdownV2.telegram_usable escapesUrl) (Dialect.unmarked .telegram) .telegram
    rw [result_format_telegram, result_format_telegram]
    exact (failing true).trans (failing false).symm
  · intro full least done doneLeast
    rw [result_format_telegram] at done doneLeast
    have grammar (unit : Span) (member : .span unit ∈ segments text) := segments_grammar member
    rw [eq_of_convert (MarkdownV2.telegram_usable true) done,
      eq_of_convert (MarkdownV2.telegram_usable false) doneLeast]
    refine ⟨?_, ?_, writeAll_ok (MarkdownV2.telegram_usable true) grammar,
      writeAll_ok (MarkdownV2.telegram_usable false) grammar, fun _ => MarkdownV2.variesInTarget⟩
    · rw [List.filter_flatMap, List.filter_flatMap]
      exact List.flatMap_congr fun _ => MarkdownV2.filter_written_telegram
    · exact List.Sublist.flatMap_right _ fun _ => MarkdownV2.written_telegram_sublist

theorem format_agrees_link :
    let settings : Settings := { escapesTelegramUrls := false, discordDialect := some .telegram }
    let plain : Settings := {}
    let text := "[a.](b.\\)) c.".toList
    let full := "[a\\.](b\\.\\)) c\\.".toList
    let least := "[a\\.](b.\\)) c\\.".toList
    plain.discordDialect = none ∧ (discord.format plain text).result = .ok text ∧
    settings.discordDialect = some .telegram ∧
    (∃ platform, ofName Dialect.telegram.name = .ok platform ∧
      (discord.format settings text).result = (platform.format settings text).result) ∧
    plain.escapesTelegramUrls = true ∧
    (telegram.format plain text).result = (convertNamed "telegram".toList none text).result ∧
    (telegram.format { settings with escapesTelegramUrls := true } text).result = .ok full ∧
    (telegram.format { settings with escapesTelegramUrls := false } text).result = .ok least ∧
    least.filter (· ≠ '\\') = full.filter (· ≠ '\\') ∧ least.Sublist full := by
  intro settings plain text full least
  have free : ∃ mark ∈ Table.markCandidates, mark ∉ text := ⟨'\x00', by decide, by decide⟩
  have done : (telegram.format { settings with escapesTelegramUrls := true } text).result = .ok full :=
    (result_format_telegram _ text).trans
      ((MarkdownV2.convert_telegram true free).trans (congrArg Except.ok (by decide +kernel)))
  have doneLeast : (telegram.format { settings with escapesTelegramUrls := false } text).result =
      .ok least :=
    (result_format_telegram _ text).trans
      ((MarkdownV2.convert_telegram false free).trans (congrArg Except.ok (by decide +kernel)))
  obtain ⟨unset, -, -, own, -⟩ := format_agrees plain text
  obtain ⟨-, chosen, -, -, -, both⟩ := format_agrees settings text
  obtain ⟨bare, sub, -⟩ := both full least done doneLeast
  exact ⟨rfl, unset rfl, rfl, chosen .telegram rfl, rfl, own rfl, done, doneLeast, bare, sub⟩

end Platform

end ChatMarkup
