import ChatMarkup.Platform
import ChatMarkup.Proofs.Convert.Outcome

namespace ChatMarkup

def Fault.OfConversion (fault : Fault) : Prop := fault = .noFreeMark ∨ fault.BreaksPlaceholder

def Quiet {α : Type} (result : Except Fault α) : Prop :=
  ∀ fault, result = .error fault → ¬ fault.OfConversion

namespace Quiet

variable {α β : Type}

theorem ok (value : α) : Quiet (.ok value) := fun _ failed => nomatch failed

theorem of_failsWith {result : Except Fault α} {fault : Fault} (only : FailsWith fault result)
    (other : ¬ fault.OfConversion) : Quiet result := by
  intro found failed
  rw [only found failed]
  exact other

theorem bind {first : Except Fault α} {next : α → Except Fault β} (start : Quiet first)
    (rest : ∀ value, Quiet (next value)) : Quiet (first >>= next) := by
  intro fault failed
  cases first with
  | ok value => exact rest value fault failed
  | error known =>
    cases failed
    exact start _ rfl

theorem mapM {f : α → Except Fault β} (each : ∀ x, Quiet (f x)) (xs : List α) : Quiet (xs.mapM f) := by
  induction xs with
  | nil => exact .ok []
  | cons x xs ih =>
    rw [List.mapM_cons]
    exact (each x).bind fun _ => ih.bind fun _ => .ok _

end Quiet

theorem Fault.not_ofConversion_noReservedCharacter : ¬ noReservedCharacter.OfConversion := by
  rintro (⟨⟨⟩⟩ | ⟨⟨⟩⟩)

theorem Span.quiet_render (style : Style) (unit : Span) : Quiet (unit.render style) := by
  have content : Quiet (renderContent style unit.content) :=
    .of_failsWith (renderContent_fails style _) Fault.not_ofConversion_noReservedCharacter
  have target (url : Text) : Quiet (renderTarget style url) :=
    .of_failsWith (Text.escape_fails _ _) Fault.not_ofConversion_noReservedCharacter
  unfold render
  split
  · exact .ok _
  · exact .ok _
  · split
    · exact .ok _
    · exact (target _).bind fun _ => content.bind fun _ => .ok _
  · exact content.bind fun _ => .ok _
  · exact content.bind fun _ => .ok _
  · rintro fault ⟨⟩ (⟨⟨⟩⟩ | ⟨⟨⟩⟩)

theorem Placeholder.Table.quiet_render (table : Table) (style : Style) : Quiet (table.render style) :=
  .mapM (fun entry => (entry.2.quiet_render style).bind fun _ => .ok _) table.entries

namespace Reported

variable {α β : Type} {call : Reported α} {own : Fields}

/-- What a call logs, by its outcome, wherever it is made. -/
structure Logs (call : Reported α) (own : Fields) (done : α → List Record) : Prop where
  succeeded : ∀ outer value, call.result = .ok value →
    call.log outer = (done value).map (·.within (own ++ outer))
  failed : ∀ outer fault, call.result = .error fault → fault.OfConversion →
    ∃ record, call.log outer = [record] ∧ record.severity = .level .error ∧ record.context = own ++ outer
  refused : ∀ outer fault, call.result = .error fault → ¬ fault.OfConversion → call.log outer = []
  restored : ∀ outer, call.after outer = outer

theorem logs_pure (value : α) : (pure value : Reported α).Logs [] fun _ => [] where
  succeeded _ _ _ := rfl
  failed _ _ failed := nomatch failed
  refused _ _ _ _ := rfl
  restored _ := rfl

theorem logs_ofExcept {result : Except Fault α} (quiet : Quiet result) :
    (ofExcept result).Logs [] fun _ => [] where
  succeeded _ _ _ := rfl
  failed _ fault failed own := absurd own (quiet fault failed)
  refused _ _ _ _ := rfl
  restored _ := rfl

theorem logs_raise {fault : Fault} (own : fault.OfConversion) (component function : String)
    (message : Text) :
    (raise (.error component function message) fault : Reported α).Logs [] fun _ => [] where
  succeeded _ _ done := nomatch done
  failed _ _ _ _ := ⟨_, rfl, rfl, rfl⟩
  refused outer other failed foreign := by
    cases failed
    exact absurd own foreign
  restored _ := rfl

theorem Logs.bind {next : α → Reported β} {done : β → List Record}
    (start : call.Logs own fun _ => [])
    (rest : ∀ value, call.result = .ok value → (next value).Logs own done) :
    (call >>= next).Logs own done := by
  cases outcome : call.result with
  | ok value =>
    have inner := rest value outcome
    have same : (call >>= next).result = (next value).result := by
      rw [result_bind, outcome]
      rfl
    have logged (outer : Fields) : (call >>= next).log outer = (next value).log outer := by
      rw [(bind_of_ok outcome next outer).1, start.succeeded outer value outcome, start.restored]
      rfl
    refine ⟨?_, ?_, ?_, ?_⟩
    · intro outer output
      rw [same, logged]
      exact inner.succeeded outer output
    · intro outer fault
      rw [same, logged]
      exact inner.failed outer fault
    · intro outer fault
      rw [same, logged]
      exact inner.refused outer fault
    · intro outer
      rw [(bind_of_ok outcome next outer).2, start.restored]
      exact inner.restored outer
  | error fault =>
    have same : (call >>= next).result = .error fault := by
      rw [result_bind, outcome]
      rfl
    have kept := bind_of_error outcome next
    refine ⟨?_, ?_, ?_, fun outer => (kept outer).2.trans (start.restored outer)⟩
    · intro outer output found
      cases same.symm.trans found
    · intro outer found failed
      cases same.symm.trans failed
      rw [(kept outer).1]
      exact start.failed outer fault outcome
    · intro outer found failed
      cases same.symm.trans failed
      rw [(kept outer).1]
      exact start.refused outer fault outcome

theorem Logs.within {done : α → List Record} (inner : call.Logs own done) (entries : Fields) :
    (call.within entries).Logs (own ++ entries) done where
  succeeded outer value outcome := by
    rw [List.append_assoc]
    exact inner.succeeded (entries ++ outer) value outcome
  failed outer fault outcome known := by
    rw [List.append_assoc]
    exact inner.failed (entries ++ outer) fault outcome known
  refused outer fault outcome other := inner.refused (entries ++ outer) fault outcome other
  restored _ := rfl

theorem logs_emit (record : α → Record) (value : α) :
    (do emit (record value); pure value : Reported α).Logs [] fun value => [record value] where
  succeeded _ _ done := by
    cases done
    rfl
  failed _ _ failed := nomatch failed
  refused _ _ failed := nomatch failed
  restored _ := rfl

/-- What is on record of a call in an ambient context, by its outcome. -/
structure Told (call : Reported α) (outer context : Fields) (done : α → List Record → Prop) : Prop where
  succeeded : ∀ value, call.result = .ok value → done value (call.log outer)
  failed : ∀ fault, call.result = .error fault → fault.OfConversion →
    ∃ record, call.log outer = [record] ∧ record.severity = .level .error ∧ record.context = context
  refused : ∀ fault, call.result = .error fault → ¬ fault.OfConversion → call.log outer = []
  restored : call.after outer = outer

theorem Logs.told {records : α → List Record} (logs : call.Logs own records) (outer : Fields)
    {done : α → List Record → Prop}
    (tells : ∀ value, done value ((records value).map (·.within (own ++ outer)))) :
    call.Told outer (own ++ outer) done where
  succeeded value outcome := by
    rw [logs.succeeded outer value outcome]
    exact tells value
  failed := logs.failed outer
  refused := logs.refused outer
  restored := logs.restored outer

theorem Logs.context_eq {done : α → List Record} (logs : call.Logs own done)
    (bare : ∀ value, ∀ record ∈ done value, record.context = []) {outer : Fields} {record : Record}
    (made : record ∈ call.log outer) : record.context = own ++ outer := by
  cases outcome : call.result with
  | ok value =>
    rw [logs.succeeded outer value outcome] at made
    obtain ⟨inner, known, rfl⟩ := List.mem_map.mp made
    rw [Record.within, bare value inner known, List.nil_append]
  | error fault =>
    by_cases known : fault.OfConversion
    · obtain ⟨found, alone, -, bound⟩ := logs.failed outer fault outcome known
      rw [alone, List.mem_singleton] at made
      rw [made, bound]
    · rw [logs.refused outer fault outcome known] at made
      cases made

end Reported

def Dialect.context (dialect : Dialect) : Fields := [("dialect".toList, .text dialect.name)]

def Platform.context (platform : Platform) : Fields := [("platform".toList, .text platform.name)]

open Placeholder Reported

namespace Placeholder

theorem Table.entries_of_forText {text : Text} {table : Table}
    (chosen : (Table.forText text).result = .ok table) : table.entries = [] := by
  unfold Table.forText at chosen
  split at chosen
  · cases chosen
    rfl
  · cases chosen

theorem Table.forText_logs (text : Text) : (Table.forText text).Logs [] fun _ => [] := by
  unfold Table.forText
  split
  · exact logs_pure _
  · exact logs_raise (.inl rfl) _ _ _

theorem escapeAround_logs (reserved : List Text) (mark text : Text) :
    (escapeAround reserved mark text).Logs [] fun _ => [] := by
  have escaping (region : Region) : Quiet (region.escape reserved) :=
    .of_failsWith (region.escape_fails reserved) Fault.not_ofConversion_noReservedCharacter
  refine (logs_ofExcept (.mapM escaping _)).bind fun escaped _ => ?_
  cases (regions mark 0 text).2 with
  | none => exact logs_pure _
  | some offset =>
    refine logs_raise ?_ _ _ _
    exact .inr trivial

theorem fill_logs (text : Text) (finals : List (Text × Text)) (mark : Text) :
    (fill text finals mark).Logs [] fun _ => [] := by
  induction finals generalizing text with
  | nil =>
    unfold fill
    split
    · refine logs_raise ?_ _ _ _
      exact .inr trivial
    · exact logs_pure text
  | cons replacement rest ih =>
    unfold fill
    split
    · refine logs_raise ?_ _ _ _
      exact .inr trivial
    · exact ih _

end Placeholder

def convertedRecord (dialect : Dialect) (text output : Text) : Record :=
  .converted dialect (Segment.spans (segments text)).length text.length output.length

theorem convert_logs (dialect : Dialect) (style : Style) (text : Text) :
    (convert dialect style text).Logs dialect.context fun output =>
      if text = [] then [] else [convertedRecord dialect text output] := by
  by_cases empty : text = []
  · simp only [convert, if_pos empty]
    refine ⟨fun _ _ _ => rfl, fun _ _ failed => ?_, fun _ _ failed => ?_, fun _ => rfl⟩
    · cases failed
    · cases failed
  · simp only [convert, if_neg empty]
    refine Logs.within (?_ : Logs _ [] fun output => [convertedRecord dialect text output]) dialect.context
    refine (Table.forText_logs text).bind fun table chosen => ?_
    have counted : ((table.build (segments text)).2).entries.length =
        (Segment.spans (segments text)).length := by
      have spans := congrArg List.length (table.spans_build (segments text))
      simpa [Table.spans, Table.entries_of_forText chosen] using spans
    refine (escapeAround_logs _ _ _).bind fun escaped _ => ?_
    refine (logs_ofExcept (Table.quiet_render _ style)).bind fun finals _ => ?_
    refine (fill_logs _ _ _).bind fun output _ => ?_
    rw [counted]
    exact logs_emit (convertedRecord dialect text) output

theorem Platform.format_of_plain {platform : Platform} {settings : Settings}
    (plain : platform.dialect? settings = none) (text : Text) :
    platform.format settings text = pure text := by
  simp only [format, plain]

theorem Platform.format_logs {platform : Platform} {settings : Settings} {dialect : Dialect}
    (own : platform.dialect? settings = some dialect) (text : Text) :
    (platform.format settings text).Logs (dialect.context ++ platform.context) fun output =>
      if text = [] then [] else [convertedRecord dialect text output] := by
  simp only [format, own]
  exact (convert_logs dialect (style settings dialect) text).within platform.context

end ChatMarkup
