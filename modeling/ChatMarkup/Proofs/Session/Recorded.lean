import ChatMarkup.Proofs.Convert.Outcome
import ChatMarkup.Proofs.Convert.Platform
import ChatMarkup.Proofs.Convert.Recorded
import ChatMarkup.Proofs.Session.Logged
import ChatMarkup.Proofs.Session.Reads

namespace ChatMarkup

open Placeholder Reported

theorem convertNamed_after (name text : Text) (outer : Fields) :
    (convertNamed name none text).after outer = outer := by
  unfold convertNamed
  split
  · rename_i dialect found
    exact (convert_logs dialect _ text).restored outer
  · rfl

theorem convertNamed_context {name text : Text} {outer : Fields} {record : Record}
    (made : record ∈ (convertNamed name none text).log outer) :
    record.context = [("dialect".toList, .text name)] ++ outer := by
  unfold convertNamed at made
  split at made
  · rename_i dialect found
    rw [← Dialect.name_of_ofName? found]
    refine (convert_logs dialect _ text).context_eq ?_ made
    intro output record inside
    split at inside
    · cases inside
    · rw [List.mem_singleton.mp inside]
      rfl
  · cases made

theorem Platform.format_after (platform : Platform) (settings : Settings) (text : Text) (outer : Fields) :
    (platform.format settings text).after outer = outer := by
  unfold format
  split <;> rfl

theorem Platform.format_context {platform : Platform} {settings : Settings} {text : Text}
    {outer : Fields} {record : Record} (made : record ∈ (platform.format settings text).log outer) :
    ∃ dialect : Dialect, record.context = dialect.context ++ platform.context ++ outer := by
  cases own : platform.dialect? settings with
  | none =>
    rw [format_of_plain own] at made
    cases made
  | some dialect =>
    refine ⟨dialect, (format_logs own text).context_eq ?_ made⟩
    intro output record inside
    split at inside
    · cases inside
    · rw [List.mem_singleton.mp inside]
      rfl

namespace Session

variable {libraries : Libraries}

def Command.Binds (command : Command) (context : Fields) : Prop :=
  match command with
  | .log _ _ _ own _ | .logForeign _ _ _ _ own _ => context = own
  | .convert name _ => context = [("dialect".toList, .text name)]
  | .format name _ _ => ∃ target : Dialect,
      context = [("dialect".toList, .text target.name), ("platform".toList, .text name)]
  | _ => context = []

theorem binds_of_made {session : Session libraries} {command : Command} {record : Record}
    (inside : record ∈ session.made command) :
    ∃ own, command.Binds own ∧ record.context = own ++ session.context := by
  cases command with
  | setVariable | eraseVariable | forgetSettings | readSettings | dialect | configure | configureFrom =>
    cases inside
  | log level message origin context failure =>
    simp only [made] at inside
    split at inside
    · rw [List.mem_singleton.mp inside]
      exact ⟨context, rfl, rfl⟩
    · cases inside
  | logForeign number message arguments origin context failure =>
    simp only [made] at inside
    split at inside
    · cases inside
    · split at inside
      · obtain ⟨_, -, rfl⟩ := List.mem_map.mp inside
        exact ⟨context, rfl, rfl⟩
      · cases inside
  | convert dialect text => exact ⟨_, rfl, convertNamed_context inside⟩
  | escape text reserved mark =>
    exact ⟨[], rfl, (escapeAround_logs reserved mark text).context_eq
      (fun _ => List.forall_mem_nil _) inside⟩
  | fill text finals mark =>
    exact ⟨[], rfl, (fill_logs text finals mark).context_eq (fun _ => List.forall_mem_nil _) inside⟩
  | format name text given =>
    simp only [made] at inside
    split at inside
    · rename_i platform found
      split at inside
      · obtain ⟨dialect, same⟩ := Platform.format_context inside
        rw [← Platform.name_of_ofName found]
        exact ⟨_, ⟨dialect, rfl⟩, same⟩
      · cases inside
    · cases inside

/-- Every command leaves the ambient context as it found it, also if it fails. -/
theorem context_run (session : Session libraries) (command : Command) :
    (session.run command).2.context = session.context := by
  cases command with
  | setVariable | eraseVariable | forgetSettings | configure | log | logForeign => rfl
  | readSettings => exact withSettings_keeps context (fun _ => rfl) fun _ _ => rfl
  | dialect platform given =>
    refine withGiven_keeps context fun given => withPlatform_keeps context fun platform => ?_
    split
    · rfl
    · exact withSettings_keeps context (fun _ => rfl) fun _ _ => rfl
  | format platform text given =>
    exact withGiven_keeps context fun given => withPlatform_keeps context fun platform =>
      withSettings_keeps context (fun _ => rfl) fun settings session =>
        platform.format_after settings text session.context
  | configureFrom given force =>
    exact withGiven_keeps context fun given => withSettings_keeps context (fun _ => rfl) fun _ _ => rfl
  | convert dialect text => exact convertNamed_after dialect text session.context
  | escape text reserved mark => exact (escapeAround_logs reserved mark text).restored session.context
  | fill text finals mark => exact (fill_logs text finals mark).restored session.context

end Session

end ChatMarkup
