import ChatMarkup.Proofs.Convert.Piecewise

namespace ChatMarkup

open Segment Placeholder

def Style.Unmarked (style : Style) : Prop := ∀ mark ∈ Table.markCandidates, mark ∉ style.marks

theorem not_leaks {style : Style} (usable : Text.Usable style.reserved) (unmarked : style.Unmarked)
    {text : Text} {mark : Char} (chosen : Table.markCandidates.find? (· ∉ text) = some mark) :
    ¬ Leaks style mark (segments text) := by
  rw [leaks_iff usable]
  rintro ⟨unit, member, inside⟩
  have listed := mem_spans.mp member
  rcases (segments_grammar listed).mem_written inside with raw | own
  · have within := mem_source listed raw
    rw [source_segments] at within
    exact (chosen_mark chosen).2.2 within
  · exact unmarked mark (List.mem_of_find?_eq_some chosen) own

theorem exists_chosen {text : Text} (free : ∃ mark ∈ Table.markCandidates, mark ∉ text) :
    ∃ mark, Table.markCandidates.find? (· ∉ text) = some mark := by
  rw [← Option.isSome_iff_exists, List.find?_isSome]
  simpa using free

theorem convert_of_free {style : Style} (usable : Text.Usable style.reserved)
    (unmarked : style.Unmarked) (dialect : Dialect) {text : Text}
    (free : ∃ mark ∈ Table.markCandidates, mark ∉ text) :
    (convert dialect style text).result = .ok ((segments text).flatMap (written style)) := by
  by_cases empty : text = []
  · rw [empty, segments_nil]
    rfl
  · obtain ⟨mark, chosen⟩ := exists_chosen free
    exact convert_of_no_leak usable dialect empty chosen (not_leaks usable unmarked chosen)

theorem convert_error_iff {style : Style} (usable : Text.Usable style.reserved)
    (unmarked : style.Unmarked) (dialect : Dialect) {text : Text} {fault : Fault} :
    (convert dialect style text).result = .error fault ↔
      fault = .noFreeMark ∧ ¬ ∃ mark ∈ Table.markCandidates, mark ∉ text := by
  by_cases free : ∃ mark ∈ Table.markCandidates, mark ∉ text
  · have done := convert_of_free usable unmarked dialect free
    simp [done, free]
  · have taken : ∀ mark ∈ Table.markCandidates, mark ∈ text := by simpa using free
    simp [convert_of_no_mark dialect style taken, free, eq_comm]

theorem Dialect.usable_reserved (dialect : Dialect) : Text.Usable dialect.style.reserved := by
  cases dialect <;> decide

theorem Dialect.unmarked (dialect : Dialect) : dialect.style.Unmarked := by
  have every (dialect : Dialect) : Table.markCandidates.all (· ∉ dialect.style.marks) := by
    cases dialect <;> decide
  exact fun mark known => of_decide_eq_true (List.all_eq_true.mp (every dialect) mark known)

theorem convertNamed_of_free (dialect : Dialect) {text : Text}
    (free : ∃ mark ∈ Table.markCandidates, mark ∉ text) :
    (convertNamed dialect.name none text).result =
      .ok ((segments text).flatMap (written dialect.style)) := by
  rw [convertNamed_own]
  exact convert_of_free dialect.usable_reserved dialect.unmarked dialect free

end ChatMarkup
