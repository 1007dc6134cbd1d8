import ChatMarkup.Settings.Dotenv
import Mathlib.Data.List.Dedup
import Mathlib.Data.List.Induction

namespace ChatMarkup

theorem not_named_iff {α : Type} {entries : List (Text × α)} {name : Text} :
    ¬ Named entries name ↔ ∀ entry ∈ entries, entry.1.lower ≠ name := by
  simp [Named]

theorem firstNamed?_eq_none_iff {α : Type} {name : Text} {entries : List (Text × α)} :
    firstNamed? name entries = none ↔ ¬ Named entries name := by
  simp [firstNamed?, Named]

theorem lastNamed?_eq_none_iff {α : Type} {name : Text} {entries : List (Text × α)} :
    lastNamed? name entries = none ↔ ¬ Named entries name := by
  simp [lastNamed?, firstNamed?_eq_none_iff, Named]

theorem firstNamed?_eq_some_iff {α : Type} {name : Text} {entries : List (Text × α)} {value : α} :
    firstNamed? name entries = some value ↔ ∃ before spelling after,
      entries = before ++ (spelling, value) :: after ∧ spelling.lower = name ∧ ¬ Named before name := by
  rw [firstNamed?, Option.map_eq_some_iff]
  constructor
  · rintro ⟨⟨spelling, _⟩, found, rfl⟩
    obtain ⟨named, before, after, whole, others⟩ := List.find?_eq_some_iff_append.mp found
    exact ⟨before, spelling, after, whole, by simpa using named,
      not_named_iff.mpr (by simpa using others)⟩
  · rintro ⟨before, spelling, after, whole, named, others⟩
    refine ⟨(spelling, value), List.find?_eq_some_iff_append.mpr ?_, rfl⟩
    exact ⟨by simpa using named, before, after, whole, by simpa using not_named_iff.mp others⟩

namespace Variables

def spellings (lines : Variables) : List Text := (lines.map (·.1)).reverse.dedup

theorem last_iff {lines : Variables} {spelling value : Text} :
    lines.Last spelling value ↔ lines.reverse.lookup spelling = some value := by
  rw [List.lookup_eq_some_iff]
  constructor
  · rintro ⟨before, after, rfl, others⟩
    exact ⟨after.reverse, before.reverse, by simp, by simpa using fun name value inside =>
      (others (name, value) inside).symm⟩
  · rintro ⟨after, before, whole, others⟩
    refine ⟨before.reverse, after.reverse, ?_, fun later inside same => ?_⟩
    · rw [← List.reverse_reverse lines, whole]
      simp
    · have apart := others later (List.mem_reverse.mp inside)
      simp [same] at apart

theorem Last.mem {lines : Variables} {spelling value : Text} (last : lines.Last spelling value) :
    (spelling, value) ∈ lines := by
  obtain ⟨before, after, rfl, -⟩ := last
  simp

theorem Last.unique {lines : Variables} {spelling value other : Text} (last : lines.Last spelling value)
    (again : lines.Last spelling other) : value = other :=
  Option.some.inj ((last_iff.mp last).symm.trans (last_iff.mp again))

theorem exists_last {lines : Variables} {spelling : Text} (used : spelling ∈ lines.spellings) :
    ∃ value, lines.Last spelling value := by
  rw [spellings, List.mem_dedup, List.mem_reverse, List.mem_map] at used
  obtain ⟨line, inside, rfl⟩ := used
  cases found : lines.reverse.lookup line.1 with
  | none =>
    have apart := List.lookup_eq_none_iff.mp found line (List.mem_reverse.mpr inside)
    simp at apart
  | some latest => exact ⟨latest, last_iff.mpr found⟩

theorem spellings_concat (lines : Variables) (name value : Text) :
    (lines ++ [(name, value)]).spellings =
      if name ∈ lines.spellings then lines.spellings else name :: lines.spellings := by
  simp only [spellings, List.map_append, List.map_singleton, List.reverse_append,
    List.reverse_singleton, List.singleton_append, List.mem_dedup]
  split
  · rename_i inside
    exact List.dedup_cons_of_mem inside
  · rename_i fresh
    exact List.dedup_cons_of_notMem fresh

theorem put_map {names : List Text} (nodup : names.Nodup) (f : Text → Text) (name value : Text) :
    put name value (names.map fun spelling => (spelling, f spelling)) =
      (if name ∈ names then names else names ++ [name]).map fun spelling =>
        (spelling, if spelling = name then value else f spelling) := by
  have others {rest : List Text} (fresh : name ∉ rest) :
      rest.map (fun spelling => (spelling, if spelling = name then value else f spelling)) =
        rest.map fun spelling => (spelling, f spelling) := by
    refine List.map_congr_left fun spelling inside => ?_
    rw [if_neg (ne_of_mem_of_not_mem inside fresh)]
  induction names with
  | nil => simp [put]
  | cons known names ih =>
    obtain ⟨fresh, nodup⟩ := List.nodup_cons.mp nodup
    by_cases same : known = name
    · subst same
      simp [put, others fresh]
    · have apart : name ≠ known := Ne.symm same
      by_cases inside : name ∈ names <;> simp [put, same, apart, ih nodup, inside]

theorem foldl_put (lines : Variables) :
    lines.foldl (fun entries (name, value) => Variables.put name value entries) [] =
      lines.spellings.reverse.map fun spelling => (spelling, (lines.reverse.lookup spelling).getD []) := by
  induction lines using List.reverseRecOn with
  | nil => rfl
  | append_singleton lines line ih =>
    -- a line renews the value of a spelling in use, or takes up its spelling behind the others
    obtain ⟨name, value⟩ := line
    have latest (spelling : Text) : ((lines ++ [(name, value)]).reverse.lookup spelling).getD [] =
        if spelling = name then value else (lines.reverse.lookup spelling).getD [] := by
      rw [List.reverse_append, List.reverse_singleton, List.singleton_append, List.lookup_cons]
      by_cases same : spelling = name
      · rw [if_pos same, beq_iff_eq.mpr same]
        rfl
      · rw [if_neg same, beq_false_of_ne same]
    have nodup : (spellings lines).reverse.Nodup := List.nodup_reverse.mpr (List.nodup_dedup _)
    rw [List.foldl_append, ih, List.foldl_cons, List.foldl_nil]
    change put name value _ = _
    rw [put_map nodup, spellings_concat]
    simp only [latest, List.mem_reverse]
    split
    · rfl
    · rw [List.reverse_cons]

end Variables

namespace Dotenv

/-- What a file holds for a name: the last value of the spelling that its lines took up last. -/
theorem lastNamed?_read {content name value : Text} :
    lastNamed? name (read content) = some value ↔ ∃ spelling,
      (bindings content).spellings.find? (·.lower = name) = some spelling ∧
        (bindings content).Last spelling value := by
  have table : read content = _ := Variables.foldl_put (bindings content)
  rw [lastNamed?, firstNamed?, table, ← List.map_reverse, List.reverse_reverse, List.find?_map,
    Option.map_map, Option.map_eq_some_iff]
  refine exists_congr fun spelling => and_congr_right fun found => ?_
  obtain ⟨known, held⟩ := Variables.exists_last (List.mem_of_find?_eq_some found)
  rw [Variables.last_iff] at held ⊢
  simp [held]

theorem lastNamed?_read_eq_none_iff {content name : Text} :
    lastNamed? name (read content) = none ↔ ¬ Named (bindings content) name := by
  have table : read content = _ := Variables.foldl_put (bindings content)
  rw [lastNamed?_eq_none_iff, table]
  simp [Named, Variables.spellings]

end Dotenv

end ChatMarkup
