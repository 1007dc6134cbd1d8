import ChatMarkup.Proofs.Settings.Lawful

namespace ChatMarkup.SettingsLibrary

/-- A value that counts for a name, or none. It comes from the first source to hold the name. -/
inductive Winner (library : SettingsLibrary) (sources : Sources) (name : Text) : Option Value → Prop
  | given {spelling : Text} {value : Value} (inside : (spelling, value) ∈ sources.given)
      (named : spelling.lower = name) : Winner library sources name (some value)
  | environment {spelling value : Text} (absent : ¬ Named sources.given name)
      (inside : (spelling, value) ∈ sources.environment) (named : spelling.lower = name) :
      Winner library sources name (some (.text value))
  | file {spelling value : Text} (absent : ¬ Named sources.given name)
      (unset : ¬ Named sources.environment name)
      (last : (library.bindings sources.file).Last spelling value) (named : spelling.lower = name) :
      Winner library sources name (some (.text value))
  | missing (absent : ¬ Named sources.given name) (unset : ¬ Named sources.environment name)
      (unwritten : ¬ Named (library.bindings sources.file) name) : Winner library sources name none

/-- No name is given twice or is in the environment twice, and a file spells each in one way. -/
structure Distinct (library : SettingsLibrary) (sources : Sources) : Prop where
  given : (sources.given.map (·.1.lower)).Nodup
  environment : (sources.environment.map (·.1.lower)).Nodup
  file : ∀ one ∈ library.bindings sources.file, ∀ other ∈ library.bindings sources.file,
    one.1.lower = other.1.lower → one.1 = other.1

theorem value_unique {α : Type} {entries : List (Text × α)} (apart : (entries.map (·.1.lower)).Nodup)
    {one other : Text} {first second : α} (inside : (one, first) ∈ entries)
    (also : (other, second) ∈ entries) (same : one.lower = other.lower) : first = second :=
  (Prod.mk.inj (List.inj_on_of_nodup_map apart inside also same)).2

variable {library : SettingsLibrary} (laws : library.Lawful) {sources : Sources} {name : Text}

include laws

theorem exists_given (held : Named sources.given name) : ∃ value,
    library.given? sources.given name = some value := by
  cases found : library.given? sources.given name with
  | none => exact absurd held (laws.given_none_iff.mp found)
  | some value => exact ⟨value, rfl⟩

theorem exists_environment (held : Named sources.environment name) : ∃ value,
    library.environment? sources.environment name = some value := by
  cases found : library.environment? sources.environment name with
  | none => exact absurd held (laws.environment_none_iff.mp found)
  | some value => exact ⟨value, rfl⟩

theorem winner_wins (sources : Sources) (name : Text) :
    library.Winner sources name (library.winner sources name) := by
  unfold winner
  cases above : library.given? sources.given name with
  | some value =>
    obtain ⟨spelling, inside, named⟩ := laws.mem_given above
    exact .given inside named
  | none =>
    have absent := laws.given_none_iff.mp above
    cases middle : library.environment? sources.environment name with
    | some value =>
      obtain ⟨spelling, inside, named⟩ := laws.mem_environment middle
      exact .environment absent inside named
    | none =>
      have unset := laws.environment_none_iff.mp middle
      cases below : library.file? sources.file name with
      | some value =>
        obtain ⟨spelling, last, named⟩ := laws.last_of_file below
        exact .file absent unset last named
      | none => exact .missing absent unset (laws.file_none_iff.mp below)

theorem winner_of_given {other : Sources} (held : Named sources.given name)
    (same : other.given = sources.given) : library.winner other name = library.winner sources name := by
  obtain ⟨value, found⟩ := exists_given laws held
  rw [winner, winner, same, found]
  rfl

theorem winner_of_environment {other : Sources} (held : Named sources.environment name)
    (given : other.given = sources.given) (same : other.environment = sources.environment) :
    library.winner other name = library.winner sources name := by
  obtain ⟨value, found⟩ := exists_environment laws held
  rw [winner, winner, given, same, found]
  rfl

theorem winner_eq (distinct : library.Distinct sources) {found : Option Value}
    (wins : library.Winner sources name found) : library.winner sources name = found := by
  cases wins with
  | given inside named =>
    obtain ⟨value, first⟩ := exists_given laws ⟨_, inside, named⟩
    obtain ⟨spelling, also, alike⟩ := laws.mem_given first
    rw [winner, first, value_unique distinct.given also inside (alike.trans named.symm)]
    rfl
  | environment absent inside named =>
    obtain ⟨value, second⟩ := exists_environment laws ⟨_, inside, named⟩
    obtain ⟨spelling, also, alike⟩ := laws.mem_environment second
    rw [winner, laws.given_none_iff.mpr absent, second,
      value_unique distinct.environment also inside (alike.trans named.symm)]
    rfl
  | file absent unset last named =>
    rw [winner, laws.given_none_iff.mpr absent, laws.environment_none_iff.mpr unset]
    cases third : library.file? sources.file name with
    | none => exact absurd ⟨_, last.mem, named⟩ (laws.file_none_iff.mp third)
    | some value =>
      obtain ⟨spelling, latest, alike⟩ := laws.last_of_file third
      obtain rfl : spelling = _ := distinct.file _ latest.mem _ last.mem (alike.trans named.symm)
      rw [latest.unique last]
      rfl
  | missing absent unset unwritten =>
    rw [winner, laws.given_none_iff.mpr absent, laws.environment_none_iff.mpr unset,
      laws.file_none_iff.mpr unwritten]
    rfl

end ChatMarkup.SettingsLibrary
