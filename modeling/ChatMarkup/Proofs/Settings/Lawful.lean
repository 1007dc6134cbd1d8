import ChatMarkup.Proofs.Settings.Duplicates

namespace ChatMarkup

theorem map_alone_eq_ok_iff {α : Type} {result : Except Mismatch α} {value : α} :
    result.mapError Misfit.alone = .ok value ↔ result = .ok value := by
  cases result <;> simp [Except.mapError]

theorem map_alone_eq_error_iff {α : Type} {result : Except Mismatch α} {misfits : List Misfit} :
    result.mapError Misfit.alone = .error misfits ↔
      ∃ mismatch, result = .error mismatch ∧ misfits = [{ mismatch }] := by
  cases result <;> simp [Except.mapError, Misfit.alone, eq_comm]

namespace Value

theorem toText_eq_ok_iff {value : Value} {text : Text} : value.toText = .ok text ↔ value = .text text := by
  cases value <;> simp [toText]

theorem toBool_eq_ok_iff {value : Value} {flag : Bool} : value.toBool = .ok flag ↔ value.StandsFor flag := by
  constructor
  · intro read
    cases value with
    | bool b =>
      cases read
      exact .bool _
    | int n =>
      simp only [toBool] at read
      split at read
      · rename_i zero
        cases read
        exact zero ▸ .zero
      split at read
      · rename_i one
        cases read
        exact one ▸ .one
      · split at read <;> cases read
    | decimal mantissa places =>
      simp only [toBool] at read
      split at read
      · rename_i zero
        cases read
        exact zero ▸ .decimalZero places
      split at read
      · rename_i one
        cases read
        exact one ▸ .decimalOne places
      · cases read
    | text t =>
      simp only [toBool, List.any_eq_true, decide_eq_true_eq, exists_eq_right] at read
      split at read
      · rename_i listed
        cases read
        exact .trueWord listed
      split at read
      · rename_i listed
        cases read
        exact .falseWord listed
      · cases read
    | null | list | object => cases read
  · intro stands
    have apart : ∀ word ∈ falseWords, word ∉ trueWords := by decide
    cases stands with
    | bool b => rfl
    | one | zero => rfl
    | decimalOne places =>
      have filled : (10 : Int) ^ places ≠ 0 := Int.ne_of_gt (Int.pow_pos (by decide))
      simp [toBool, filled]
    | decimalZero places => simp [toBool]
    | trueWord listed => simp [toBool, listed]
    | falseWord listed => simp [toBool, listed, apart _ listed]

theorem toChoice_eq_ok_iff {α : Type} {name : α → Text} {choices : List α} {value : Value} {choice : α} :
    value.toChoice name choices = .ok choice ↔
      ∃ text, value = .text text ∧ choices.find? (name · = text) = some choice := by
  cases value with
  | text t => cases found : choices.find? (name · = t) <;> simp [toChoice, found]
  | null | bool | int | decimal | list | object => simp [toChoice]

end Value

theorem Shape.check_optional {α : Type} (shape : Shape α) {value : Value} (given : value ≠ .null) :
    (optional shape).check value = (shape.check value).map some := by
  cases value with
  | null => exact absurd rfl given
  | bool | int | decimal | text | list | object => rfl

theorem Shape.single_of_plain {α : Type} {shape : Shape α} {value : Value} {misfits : List Misfit}
    (plain : shape.Plain) (refused : shape.check value = .error misfits) :
    ∃ mismatch, misfits = [{ mismatch }] := by
  induction shape with
  | text | flag | choice =>
    obtain ⟨mismatch, -, same⟩ := map_alone_eq_error_iff.mp refused
    exact ⟨mismatch, same⟩
  | optional shape ih =>
    by_cases given : value = .null
    · rw [given] at refused
      cases refused
    · rw [check_optional shape given] at refused
      cases inner : shape.check value with
      | ok checked =>
        rw [inner] at refused
        cases refused
      | error found =>
        rw [inner] at refused
        cases refused
        exact ih plain inner
  | textSet => exact plain.elim

theorem Validation.standard_lawful : Validation.standard.Lawful where
  text_iff := map_alone_eq_ok_iff.trans Value.toText_eq_ok_iff
  flag_iff := map_alone_eq_ok_iff.trans Value.toBool_eq_ok_iff
  choice_iff := map_alone_eq_ok_iff.trans Value.toChoice_eq_ok_iff
  optional_null _ := rfl
  optional_value shape _ given := shape.check_optional given
  single := Shape.single_of_plain
  validate_build _ _ := rfl
  validate_field _ _ _ := rfl
  validateAll_eq _ _ := rfl

theorem firstNamed?_mem {α : Type} {name : Text} {entries : List (Text × α)} {value : α}
    (found : firstNamed? name entries = some value) :
    ∃ spelling, (spelling, value) ∈ entries ∧ spelling.lower = name := by
  obtain ⟨before, spelling, after, whole, named, -⟩ := firstNamed?_eq_some_iff.mp found
  exact ⟨spelling, by simp [whole], named⟩

theorem lookup_filterMap_find {names : List Text} {name : Text} (declared : name ∈ names)
    (find : Text → Option Value) :
    (names.filterMap fun name => (find name).map (name, ·)).lookup name = find name := by
  cases found : find name with
  | none =>
    rw [List.lookup_eq_none_iff]
    intro entry inside
    obtain ⟨other, -, held⟩ := List.mem_filterMap.mp inside
    obtain ⟨value, known, rfl⟩ := Option.map_eq_some_iff.mp held
    have apart : name ≠ other := by
      rintro rfl
      cases found.symm.trans known
    simpa using apart
  | some value =>
    induction names with
    | nil => cases declared
    | cons first rest ih =>
      by_cases same : name = first
      · subst same
        simp [found]
      · have inner := ih ((List.mem_cons.mp declared).resolve_left same)
        cases known : find first with
        | none => simpa [known] using inner
        | some other => simpa [known, List.lookup_cons, beq_eq_false_iff_ne.mpr same] using inner

theorem SettingsLibrary.standard_lawful : SettingsLibrary.standard.Lawful where
  validation := Validation.standard_lawful
  lookup_collect declared sources := lookup_filterMap_find declared sources.find?
  given_none_iff := firstNamed?_eq_none_iff
  mem_given := firstNamed?_mem
  environment_none_iff := lastNamed?_eq_none_iff
  mem_environment found := by
    obtain ⟨spelling, inside, named⟩ := firstNamed?_mem found
    exact ⟨spelling, List.mem_reverse.mp inside, named⟩
  file_none_iff := Dotenv.lastNamed?_read_eq_none_iff
  last_of_file found := by
    obtain ⟨spelling, newest, last⟩ := Dotenv.lastNamed?_read.mp found
    exact ⟨spelling, last, by simpa using List.find?_some newest⟩

end ChatMarkup
