namespace ChatMarkup

abbrev Text := List Char

namespace Text

def after? (mark text : Text) : Option Text :=
  if mark <+: text then some (text.drop mark.length) else none

theorem after?_eq_some_iff {mark text rest : Text} :
    after? mark text = some rest ↔ text = mark ++ rest := by
  unfold after?
  constructor
  · intro found
    split at found
    · rename_i front
      obtain ⟨tail, rfl⟩ := front
      simpa using found
    · cases found
  · rintro rfl
    simp

/-- The empty needle occurs in front of every text. -/
def breakOn? (needle : Text) : Text → Option (Text × Text)
  | [] => if needle = [] then some ([], []) else none
  | c :: rest =>
    if needle <+: c :: rest then some ([], c :: rest)
    else (breakOn? needle rest).map fun (before, found) => (c :: before, found)

theorem breakOn?_append {needle text before found : Text}
    (cut : breakOn? needle text = some (before, found)) : text = before ++ found := by
  induction text generalizing before found with
  | nil =>
    simp only [breakOn?] at cut
    split at cut
    · cases cut; rfl
    · cases cut
  | cons c rest ih =>
    simp only [breakOn?] at cut
    split at cut
    · cases cut; rfl
    · obtain ⟨⟨front, tail⟩, inner, same⟩ := Option.map_eq_some_iff.mp cut
      cases same
      simp [ih inner]

theorem breakOn?_prefix {needle text before found : Text}
    (cut : breakOn? needle text = some (before, found)) : needle <+: found := by
  induction text generalizing before found with
  | nil =>
    simp only [breakOn?] at cut
    split at cut
    · rename_i empty
      cases cut
      simp [empty]
    · cases cut
  | cons c rest ih =>
    simp only [breakOn?] at cut
    split at cut
    · rename_i front
      cases cut
      exact front
    · obtain ⟨⟨front, tail⟩, inner, same⟩ := Option.map_eq_some_iff.mp cut
      cases same
      exact ih inner

theorem breakOn?_eq_none_iff {needle text : Text} :
    breakOn? needle text = none ↔ ¬ needle <:+: text := by
  induction text with
  | nil => simp [breakOn?]
  | cons c rest ih =>
    simp only [breakOn?, List.infix_cons_iff]
    split
    · rename_i front
      simp [front]
    · rename_i front
      simp [front, ih]

def replaceFirst? (old new text : Text) : Option Text :=
  (breakOn? old text).map fun (before, found) => before ++ new ++ found.drop old.length

def pieces (separator : Char → Bool) : Text → List Text
  | [] => [[]]
  | c :: rest =>
    if separator c then [] :: pieces separator rest
    else match pieces separator rest with
      | [] => [[c]]
      | first :: more => (c :: first) :: more

def ofNat (n : Nat) : Text := Nat.toDigits 10 n

def ofInt : Int → Text
  | .ofNat n => ofNat n
  | .negSucc n => '-' :: ofNat (n + 1)

end Text

end ChatMarkup
