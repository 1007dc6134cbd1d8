import ChatMarkup.Proofs.Text.Escaped

namespace ChatMarkup.Text

/-- Every reserved character stands directly behind a backslash; `before` is in front of the text. -/
def Guarded (reserved : List Char) : Option Char → Text → Prop
  | _, [] => True
  | before, c :: rest => (c ∈ reserved → before = some '\\') ∧ Guarded reserved (some c) rest

theorem Guarded.alone {reserved : List Char} {before : Option Char} {text : Text}
    (free : before ≠ some '\\') (guarded : Guarded reserved before text) :
    Guarded reserved none text := by
  cases text with
  | nil => trivial
  | cons c rest => exact ⟨fun known => absurd (guarded.1 known) free, guarded.2⟩

theorem guarded_append {reserved : List Char} {before : Option Char} {left right : Text} :
    Guarded reserved before (left ++ right) ↔
      Guarded reserved before left ∧ Guarded reserved (left.getLast?.or before) right := by
  induction left generalizing before with
  | nil => simp [Guarded]
  | cons c left ih =>
    simp only [List.cons_append, Guarded, ih, List.getLast?_cons, Option.some_or, Option.or_some,
      and_assoc]

theorem Guarded.piece {reserved : List Char} {before : Option Char} {left piece right : Text}
    (guarded : Guarded reserved before (left ++ piece ++ right))
    (free : left.getLast?.or before ≠ some '\\') : Guarded reserved none piece :=
  (guarded_append.mp (guarded_append.mp guarded).1).2.alone free

theorem Guarded.not_adjacent {reserved : List Char} {before : Option Char} {text : Text}
    (guarded : Guarded reserved before text) {c d : Char} (visible : c ≠ '\\') (known : d ∈ reserved) :
    ¬ [c, d] <:+: text := by
  rintro ⟨left, right, rfl⟩
  have pair := (guarded_append.mp (guarded_append.mp guarded).1).2
  exact visible (Option.some.inj (pair.2.1 known))

theorem guarded_escapeChars {reserved : List Char} (proper : '\\' ∉ reserved) (before : Option Char)
    (text : Text) : Guarded reserved before (escapeChars reserved text) := by
  fun_induction escapeChars reserved text generalizing before with
  | case1 => trivial
  | case2 c rest known ih => exact ⟨fun own => absurd own proper, fun _ => rfl, ih (some c)⟩
  | case3 c rest _ own => exact absurd own proper
  | case4 c rest _ _ ih => exact ⟨fun own => absurd own proper, ih (some '\\')⟩
  | case5 c rest _ known ih => exact ⟨fun own => absurd own proper, fun _ => rfl, ih (some c)⟩
  | case6 c rest _ free ih => exact ⟨fun known => absurd known free, ih (some c)⟩

theorem escapeChars_of_guarded {reserved : List Char} (proper : '\\' ∉ reserved) {text : Text}
    (guarded : Guarded reserved none text) : escapeChars reserved text = text := by
  fun_induction escapeChars reserved text with
  | case1 => rfl
  | case2 c rest known ih =>
    have visible : some c ≠ some '\\' := fun same => proper (Option.some.inj same ▸ known)
    rw [ih (guarded.2.2.alone visible)]
  | case3 c rest _ own => exact absurd own proper
  | case4 c rest free _ ih =>
    rw [ih ⟨fun known => absurd known free, guarded.2.2⟩]
  | case5 c rest _ known => exact absurd (guarded.1 known) (by simp)
  | case6 c rest single free ih =>
    cases rest with
    | nil => rfl
    | cons d rest =>
      have visible : some c ≠ some '\\' := by simpa using visible_of_single single d rfl
      rw [ih (guarded.2.alone visible)]

end ChatMarkup.Text
