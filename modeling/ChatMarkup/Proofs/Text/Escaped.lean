import ChatMarkup.Escape

namespace ChatMarkup

namespace Text

/-- The sets that `escape` takes for every text: the empty one and those with some character. -/
def Usable (reserved : List Text) : Prop := reserved = [] ∨ ∃ member ∈ reserved, member ≠ []

instance (reserved : List Text) : Decidable (Usable reserved) :=
  inferInstanceAs (Decidable (_ ∨ ∃ member ∈ reserved, member ≠ []))

theorem Usable.flatten_ne_nil {reserved : List Text} (usable : Usable reserved)
    (filled : reserved ≠ []) : reserved.flatten ≠ [] := by
  rcases usable with empty | ⟨member, inside, some_⟩
  · exact absurd empty filled
  · intro empty
    exact some_ (List.flatten_eq_nil_iff.mp empty member inside)

@[simp] theorem escapeChars_nil (reserved : List Char) : escapeChars reserved [] = [] := rfl

theorem escapeChars_cons (reserved : List Char) {c : Char} (visible : c ≠ '\\') (rest : Text) :
    escapeChars reserved (c :: rest) =
      if c ∈ reserved then '\\' :: c :: escapeChars reserved rest
      else c :: escapeChars reserved rest := by
  rw [escapeChars]
  exact fun _ _ same _ => visible same

theorem visible_of_single {c : Char} {rest : Text}
    (single : ∀ d tail, c = '\\' → rest = d :: tail → False) : ∀ d ∈ rest.head?, c ≠ '\\' := by
  intro d first slash
  obtain ⟨tail, rfl⟩ := List.head?_eq_some_iff.mp first
  exact single d tail slash rfl

theorem escapeChars_of_nil (text : Text) : escapeChars [] text = text := by
  fun_induction escapeChars [] text <;> simp_all

theorem escape_of_usable {reserved : List Text} (usable : Usable reserved) (text : Text) :
    text.escape reserved = .ok (escapeChars reserved.flatten text) := by
  unfold escape
  split
  · rename_i trivial_
    rcases trivial_ with rfl | rfl
    · rfl
    · rw [List.flatten_nil, escapeChars_of_nil]
  · rename_i proper
    rw [not_or] at proper
    rw [if_neg (usable.flatten_ne_nil proper.2)]

/-- Backslashes are put in, each directly in front of a reserved character. -/
inductive Slashed (reserved : List Char) : Text → Text → Prop
  | nil : Slashed reserved [] []
  | same (c : Char) {text output : Text} (others : Slashed reserved text output) :
      Slashed reserved (c :: text) (c :: output)
  | slash {c : Char} {text output : Text} (known : c ∈ reserved)
      (others : Slashed reserved text output) : Slashed reserved (c :: text) ('\\' :: c :: output)

theorem Slashed.refl (reserved : List Char) (text : Text) : Slashed reserved text text := by
  induction text with
  | nil => exact .nil
  | cons c text ih => exact .same c ih

theorem Slashed.append {reserved : List Char} {text output more written : Text}
    (front : Slashed reserved text output) (back : Slashed reserved more written) :
    Slashed reserved (text ++ more) (output ++ written) := by
  induction front with
  | nil => exact back
  | same c _ ih => exact .same c ih
  | slash known _ ih => exact .slash known ih

theorem Slashed.mem {reserved : List Char} {text output : Text} {c : Char}
    (slashed : Slashed reserved text output) (member : c ∈ output) : c = '\\' ∨ c ∈ text := by
  induction slashed with
  | nil => cases member
  | same d _ ih =>
    simp only [List.mem_cons] at member ⊢
    grind
  | slash _ _ ih =>
    simp only [List.mem_cons] at member ⊢
    grind

theorem Slashed.length_le {reserved : List Char} {text output : Text}
    (slashed : Slashed reserved text output) : output.length ≤ 2 * text.length := by
  induction slashed with
  | nil => exact Nat.zero_le _
  | same c _ ih =>
    simp only [List.length_cons]
    omega
  | slash _ _ ih =>
    simp only [List.length_cons]
    omega

theorem slashed_escapeChars (reserved : List Char) (text : Text) :
    Slashed reserved text (escapeChars reserved text) := by
  fun_induction escapeChars reserved text with
  | case1 => exact .nil
  | case2 c rest _ ih => exact .same _ (.same c ih)
  | case3 c rest _ own ih => exact .slash own ih
  | case4 c rest _ _ ih => exact .same _ ih
  | case5 c rest _ known ih => exact .slash known ih
  | case6 c rest _ _ ih => exact .same c ih

theorem mem_escapeChars {reserved : List Char} {text : Text} {c : Char}
    (member : c ∈ escapeChars reserved text) : c = '\\' ∨ c ∈ text :=
  (slashed_escapeChars reserved text).mem member

theorem filter_escapeChars {keep : Char → Bool} (silent : keep '\\' = false) (reserved : List Char)
    (text : Text) : (escapeChars reserved text).filter keep = text.filter keep := by
  fun_induction escapeChars reserved text <;> simp_all [List.filter_cons]

theorem length_escapeChars_le (reserved : List Char) (text : Text) :
    (escapeChars reserved text).length ≤ 2 * text.length :=
  (slashed_escapeChars reserved text).length_le

theorem escapeChars_cons_line {reserved : List Char} (inLine : '\n' ∉ reserved) (c : Char)
    (below : Text) : escapeChars reserved (c :: '\n' :: below) =
      escapeChars reserved [c] ++ '\n' :: escapeChars reserved below := by
  have line : escapeChars reserved ('\n' :: below) = '\n' :: escapeChars reserved below := by
    rw [escapeChars_cons reserved (by decide), if_neg inLine]
  by_cases slash : c = '\\'
  · subst slash
    by_cases known : '\\' ∈ reserved <;> simp [escapeChars, inLine, known, line]
  · by_cases known : c ∈ reserved <;> simp [escapeChars_cons reserved slash, known, line]

theorem escapeChars_append_line {reserved : List Char} (inLine : '\n' ∉ reserved)
    (above below : Text) : escapeChars reserved (above ++ '\n' :: below) =
      escapeChars reserved above ++ '\n' :: escapeChars reserved below := by
  fun_induction escapeChars reserved above with
  | case1 =>
    rw [List.nil_append, escapeChars_cons reserved (by decide), if_neg inLine]
    rfl
  | case2 c rest known ih => simp [escapeChars, known, ih]
  | case3 c rest known own ih | case4 c rest known own ih => simpa [escapeChars, known, own] using ih
  | case5 c rest pair known ih | case6 c rest pair known ih =>
    cases rest with
    | nil =>
      have lone : escapeChars reserved [c] = if c ∈ reserved then ['\\', c] else [c] :=
        escapeChars.eq_3 reserved c [] pair
      rw [List.singleton_append, escapeChars_cons_line inLine, lone]
      simp [known]
    | cons d rest =>
      have visible : c ≠ '\\' := fun same => pair d rest same rfl
      simpa [escapeChars_cons reserved visible, known] using ih

def trailingBackslashes (text : Text) : Nat := (text.reverse.takeWhile (· = '\\')).length

theorem trailingBackslashes_concat (text : Text) (c : Char) :
    trailingBackslashes (text ++ [c]) = if c = '\\' then trailingBackslashes text + 1 else 0 := by
  by_cases own : c = '\\' <;> simp [trailingBackslashes, own]

theorem trailingBackslashes_of_last {text : Text} {c : Char} (last : text.getLast? = some c)
    (visible : c ≠ '\\') (before : Text) : trailingBackslashes (before ++ text) = 0 := by
  obtain ⟨front, rfl⟩ := List.getLast?_eq_some_iff.mp last
  rw [← List.append_assoc, trailingBackslashes_concat, if_neg visible]

theorem trailingBackslashes_append_mod (n : Nat) {left right : Text}
    (same : trailingBackslashes left % n = trailingBackslashes right % n) (more : Text) :
    trailingBackslashes (left ++ more) % n = trailingBackslashes (right ++ more) % n := by
  induction more generalizing left right with
  | nil => rwa [List.append_nil, List.append_nil]
  | cons c more ih =>
    rw [List.append_cons left, List.append_cons right]
    apply ih
    rw [trailingBackslashes_concat, trailingBackslashes_concat]
    split
    · rw [Nat.add_mod, same, ← Nat.add_mod]
    · rfl

theorem trailingBackslashes_append {left right : Text}
    (same : trailingBackslashes left = trailingBackslashes right) (more : Text) :
    trailingBackslashes (left ++ more) = trailingBackslashes (right ++ more) := by
  have exact_ := trailingBackslashes_append_mod 0 (congrArg (· % 0) same) more
  rwa [Nat.mod_zero, Nat.mod_zero] at exact_

theorem trailingBackslashes_eq_zero_or (text : Text) :
    trailingBackslashes text = 0 ∨ ∃ front, text = front ++ ['\\'] := by
  rcases List.eq_nil_or_concat text with rfl | ⟨front, last, rfl⟩
  · exact .inl rfl
  · rw [List.concat_eq_append, trailingBackslashes_concat]
    by_cases slash : last = '\\'
    · exact .inr ⟨front, by rw [slash]⟩
    · exact .inl (if_neg slash)

theorem trailingBackslashes_escapeChars {reserved : List Char} (proper : '\\' ∉ reserved)
    (before text : Text) :
    trailingBackslashes (before ++ escapeChars reserved text) = trailingBackslashes (before ++ text) := by
  fun_induction escapeChars reserved text generalizing before with
  | case1 => rfl
  | case2 c rest known ih => simpa using ih (before ++ ['\\', c])
  | case3 c rest _ own => exact absurd own proper
  | case4 c rest _ _ ih => simpa using ih (before ++ ['\\'])
  | case5 c rest _ known ih =>
    have visible : c ≠ '\\' := fun same => proper (same ▸ known)
    have reset : trailingBackslashes (before ++ ['\\', c]) = trailingBackslashes (before ++ [c]) := by
      rw [List.append_cons]
      simp only [trailingBackslashes_concat, if_neg visible]
    have inner := (ih (before ++ ['\\', c])).trans (trailingBackslashes_append reset rest)
    simpa using inner
  | case6 c rest _ _ ih => simpa using ih (before ++ [c])

end Text

end ChatMarkup
