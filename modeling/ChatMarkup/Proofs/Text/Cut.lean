import ChatMarkup.Text.Closer

namespace ChatMarkup

namespace Text

theorem after?_append {mark text rest : Text} (front : after? mark text = some rest) (more : Text) :
    after? mark (text ++ more) = some (rest ++ more) := by
  rw [after?_eq_some_iff] at front ⊢
  rw [front, List.append_assoc]

theorem after?_suffix {mark text rest : Text} (front : after? mark text = some rest) :
    rest <:+ text :=
  ⟨mark, (after?_eq_some_iff.mp front).symm⟩

theorem breakOn?_append_right {needle text before found : Text}
    (cut : breakOn? needle text = some (before, found)) (more : Text) :
    breakOn? needle (text ++ more) = some (before, found ++ more) := by
  induction text generalizing before found with
  | nil =>
    simp only [breakOn?] at cut
    split at cut
    · rename_i empty
      cases cut
      cases more <;> simp [breakOn?, empty]
    · cases cut
  | cons c rest ih =>
    have whole := breakOn?_append cut
    have front := breakOn?_prefix cut
    rw [List.cons_append]
    simp only [breakOn?] at cut ⊢
    split at cut
    · rename_i here
      cases cut
      have longer : needle <+: c :: (rest ++ more) := here.trans (List.prefix_append (c :: rest) more)
      rw [if_pos longer, List.cons_append]
    · rename_i later
      obtain ⟨⟨first, last⟩, inner, same⟩ := Option.map_eq_some_iff.mp cut
      cases same
      have short : needle.length ≤ (c :: rest).length := by
        rw [whole, List.length_append]
        have bound := front.length_le
        omega
      -- the needle ends before `more` starts, so it is no more a front than it was
      have still : ¬ needle <+: c :: (rest ++ more) := fun longer =>
        later (List.prefix_of_prefix_length_le longer (List.prefix_append (c :: rest) more) short)
      rw [if_neg still, ih inner]
      rfl

theorem exists_breakOn?_append (needle before : Text) :
    ∃ front rest, breakOn? needle (before ++ needle) = some (front, rest) := by
  cases found : breakOn? needle (before ++ needle) with
  | none => exact absurd (List.suffix_append before needle).isInfix (breakOn?_eq_none_iff.mp found)
  | some parts => exact ⟨parts.1, parts.2, rfl⟩

theorem breakOn?_length_le {needle text before found front rest : Text}
    (cut : breakOn? needle text = some (before, found)) (other : text = front ++ needle ++ rest) :
    before.length ≤ front.length := by
  obtain ⟨first, tail, inner⟩ := exists_breakOn?_append needle front
  have longer := breakOn?_append_right inner rest
  rw [← other, cut] at longer
  obtain ⟨rfl, -⟩ := Prod.mk.inj (Option.some.inj longer)
  have whole := congrArg List.length (breakOn?_append inner)
  have bound := breakOn?_prefix inner |>.length_le
  rw [List.length_append, List.length_append] at whole
  omega

theorem breakOn?_not_infix {needle text before found : Text} (filled : needle ≠ [])
    (cut : breakOn? needle text = some (before, found)) : ¬ needle <:+: before := by
  rintro ⟨front, rest, rfl⟩
  have whole := breakOn?_append cut
  rw [List.append_assoc] at whole
  have bound := breakOn?_length_le cut whole
  have real := List.length_pos_iff.mpr filled
  simp only [List.length_append] at bound
  omega

theorem breakOn?_of_two {needle text front middle rest : Text}
    (two : text = front ++ needle ++ middle ++ needle ++ rest) :
    ∃ before body, breakOn? needle text = some (before, needle ++ body) ∧ needle <:+: body := by
  obtain ⟨before, found, inner⟩ := exists_breakOn?_append needle front
  obtain ⟨tail, rfl⟩ := breakOn?_prefix inner
  have longer := breakOn?_append_right inner (middle ++ needle ++ rest)
  refine ⟨before, tail ++ middle ++ needle ++ rest, ?_, ⟨tail ++ middle, rest, by simp⟩⟩
  rw [two]
  simpa using longer

theorem breakOn?_append_left {needle before more : Text}
    (cut : breakOn? needle (before ++ needle ++ more) = some (before, needle ++ more)) :
    breakOn? needle (before ++ needle) = some (before, needle) := by
  obtain ⟨front, rest, found⟩ := exists_breakOn?_append needle before
  have longer := breakOn?_append_right found more
  rw [cut] at longer
  obtain ⟨rfl, same⟩ := Prod.mk.inj (Option.some.inj longer)
  rw [found, List.append_cancel_right same]

theorem breakOn?_first {needle text before rest : Text}
    (cut : breakOn? needle text = some (before, needle ++ rest)) :
    text = before ++ needle ++ rest ∧ breakOn? needle (before ++ needle) = some (before, needle) := by
  have whole := breakOn?_append cut
  rw [← List.append_assoc] at whole
  rw [whole] at cut
  exact ⟨whole, breakOn?_append_left cut⟩

theorem breakOn?_append_self_iff {needle before : Text} :
    breakOn? needle (before ++ needle) = some (before, needle) ↔
      ∀ inner rest, before ++ needle = inner ++ needle ++ rest → rest = [] := by
  constructor
  · intro cut inner rest whole
    obtain ⟨front, last, found⟩ := exists_breakOn?_append needle inner
    obtain ⟨tail, rfl⟩ := breakOn?_prefix found
    have longer := breakOn?_append_right found rest
    rw [← whole, cut] at longer
    obtain ⟨-, same⟩ := Prod.mk.inj (Option.some.inj longer)
    rw [List.append_assoc, List.self_eq_append_right] at same
    exact (List.append_eq_nil_iff.mp same).2
  · intro last
    obtain ⟨front, rest, found⟩ := exists_breakOn?_append needle before
    obtain ⟨tail, rfl⟩ := breakOn?_prefix found
    have whole := breakOn?_append found
    have empty : tail = [] := last front tail (by rw [whole, List.append_assoc])
    rw [empty, List.append_nil] at found whole
    rwa [← List.append_cancel_right whole] at found

theorem breakOn?_eq_none_iff_not_mem {mark : Char} {text : Text} :
    breakOn? [mark] text = none ↔ mark ∉ text := by
  rw [breakOn?_eq_none_iff]
  constructor
  · intro apart member
    obtain ⟨front, back, rfl⟩ := List.append_of_mem member
    exact apart ⟨front, back, by simp⟩
  · intro free inside
    exact free (inside.mem (List.mem_singleton.mpr rfl))

theorem breakOn?_cons {mark : Char} {before : Text} (free : mark ∉ before) (inner rest : Text) :
    breakOn? (mark :: inner) (before ++ mark :: inner ++ rest) =
      some (before, mark :: inner ++ rest) := by
  induction before with
  | nil =>
    have front : mark :: inner <+: mark :: (inner ++ rest) := List.prefix_append (mark :: inner) rest
    simp only [List.nil_append, List.cons_append, breakOn?, if_pos front]
  | cons c before ih =>
    rw [List.mem_cons, not_or] at free
    have later : ¬ mark :: inner <+: c :: (before ++ mark :: inner ++ rest) := by
      rw [List.cons_prefix_cons]
      exact fun front => free.1 front.1
    simp only [List.cons_append, breakOn?, if_neg later, ih free.2, Option.map_some]

theorem breakOn?_mark {mark : Char} {before : Text} (free : mark ∉ before) (rest : Text) :
    breakOn? [mark] (before ++ mark :: rest) = some (before, mark :: rest) := by
  have cut := breakOn?_cons free [] rest
  rwa [List.append_assoc] at cut

theorem replaceFirst?_cons {mark : Char} {before : Text} (free : mark ∉ before)
    (inner new rest : Text) :
    replaceFirst? (mark :: inner) new (before ++ mark :: inner ++ rest) =
      some (before ++ new ++ rest) := by
  rw [replaceFirst?, breakOn?_cons free, Option.map_some]
  dsimp only
  rw [List.drop_left]

theorem count_replaceFirst? {old new text result : Text}
    (replaced : replaceFirst? old new text = some result) (c : Char) :
    result.count c + old.count c = text.count c + new.count c := by
  obtain ⟨⟨before, found⟩, cut, same⟩ := Option.map_eq_some_iff.mp replaced
  obtain ⟨rest, rfl⟩ := breakOn?_prefix cut
  rw [breakOn?_append cut, ← same]
  simp only [List.drop_left, List.count_append]
  omega

theorem spanProtected_append_right {closer : Char} {text rest : Text} (visible : closer ≠ '\\')
    (stop : (spanProtected closer text).2 = closer :: rest) (more : Text) :
    spanProtected closer (text ++ more) =
      ((spanProtected closer text).1, (spanProtected closer text).2 ++ more) := by
  fun_induction spanProtected closer text with
  | case1 => cases stop
  | case2 rest => exact absurd (List.cons.inj stop).1.symm visible
  | case3 c rest inLine front after inner ih =>
    rw [inner] at ih
    simp only [List.cons_append, spanProtected, inLine, ↓reduceIte, ih stop]
  | case4 c rest single ends =>
    obtain ⟨rfl, _⟩ := List.cons.inj stop
    simp [spanProtected, visible]
  | case5 c rest single inside front after inner ih =>
    rw [inner] at ih
    rw [not_or] at inside
    simp [spanProtected, inside, ih stop]

theorem spanProtected_of_run {closer : Char} {text : Text} (visible : closer ≠ '\\')
    (run : spanProtected closer text = (text, [])) (more : Text) :
    spanProtected closer (text ++ closer :: more) = (text, closer :: more) := by
  fun_induction spanProtected closer text with
  | case1 => simp [spanProtected, visible]
  | case2 rest => cases run
  | case3 c rest inLine front after inner ih =>
    rw [inner] at ih
    simp only [Prod.mk.injEq, List.cons.injEq, true_and] at run
    obtain ⟨rfl, rfl⟩ := run
    simp only [List.cons_append, spanProtected, inLine, ↓reduceIte, ih rfl]
  | case4 c rest single ends => cases run
  | case5 c rest single inside front after inner ih =>
    rw [inner] at ih
    rw [not_or] at inside
    simp only [Prod.mk.injEq, List.cons.injEq, true_and] at run
    obtain ⟨rfl, rfl⟩ := run
    simp [spanProtected, inside, ih rfl]

@[simp] theorem protect_cons (closer c : Char) (text : Text) :
    protect closer (c :: text) =
      if c = closer then '\\' :: c :: protect closer text else c :: protect closer text := by
  rw [protect, protect, List.flatMap_cons]
  split <;> rfl

theorem protect_ne_nil {text : Text} (filled : text ≠ []) (closer : Char) :
    protect closer text ≠ [] := by
  obtain ⟨c, rest, rfl⟩ := List.exists_cons_of_ne_nil filled
  rw [protect_cons]
  split <;> simp

theorem mem_protect {closer c : Char} {text : Text} (member : c ∈ protect closer text) :
    c = '\\' ∨ c ∈ text := by
  obtain ⟨d, inside, member⟩ := List.mem_flatMap.mp member
  split at member
  · rcases List.mem_cons.mp member with rfl | member
    · exact .inl rfl
    · exact .inr (List.mem_singleton.mp member ▸ inside)
  · exact .inr (List.mem_singleton.mp member ▸ inside)

theorem spanProtected_protect {closer : Char} (inLine : closer ≠ '\n') {text : Text}
    (plain : '\\' ∉ text) : spanProtected closer (protect closer text) = (protect closer text, []) := by
  induction text with
  | nil => rfl
  | cons c text ih =>
    rw [List.mem_cons, not_or] at plain
    rw [protect_cons]
    split
    · rename_i same
      simp [spanProtected, same, inLine, ih plain.2]
    · rename_i other
      simp [spanProtected, other, Ne.symm plain.1, ih plain.2]

theorem unprotect_protect (closer : Char) {text : Text} (plain : '\\' ∉ text) :
    unprotect closer (protect closer text) = text := by
  induction text with
  | nil => rfl
  | cons c text ih =>
    rw [List.mem_cons, not_or] at plain
    rw [protect_cons]
    split
    · rename_i same
      simp [unprotect, same, ih plain.2]
    · rename_i other
      simp [unprotect, Ne.symm plain.1, ih plain.2]

theorem unprotect_sublist (closer : Char) (text : Text) : (unprotect closer text).Sublist text := by
  fun_induction unprotect closer text with
  | case1 rest ih => exact .cons _ (ih.cons_cons _)
  | case2 c rest other ih => exact ih.cons_cons _
  | case3 c rest single ih => exact ih.cons_cons _
  | case4 => exact .slnil

end Text

end ChatMarkup
