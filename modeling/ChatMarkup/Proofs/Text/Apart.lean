import ChatMarkup.Text.Search

namespace ChatMarkup.Text

theorem prefix_append_cons_iff {needle left right : Text} {mark : Char} (apart : mark ∉ needle) :
    needle <+: left ++ mark :: right ↔ needle <+: left := by
  constructor
  · intro front
    rcases List.prefix_or_prefix_of_prefix front (List.prefix_append left (mark :: right)) with
      inside | ⟨more, rfl⟩
    · exact inside
    · rw [List.prefix_append_right_inj, List.prefix_cons_iff] at front
      rcases front with rfl | ⟨tail, rfl, _⟩
      · exact (List.append_nil left).symm ▸ List.prefix_refl left
      · exact absurd (List.mem_append_right left List.mem_cons_self) apart
  · exact fun front => front.trans (List.prefix_append _ _)

theorem infix_append_cons_iff {needle left right : Text} {mark : Char} (apart : mark ∉ needle) :
    needle <:+: left ++ mark :: right ↔ needle <:+: left ∨ needle <:+: right := by
  have front {piece : Text} (free : mark ∉ piece) (start : piece <+: [] ++ mark :: right) :
      piece = [] := List.prefix_nil.mp ((prefix_append_cons_iff free).mp start)
  rw [List.infix_append_iff, List.infix_cons_iff]
  constructor
  · rintro (inside | (start | inside) | ⟨first, last, rfl, ends, starts⟩)
    · exact .inl inside
    · rw [front apart start]
      exact .inl List.nil_infix
    · exact .inr inside
    · rw [List.mem_append, not_or] at apart
      rw [front apart.2 starts, List.append_nil]
      exact .inl ends.isInfix
  · rintro (inside | inside)
    · exact .inl inside
    · exact .inr (.inl (.inr inside))

theorem infix_append_run_iff {needle left run right : Text} (real : needle ≠ []) (filled : run ≠ [])
    (apart : ∀ c ∈ run, c ∉ needle) :
    needle <:+: left ++ run ++ right ↔ needle <:+: left ∨ needle <:+: right := by
  induction run generalizing left with
  | nil => exact absurd rfl filled
  | cons c run ih =>
    rw [List.forall_mem_cons] at apart
    rw [List.append_assoc, List.cons_append, infix_append_cons_iff apart.1]
    by_cases single : run = []
    · rw [single, List.nil_append]
    · have rest : needle <:+: [] ++ run ++ right ↔ needle <:+: [] ∨ needle <:+: right :=
        ih single apart.2
      rw [List.nil_append] at rest
      simp [rest, real]

theorem concat_prefix_append_cons_iff {front left right : Text} {mark : Char} (free : mark ∉ front) :
    front ++ [mark] <+: left ++ mark :: right ↔ front ++ [mark] <+: left ++ [mark] := by
  have longer : left ++ [mark] <+: left ++ mark :: right := ⟨right, by simp⟩
  constructor
  · intro start
    rcases List.prefix_or_prefix_of_prefix start longer with inside | outside
    · exact inside
    · rcases List.prefix_concat_iff.mp outside with same | within
      · exact same ▸ List.prefix_refl _
      · exact absurd (within.subset (by simp)) free
  · exact fun start => start.trans longer

theorem breakOn?_append_self {needle front : Text} {last : Char} (apart : last ∉ needle)
    (free : ¬ needle <:+: front ++ [last]) :
    breakOn? needle (front ++ last :: needle) = some (front ++ [last], needle) := by
  induction front with
  | nil =>
    have later : ¬ needle <+: [] ++ last :: needle := fun here =>
      free (((prefix_append_cons_iff apart).mp here).trans (List.prefix_append _ _)).isInfix
    have here : breakOn? needle needle = some ([], needle) := by
      cases needle <;> simp [breakOn?]
    rw [List.nil_append] at later
    rw [List.nil_append, breakOn?, if_neg later, here]
    rfl
  | cons c front ih =>
    have later : ¬ needle <+: c :: front ++ last :: needle := fun here =>
      free (((prefix_append_cons_iff apart).mp here).trans (List.prefix_append _ _)).isInfix
    have rest : ¬ needle <:+: front ++ [last] := fun inside => free (List.infix_cons inside)
    rw [List.cons_append] at later
    rw [List.cons_append, breakOn?, if_neg later, ih rest]
    rfl

end ChatMarkup.Text
