import ChatMarkup.Proofs.Text.Cut

namespace ChatMarkup.Text

/-- The places of a needle, none overlapping another. The first `busy` characters belong to one before. -/
def occurrences (needle : Text) (place busy : Nat) : Text → List Nat
  | [] => []
  | c :: rest =>
    match busy with
    | busy + 1 => occurrences needle (place + 1) busy rest
    | 0 =>
      if needle <+: c :: rest then place :: occurrences needle (place + 1) (needle.length - 1) rest
      else occurrences needle (place + 1) 0 rest

def pairUp : List Nat → List (Nat × Nat)
  | opening :: closing :: rest => (opening, closing) :: pairUp rest
  | _ => []

theorem occurrences_busy (needle front rest : Text) (place : Nat) :
    occurrences needle place front.length (front ++ rest) =
      occurrences needle (place + front.length) 0 rest := by
  induction front generalizing place with
  | nil => rfl
  | cons c front ih =>
    have step : place + 1 + front.length = place + (c :: front).length := by
      rw [List.length_cons]
      omega
    rw [← step, ← ih]
    rfl

theorem occurrences_of_none {needle text : Text} (missing : breakOn? needle text = none)
    (place : Nat) : occurrences needle place 0 text = [] := by
  induction text generalizing place with
  | nil => rfl
  | cons c rest ih =>
    rw [breakOn?_eq_none_iff, List.infix_cons_iff, not_or] at missing
    rw [occurrences, if_neg missing.1, ih (breakOn?_eq_none_iff.mpr missing.2)]

theorem occurrences_of_cut {needle text before rest : Text} (filled : needle ≠ [])
    (cut : breakOn? needle text = some (before, needle ++ rest)) (place : Nat) :
    occurrences needle place 0 text = (place + before.length) ::
      occurrences needle (place + before.length + needle.length) 0 rest := by
  induction text generalizing before place with
  | nil => simp [breakOn?, filled] at cut
  | cons c text ih =>
    simp only [breakOn?] at cut
    split at cut
    · rename_i here
      obtain ⟨rfl, whole⟩ := Prod.mk.inj (Option.some.inj cut)
      obtain ⟨first, others, rfl⟩ := List.exists_cons_of_ne_nil filled
      obtain ⟨rfl, rfl⟩ := List.cons.inj whole
      have behind := occurrences_busy (c :: others) others rest (place + 1)
      have step : place + 1 + others.length = place + (c :: others).length := by
        rw [List.length_cons]
        omega
      rw [step] at behind
      rw [occurrences, if_pos here]
      exact congrArg (place :: ·) behind
    · rename_i later
      obtain ⟨⟨front, found⟩, inner, same⟩ := Option.map_eq_some_iff.mp cut
      obtain ⟨rfl, rfl⟩ := Prod.mk.inj same
      have step : place + 1 + front.length = place + (c :: front).length := by
        rw [List.length_cons]
        omega
      rw [occurrences, if_neg later, ih inner, step]

theorem drop_take_append (left middle right : Text) :
    ((left ++ middle ++ right).take (left.length + middle.length)).drop left.length = middle := by
  rw [List.take_left' (by rw [List.length_append]), List.drop_left]

theorem drop_take_append_drop_take (text : Text) {start middle stop : Nat} (first : start ≤ middle)
    (second : middle ≤ stop) :
    (text.take middle).drop start ++ (text.take stop).drop middle = (text.take stop).drop start := by
  have size : stop - start = (middle - start) + (stop - middle) := by omega
  rw [List.drop_take, List.drop_take, List.drop_take, size, List.take_add, List.drop_drop,
    Nat.add_sub_cancel' first]

end ChatMarkup.Text
