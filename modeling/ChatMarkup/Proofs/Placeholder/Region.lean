import ChatMarkup.Placeholder.Region
import ChatMarkup.Proofs.Text.Cut
import ChatMarkup.Proofs.Text.Escaped

namespace ChatMarkup.Placeholder

theorem regions_of_not_mem {mark : Char} {text : Text} (free : mark ∉ text) (offset : Nat) :
    regions [mark] offset text = ([.outside text], none) := by
  have uncut := Text.breakOn?_eq_none_iff_not_mem.mpr free
  rw [regions]
  split <;> rename_i cut <;> rw [uncut] at cut <;> cases cut

theorem regions_placeholder {mark : Char} {before inner : Text} (free : mark ∉ before)
    (closed : mark ∉ inner) (offset : Nat) (rest : Text) :
    regions [mark] offset (before ++ mark :: inner ++ mark :: rest) =
      let following := regions [mark] (offset + before.length + inner.length + 2) rest
      (.outside before :: .placeholder (mark :: inner ++ [mark]) :: following.1, following.2) := by
  have opening : Text.breakOn? [mark] (before ++ mark :: inner ++ mark :: rest) =
      some (before, mark :: (inner ++ mark :: rest)) := by
    rw [List.append_assoc]
    exact Text.breakOn?_mark free _
  have closing := Text.breakOn?_mark closed rest
  rw [regions]
  split <;> rename_i cut <;> rw [opening] at cut <;> cases cut
  split <;> rename_i cut <;> rw [closing] at cut <;> cases cut
  rfl

def Region.escaped (reserved : List Char) : Region → Text
  | outside text => Text.escapeChars reserved text
  | placeholder text => text

theorem Region.escape_of_usable {reserved : List Text} (usable : Text.Usable reserved)
    (region : Region) : region.escape reserved = .ok (region.escaped reserved.flatten) := by
  cases region with
  | outside text => exact Text.escape_of_usable usable text
  | placeholder text => rfl

theorem mapM_ok {ε α β : Type} {f : α → Except ε β} {g : α → β} {xs : List α}
    (done : ∀ x ∈ xs, f x = .ok (g x)) : xs.mapM f = .ok (xs.map g) := by
  induction xs with
  | nil => rfl
  | cons x xs ih =>
    rw [List.forall_mem_cons] at done
    rw [List.mapM_cons, done.1, ih done.2]
    rfl

theorem escapeAround_of_usable {reserved : List Text} (usable : Text.Usable reserved)
    (mark text : Text) :
    (escapeAround reserved mark text).result =
      match (regions mark 0 text).2 with
      | none => .ok ((regions mark 0 text).1.flatMap (Region.escaped reserved.flatten))
      | some offset => .error (.unterminated offset) := by
  have escaped : (regions mark 0 text).1.mapM (Region.escape reserved) =
      .ok ((regions mark 0 text).1.map (Region.escaped reserved.flatten)) :=
    mapM_ok fun region _ => region.escape_of_usable usable
  simp only [escapeAround, escaped, List.flatMap_def, Reported.result_bind, Reported.result_ofExcept]
  cases (regions mark 0 text).2 <;> rfl

end ChatMarkup.Placeholder
