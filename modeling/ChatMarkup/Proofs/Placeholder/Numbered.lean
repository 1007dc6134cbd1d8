import ChatMarkup.Proofs.Placeholder.Marked
import ChatMarkup.Proofs.Span.Rendering
import Mathlib.Data.List.Nodup

namespace ChatMarkup

theorem Text.ofNat_injective : Function.Injective Text.ofNat := by
  intro m n same
  have read := congrArg (Nat.ofDigitChars 10 · 0) same
  simpa only [Text.ofNat, Nat.ofDigitChars_ten_toDigits] using read

namespace Placeholder

open Segment Table

theorem placeholder_injective (mark : Text) : Function.Injective (placeholder mark) := by
  intro m n same
  simp only [placeholder, List.append_cancel_right_eq, List.append_cancel_left_eq, List.cons.injEq,
    true_and] at same
  exact Text.ofNat_injective same

theorem IsMark.eq_of_infix {mark : Char} (isMark : IsMark mark) {m n : Nat}
    (inside : placeholder [mark] m <:+: placeholder [mark] n) : m = n := by
  obtain ⟨left, right, whole⟩ := inside
  have marks := congrArg (List.count mark) whole
  simp only [List.count_append, isMark.count_placeholder] at marks
  have front : left = [] := by
    cases left with
    | nil => rfl
    | cons c left =>
      have first : c = mark := by simpa [placeholder] using congrArg List.head? whole
      simp [first] at marks
      omega
  have back : right = [] := by
    rcases List.eq_nil_or_concat right with rfl | ⟨right, c, rfl⟩
    · rfl
    · have last := congrArg List.getLast? whole
      rw [List.concat_eq_append, ← List.append_assoc, List.getLast?_concat, placeholder,
        List.getLast?_concat] at last
      simp [Option.some.inj last] at marks
      omega
  subst front back
  rw [List.nil_append, List.append_nil] at whole
  exact placeholder_injective [mark] whole

theorem numbered_placeholders (mark : Text) (start : Nat) (units : List Span) :
    (numbered mark start units).map (·.1) =
      (List.range' start units.length).map (placeholder mark) := by
  induction units generalizing start with
  | nil => rfl
  | cons unit rest ih => rw [numbered, List.map_cons, ih, List.length_cons, List.range'_succ, List.map_cons]

theorem placeholder_of_numbered {mark : Text} {start : Nat} {units : List Span} {entry : Text × Span}
    (member : entry ∈ numbered mark start units) : ∃ n, entry.1 = placeholder mark n := by
  have named := List.mem_map_of_mem member (f := (·.1))
  rw [numbered_placeholders] at named
  obtain ⟨n, _, same⟩ := List.mem_map.mp named
  exact ⟨n, same.symm⟩

/-- No placeholder of a table is found inside another one. -/
theorem IsMark.numbered_apart {mark : Char} (isMark : IsMark mark) {start : Nat} {units : List Span}
    {one other : Text × Span} (member : one ∈ numbered [mark] start units)
    (listed : other ∈ numbered [mark] start units) (apart : one.1 ≠ other.1) :
    ¬ one.1 <:+: other.1 := by
  obtain ⟨m, first⟩ := placeholder_of_numbered member
  obtain ⟨n, second⟩ := placeholder_of_numbered listed
  rw [first, second] at apart ⊢
  exact fun inside => apart (congrArg _ (isMark.eq_of_infix inside))

theorem numbered_append (mark : Text) (start : Nat) (left right : List Span) :
    numbered mark start (left ++ right) =
      numbered mark start left ++ numbered mark (start + left.length) right := by
  induction left generalizing start with
  | nil => simp [numbered]
  | cons unit left ih => simp [numbered, ih, Nat.add_comm, Nat.add_left_comm]

@[simp] theorem length_numbered (mark : Text) (start : Nat) (units : List Span) :
    (numbered mark start units).length = units.length := by
  rw [← List.length_map (·.2), numbered_units]

namespace Table

def extended (table : Table) (units : List Span) : Table :=
  { table with entries := table.entries ++ numbered table.mark table.entries.length units }

@[simp] theorem extended_nil (table : Table) : table.extended [] = table := by
  simp [extended, numbered]

@[simp] theorem extended_extended (table : Table) (left right : List Span) :
    (table.extended left).extended right = table.extended (left ++ right) := by
  simp [extended, numbered_append]

theorem extended_new (mark : Text) (units : List Span) :
    extended { mark } units = { mark, entries := numbered mark 0 units } := rfl

theorem entries_prefix_extended (table : Table) (units : List Span) :
    table.entries <+: (table.extended units).entries := List.prefix_append _ _

theorem build_eq_extended (table : Table) (segments : List Segment) :
    (table.build segments).2 = table.extended (Segment.spans segments) := by
  have entries := entries_build table segments
  have mark := mark_build table segments
  cases built : (table.build segments).2
  simp_all [extended]

theorem build_append (table : Table) (left right : List Segment) :
    table.build (left ++ right) =
      ((table.build left).1 ++ ((table.build left).2.build right).1, ((table.build left).2.build right).2) := by
  induction left generalizing table with
  | nil => rfl
  | cons segment left ih => cases segment <;> simp [build, ih]

theorem render_of_known {style : Style} (usable : Text.Usable style.reserved) {table : Table}
    (known : ∀ unit ∈ table.spans, ∀ name, unit.kind ≠ .other name) :
    table.render style = .ok (table.entries.map fun entry => (entry.1, entry.2.written style)) := by
  apply mapM_ok
  intro entry member
  have kind := known entry.2 (List.mem_map_of_mem member)
  simp only [Span.render_of_known usable kind]
  rfl

end Table

end Placeholder

end ChatMarkup
