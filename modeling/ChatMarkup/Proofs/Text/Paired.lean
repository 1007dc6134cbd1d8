import ChatMarkup.Proofs.Text.Guarded
import Mathlib.Data.List.Flatten

namespace ChatMarkup.Text

def withPrevious (before : Option Char) (text : Text) : List (Option Char × Char) :=
  (before :: text.map some).zip text

@[simp] theorem withPrevious_nil (before : Option Char) : withPrevious before [] = [] := rfl

@[simp] theorem withPrevious_cons (before : Option Char) (c : Char) (rest : Text) :
    withPrevious before (c :: rest) = (before, c) :: withPrevious (some c) rest := rfl

def guardChar (reserved : List Char) : Option Char × Char → Text
  | (previous, c) => if c ∈ reserved ∧ previous ≠ some '\\' then ['\\', c] else [c]

/-- Pairs of a backslash and a reserved character, and characters that are not reserved. -/
inductive Paired (reserved : List Char) : Text → Prop
  | nil : Paired reserved []
  | pair {c : Char} {rest : Text} (known : c ∈ reserved) (others : Paired reserved rest) :
      Paired reserved ('\\' :: c :: rest)
  | single {c : Char} {rest : Text} (free : c ∉ reserved) (others : Paired reserved rest) :
      Paired reserved (c :: rest)

/-- Undoes, from left to right, the pairs of a backslash and a reserved character. -/
def unescapeChars (reserved : List Char) : Text → Text
  | '\\' :: c :: rest =>
    if c ∈ reserved then c :: unescapeChars reserved rest
    else '\\' :: unescapeChars reserved (c :: rest)
  | c :: rest => c :: unescapeChars reserved rest
  | [] => []

theorem escapeChars_eq_flatMap {reserved : List Char} (proper : '\\' ∉ reserved)
    {before : Option Char} {text : Text}
    (apart : ∀ c ∈ text.head?, c ∈ reserved → before ≠ some '\\') :
    escapeChars reserved text = (withPrevious before text).flatMap (guardChar reserved) := by
  have visible {c : Char} (known : c ∈ reserved) : some c ≠ some '\\' := by
    rintro ⟨⟩
    exact proper known
  fun_induction escapeChars reserved text generalizing before with
  | case1 => rfl
  | case2 c rest known ih =>
    have inner := @ih (some c) fun _ _ _ => visible known
    simp [guardChar, proper, inner]
  | case3 c rest _ own => exact absurd own proper
  | case4 c rest free _ ih =>
    have inner := @ih (some '\\') (by simp [free])
    rw [withPrevious_cons, List.flatMap_cons, ← inner]
    simp [guardChar, proper]
  | case5 c rest _ known ih =>
    have inner := @ih (some c) fun _ _ _ => visible known
    have clear : before ≠ some '\\' := apart c rfl known
    simp [guardChar, known, clear, inner]
  | case6 c rest single free ih =>
    have after : ∀ d ∈ rest.head?, d ∈ reserved → some c ≠ some '\\' := by
      intro d first _
      simpa using visible_of_single single d first
    simp [guardChar, free, ih after]

theorem guardChar_sublist {small large : List Char} (sub : small ⊆ large) (place : Option Char × Char) :
    (guardChar small place).Sublist (guardChar large place) := by
  obtain ⟨previous, c⟩ := place
  by_cases guarded : c ∈ small ∧ previous ≠ some '\\'
  · have longer : c ∈ large ∧ previous ≠ some '\\' := ⟨sub guarded.1, guarded.2⟩
    simp only [guardChar, if_pos guarded, if_pos longer, List.Sublist.refl]
  · rw [guardChar, guardChar, if_neg guarded]
    split <;> simp

theorem escapeChars_sublist {small large : List Char} (proper : '\\' ∉ large) (sub : small ⊆ large)
    (text : Text) : (escapeChars small text).Sublist (escapeChars large text) := by
  have properSmall : '\\' ∉ small := fun own => proper (sub own)
  rw [@escapeChars_eq_flatMap small properSmall none text (by simp),
    @escapeChars_eq_flatMap large proper none text (by simp)]
  exact List.Sublist.flatMap_right _ fun place _ => guardChar_sublist sub place

section Own

variable {reserved : List Char} (own : '\\' ∈ reserved)

include own

theorem paired_escapeChars (text : Text) : Paired reserved (escapeChars reserved text) := by
  fun_induction escapeChars reserved text with
  | case1 => exact .nil
  | case2 c rest known ih => exact .pair known ih
  | case3 c rest _ _ ih => exact .pair own ih
  | case4 c rest _ improper => exact absurd own improper
  | case5 c rest _ known ih => exact .pair known ih
  | case6 c rest _ free ih => exact .single free ih

theorem Paired.escapeChars_eq {text : Text} (paired : Paired reserved text) :
    escapeChars reserved text = text := by
  induction paired with
  | nil => rfl
  | pair known _ ih => rw [escapeChars, if_pos known, ih]
  | @single c rest free _ ih =>
    have visible : c ≠ '\\' := fun same => free (same ▸ own)
    rw [escapeChars_cons reserved visible, if_neg free, ih]

theorem unescapeChars_escapeChars (text : Text) :
    unescapeChars reserved (escapeChars reserved text) = unescapeChars reserved text := by
  fun_induction escapeChars reserved text with
  | case1 => rfl
  | case2 c rest known ih => simp only [unescapeChars, known, ↓reduceIte, ih]
  | case3 c rest free _ ih => simp only [unescapeChars, own, free, ↓reduceIte, ih]
  | case4 c rest _ improper => exact absurd own improper
  | case5 c rest single known ih =>
    rw [unescapeChars, if_pos known, ih, unescapeChars]
    exact single
  | case6 c rest single free ih =>
    have visible : c ≠ '\\' := fun same => free (same ▸ own)
    rw [unescapeChars, ih, unescapeChars]
    · exact single
    · exact fun _ _ slash _ => visible slash

end Own

/-- What escaping puts in and where, whether the backslash is reserved or not. -/
theorem escape_local {reserved : List Text} (named : ∃ member ∈ reserved, member ≠ []) (text : Text) :
    ∃ output, text.escape reserved = .ok output ∧
      ('\\' ∉ reserved.flatten →
        output = (withPrevious none text).flatMap (guardChar reserved.flatten)) ∧
      ('\\' ∈ reserved.flatten → Paired reserved.flatten output ∧
        unescapeChars reserved.flatten output = unescapeChars reserved.flatten text) := by
  refine ⟨_, escape_of_usable (.inr named) text, ?_, ?_⟩
  · intro proper
    exact escapeChars_eq_flatMap proper (by simp)
  · intro own
    exact ⟨paired_escapeChars own text, unescapeChars_escapeChars own text⟩

theorem escape_local_backslash :
    let reserved := ["\\.".toList, []]
    let text : Text := "\\a.\\.\\".toList
    let output : Text := "\\\\a\\.\\.\\\\".toList
    (∃ member ∈ reserved, member ≠ []) ∧ text.escape reserved = .ok output ∧
    Paired reserved.flatten output ∧ unescapeChars reserved.flatten output = "\\a..\\".toList := by
  intro reserved text output
  have named : ∃ member ∈ reserved, member ≠ [] := ⟨"\\.".toList, by decide, by decide⟩
  obtain ⟨escaped, done, -, own⟩ := escape_local named text
  have same : escaped = output := by
    cases done
    decide
  obtain ⟨paired, undone⟩ := own (by decide)
  rw [same] at done paired undone
  exact ⟨named, done, paired, undone⟩

/-- What is escaped stays as it is when it is escaped again. -/
theorem escape_escape {reserved : List Text} (usable : Usable reserved) (text : Text) :
    ∃ once, text.escape reserved = .ok once ∧ once.escape reserved = .ok once := by
  have again : escapeChars reserved.flatten (escapeChars reserved.flatten text) =
      escapeChars reserved.flatten text := by
    by_cases own : '\\' ∈ reserved.flatten
    · exact (paired_escapeChars own text).escapeChars_eq own
    · exact escapeChars_of_guarded own (guarded_escapeChars own none text)
  refine ⟨_, escape_of_usable usable text, ?_⟩
  rw [escape_of_usable usable, again]

theorem escape_escape_backslashes :
    let reserved := ["\\".toList, ".-]".toList]
    let text : Text := "\\\\\\.]\\a".toList
    let once : Text := "\\\\\\.\\]\\\\a".toList
    Usable reserved ∧ text.escape reserved = .ok once ∧ once.escape reserved = .ok once := by
  intro reserved text once
  have usable : Usable reserved := by decide
  obtain ⟨escaped, done, again⟩ := escape_escape usable text
  have same : escaped = once := by
    cases done
    decide
  rw [same] at done again
  exact ⟨usable, done, again⟩

end ChatMarkup.Text
