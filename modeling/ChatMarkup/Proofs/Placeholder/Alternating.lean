import ChatMarkup.Proofs.Placeholder.Region
import Mathlib.Data.List.Induction

namespace ChatMarkup.Placeholder

def inTurn (mark : Char) (write : Text → Text) (pairs : List (Text × Text)) : Text :=
  pairs.flatMap fun (plain, enclosed) => write plain ++ mark :: enclosed ++ [mark]

@[simp] theorem inTurn_nil (mark : Char) (write : Text → Text) : inTurn mark write [] = [] := rfl

@[simp] theorem inTurn_cons (mark : Char) (write : Text → Text) (pair : Text × Text)
    (pairs : List (Text × Text)) : inTurn mark write (pair :: pairs) =
      write pair.1 ++ mark :: pair.2 ++ mark :: inTurn mark write pairs := by
  simp [inTurn]

theorem count_inTurn {mark : Char} {pairs : List (Text × Text)}
    (free : ∀ pair ∈ pairs, mark ∉ pair.1 ∧ mark ∉ pair.2) :
    (inTurn mark id pairs).count mark = 2 * pairs.length := by
  induction pairs with
  | nil => rfl
  | cons pair pairs ih =>
    rw [List.forall_mem_cons] at free
    have plain := List.count_eq_zero_of_not_mem free.1.1
    have enclosed := List.count_eq_zero_of_not_mem free.1.2
    simp only [inTurn_cons, id_eq, List.count_append, List.count_cons_self, plain, enclosed, ih free.2,
      List.length_cons]
    omega

theorem exists_inTurn (mark : Char) (text : Text) :
    ∃ pairs rest, text = inTurn mark id pairs ++ rest ∧
      (∀ pair ∈ pairs, mark ∉ pair.1 ∧ mark ∉ pair.2) ∧
      (mark ∉ rest ∨ ∃ front back, rest = front ++ mark :: back ∧ mark ∉ front ∧ mark ∉ back) := by
  induction text using List.reverseRecOn with
  | nil => exact ⟨[], [], rfl, by simp, .inl List.not_mem_nil⟩
  | append_singleton text c ih =>
    obtain ⟨pairs, rest, rfl, free, shape⟩ := ih
    by_cases own : c = mark
    · -- one more mark closes what a single one has opened, or is a single one itself
      subst own
      rcases shape with closed | ⟨front, back, rfl, plain, enclosed⟩
      · exact ⟨pairs, rest ++ [c], by simp, free, .inr ⟨rest, [], rfl, closed, List.not_mem_nil⟩⟩
      · refine ⟨pairs ++ [(front, back)], [], by simp [inTurn], ?_, .inl List.not_mem_nil⟩
        intro pair member
        rcases List.mem_append.mp member with member | member
        · exact free pair member
        · rw [List.mem_singleton.mp member]
          exact ⟨plain, enclosed⟩
    · refine ⟨pairs, rest ++ [c], by simp, free, ?_⟩
      rcases shape with closed | ⟨front, back, rfl, plain, enclosed⟩
      · exact .inl (by simp [closed, Ne.symm own])
      · exact .inr ⟨front, back ++ [c], by simp, plain, by simp [enclosed, Ne.symm own]⟩

theorem regions_unterminated {mark : Char} {before body : Text} (free : mark ∉ before)
    (unclosed : mark ∉ body) (offset : Nat) :
    regions [mark] offset (before ++ mark :: body) = ([], some (offset + before.length)) := by
  have opening := Text.breakOn?_mark free body
  have closing := Text.breakOn?_eq_none_iff_not_mem.mpr unclosed
  rw [regions]
  split <;> rename_i cut <;> rw [opening] at cut <;> cases cut
  split <;> rename_i cut <;> rw [closing] at cut <;> cases cut

def pairRegions (mark : Char) (pair : Text × Text) : List Region :=
  [.outside pair.1, .placeholder (mark :: pair.2 ++ [mark])]

theorem flatMap_pairRegions (mark : Char) (reserved : List Char) (pairs : List (Text × Text)) :
    (pairs.flatMap (pairRegions mark)).flatMap (Region.escaped reserved) =
      inTurn mark (Text.escapeChars reserved) pairs := by
  simp [inTurn, pairRegions, Region.escaped, List.flatMap_assoc]

theorem regions_inTurn {mark : Char} {pairs : List (Text × Text)}
    (free : ∀ pair ∈ pairs, mark ∉ pair.1 ∧ mark ∉ pair.2) (offset : Nat) (rest : Text) :
    regions [mark] offset (inTurn mark id pairs ++ rest) =
      let following := regions [mark] (offset + (inTurn mark id pairs).length) rest
      (pairs.flatMap (pairRegions mark) ++ following.1, following.2) := by
  induction pairs generalizing offset with
  | nil => rfl
  | cons pair pairs ih =>
    rw [List.forall_mem_cons] at free
    obtain ⟨plain, enclosed⟩ := pair
    have whole : inTurn mark id ((plain, enclosed) :: pairs) ++ rest =
        plain ++ mark :: enclosed ++ mark :: (inTurn mark id pairs ++ rest) := by
      simp
    have behind : offset + (inTurn mark id ((plain, enclosed) :: pairs)).length =
        offset + plain.length + enclosed.length + 2 + (inTurn mark id pairs).length := by
      simp only [inTurn_cons, id_eq, List.length_append, List.length_cons]
      omega
    rw [whole, behind, regions_placeholder free.1.1 free.1.2, ih free.2]
    rfl

section Marked

variable {reserved : List Text} (usable : Text.Usable reserved) {mark : Char}
  {pairs : List (Text × Text)} (free : ∀ pair ∈ pairs, mark ∉ pair.1 ∧ mark ∉ pair.2)

include usable free

theorem escapeAround_closed {last : Text} (closed : mark ∉ last) :
    (escapeAround reserved [mark] (inTurn mark id pairs ++ last)).result =
      .ok (inTurn mark (Text.escapeChars reserved.flatten) pairs ++
        Text.escapeChars reserved.flatten last) := by
  rw [escapeAround_of_usable usable, regions_inTurn free, regions_of_not_mem closed]
  simp [flatMap_pairRegions, Region.escaped]

theorem escapeAround_unclosed {front back : Text} (plain : mark ∉ front) (unclosed : mark ∉ back) :
    (escapeAround reserved [mark] (inTurn mark id pairs ++ (front ++ mark :: back))).result =
      .error (.unterminated (inTurn mark id pairs ++ front).length) := by
  rw [escapeAround_of_usable usable, regions_inTurn free, regions_unterminated plain unclosed]
  simp

end Marked

/-- Escaping fails exactly at a mark without a partner, else the texts outside are escaped. -/
theorem escapeAround_alternates {reserved : List Text} (usable : Text.Usable reserved) (mark : Char)
    (text : Text) :
    ((∃ fault, (escapeAround reserved [mark] text).result = .error fault) ↔ text.count mark % 2 = 1) ∧
    (∀ front back, text = front ++ mark :: back → mark ∉ back → text.count mark % 2 = 1 →
      (escapeAround reserved [mark] text).result = .error (.unterminated front.length)) ∧
    ∃ escaped : Text → Text, (∀ piece : Text, piece.escape reserved = .ok (escaped piece)) ∧
      ∀ pairs last, text = inTurn mark id pairs ++ last →
        (∀ pair ∈ pairs, mark ∉ pair.1 ∧ mark ∉ pair.2) → mark ∉ last →
        (escapeAround reserved [mark] text).result = .ok (inTurn mark escaped pairs ++ escaped last) := by
  refine ⟨?_, ?_, _, Text.escape_of_usable usable, ?_⟩
  · obtain ⟨pairs, rest, rfl, free, closed | ⟨front, back, rfl, plain, unclosed⟩⟩ :=
      exists_inTurn mark text
    · have marks := List.count_eq_zero_of_not_mem closed
      rw [escapeAround_closed usable free closed, List.count_append, count_inTurn free, marks]
      simp
    · have before := List.count_eq_zero_of_not_mem plain
      have behind := List.count_eq_zero_of_not_mem unclosed
      rw [escapeAround_unclosed usable free plain unclosed, List.count_append, List.count_append,
        List.count_cons_self, count_inTurn free, before, behind]
      simp
  · rintro front back rfl unclosed odd
    have behind := List.count_eq_zero_of_not_mem unclosed
    rw [List.count_append, List.count_cons_self, behind] at odd
    obtain ⟨pairs, rest, rfl, free, plain | ⟨first, last, rfl, before, after⟩⟩ :=
      exists_inTurn mark front
    · rw [List.append_assoc]
      exact escapeAround_unclosed usable free plain unclosed
    · -- a mark in front that had no partner would make an even number with this one
      have outside := List.count_eq_zero_of_not_mem before
      have inside := List.count_eq_zero_of_not_mem after
      rw [List.count_append, List.count_append, List.count_cons_self, count_inTurn free, outside,
        inside] at odd
      omega
  · rintro pairs last rfl free closed
    exact escapeAround_closed usable free closed

theorem escapeAround_alternates_marked :
    let reserved := [".".toList, "\x00P".toList]
    Text.Usable reserved ∧
    (escapeAround reserved ['\x00'] "P\x00P.\x00\x00\x00.P".toList).result =
      .ok "\\P\x00P.\x00\x00\x00\\.\\P".toList ∧
    (escapeAround reserved ['\x00'] "P\x00P.\x00.\x00.".toList).result = .error (.unterminated 6) := by
  intro reserved
  have usable : Text.Usable reserved := by decide
  obtain ⟨-, -, escaped, each, closed⟩ :=
    escapeAround_alternates usable '\x00' "P\x00P.\x00\x00\x00.P".toList
  obtain ⟨-, unclosed, -⟩ := escapeAround_alternates usable '\x00' "P\x00P.\x00.\x00.".toList
  have whole := closed [("P".toList, "P.".toList), ([], [])] ".P".toList rfl (by decide) (by decide)
  have known {piece output : Text} (done : piece.escape reserved = .ok output) :
      escaped piece = output := Except.ok.inj ((each piece).symm.trans done)
  have first : escaped "P".toList = "\\P".toList := known rfl
  have second : escaped [] = [] := known rfl
  have third : escaped ".P".toList = "\\.\\P".toList := known rfl
  rw [inTurn_cons, inTurn_cons, first, second, third] at whole
  exact ⟨usable, whole, unclosed "P\x00P.\x00.".toList ".".toList rfl (by decide) (by decide)⟩

end ChatMarkup.Placeholder
