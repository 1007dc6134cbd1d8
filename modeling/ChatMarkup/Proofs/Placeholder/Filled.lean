import ChatMarkup.Proofs.Convert.Piecewise

namespace ChatMarkup.Placeholder

open Table

/-- Plain texts, each with one side of the replacement that comes behind it. -/
def interleaved (side : Text × Text → Text) (pieces : List (Text × Text × Text)) : Text :=
  pieces.flatMap fun (plain, replacement) => plain ++ side replacement

@[simp] theorem interleaved_nil (side : Text × Text → Text) : interleaved side [] = [] := rfl

@[simp] theorem interleaved_cons (side : Text × Text → Text) (plain : Text) (replacement : Text × Text)
    (pieces : List (Text × Text × Text)) :
    interleaved side ((plain, replacement) :: pieces) =
      plain ++ side replacement ++ interleaved side pieces := by
  simp [interleaved]

theorem fill_interleaved {mark : Char} {pieces : List (Text × Text × Text)}
    (named : ∀ piece ∈ pieces, ∃ n, piece.2.1 = placeholder [mark] n)
    (free : ∀ piece ∈ pieces, mark ∉ piece.1 ∧ mark ∉ piece.2.2) {last : Text} (closed : mark ∉ last)
    {done : Text} (clean : mark ∉ done) :
    (fill (done ++ interleaved (·.1) pieces ++ last) (pieces.map (·.2)) [mark]).result =
      .ok (done ++ interleaved (·.2) pieces ++ last) := by
  induction pieces generalizing done with
  | nil =>
    rw [interleaved_nil, interleaved_nil, List.append_nil]
    refine fill_nil_eq_ok_iff.mpr ⟨?_, rfl⟩
    rw [List.mem_append, not_or]
    exact ⟨clean, closed⟩
  | cons piece pieces ih =>
    rw [List.forall_mem_cons] at named free
    obtain ⟨plain, hole, final⟩ := piece
    obtain ⟨⟨n, rfl⟩, named⟩ := named
    have before : mark ∉ done ++ plain := by
      rw [List.mem_append, not_or]
      exact ⟨clean, free.1.1⟩
    have longer : mark ∉ done ++ plain ++ final := by
      rw [List.mem_append, not_or]
      exact ⟨before, free.1.2⟩
    -- what is filled already has no mark, so the next placeholder is the first one that is left
    have first := fill_placeholder before n final (interleaved (·.1) pieces ++ last) (pieces.map (·.2))
    have others := ih named free.2 longer
    simp only [interleaved_cons, List.map_cons, List.append_assoc] at first others ⊢
    rw [first, others]

/-- Filling fails closed, and every replacement uses up two marks. -/
theorem fill_balanced {mark : Char} (isMark : IsMark mark) (text : Text) (finals : List (Text × Text))
    (named : ∀ entry ∈ finals, ∃ n, entry.1 = [mark] ++ 'P' :: Nat.toDigits 10 n ++ [mark]) :
    (∀ result, (fill text finals [mark]).result = .ok result →
      mark ∉ result ∧ text.count mark + (finals.flatMap (·.2)).count mark = 2 * finals.length) ∧
    ((∀ entry ∈ finals, mark ∉ entry.2) → text.count mark ≠ 2 * finals.length →
      ∃ fault, fault.BreaksPlaceholder ∧ (fill text finals [mark]).result = .error fault) ∧
    ∀ pieces last, finals = pieces.map (·.2) → text = interleaved (·.1) pieces ++ last →
      (∀ piece ∈ pieces, mark ∉ piece.1 ∧ mark ∉ piece.2.2) → mark ∉ last →
      (fill text finals [mark]).result = .ok (interleaved (·.2) pieces ++ last) := by
  have balance {result : Text} (filled : (fill text finals [mark]).result = .ok result) :
      text.count mark + (finals.flatMap (·.2)).count mark = 2 * finals.length := by
    rw [count_fill filled, isMark.count_placeholders named]
  refine ⟨fun result filled => ⟨not_mem_of_fill filled, balance filled⟩, ?_, ?_⟩
  · intro free uneven
    cases result : (fill text finals [mark]).result with
    | error fault =>
      refine ⟨fault, ?_, rfl⟩
      rcases fill_error result with rfl | ⟨hole, rfl⟩ <;> trivial
    | ok output =>
      have none : (finals.flatMap (·.2)).count mark = 0 := by
        rw [List.count_eq_zero]
        intro inside
        obtain ⟨entry, member, within⟩ := List.mem_flatMap.mp inside
        exact free entry member within
      have even := balance result
      omega
  · rintro pieces last rfl rfl free closed
    exact fill_interleaved (fun piece member => named _ (List.mem_map_of_mem member)) free closed
      List.not_mem_nil

theorem fill_balanced_nested :
    let finals := [("\x00P0\x00".toList, "P1".toList), ("\x00P12\x00".toList, "b".toList)]
    let nested := [("\x00P0\x00".toList, "\x00P1\x00".toList), ("\x00P1\x00".toList, "b".toList)]
    IsMark '\x00' ∧
    (∀ entry ∈ finals ++ nested, ∃ n, entry.1 = ['\x00'] ++ 'P' :: Nat.toDigits 10 n ++ ['\x00']) ∧
    (fill "a\x00P0\x00P1\x00P12\x00".toList finals ['\x00']).result = .ok "aP1P1b".toList ∧
    (∃ fault, fault.BreaksPlaceholder ∧
      (fill "a\x00P0\x00P1\x00P12".toList finals ['\x00']).result = .error fault) ∧
    (∃ fault, fault.BreaksPlaceholder ∧
      (fill "\x00P0\x00\x00P12\x00\x00P0\x00".toList finals ['\x00']).result = .error fault) ∧
    (fill "\x00P0\x00".toList nested ['\x00']).result = .ok "b".toList ∧
    "\x00P0\x00".toList.count '\x00' + (nested.flatMap (·.2)).count '\x00' = 2 * nested.length := by
  intro finals nested
  have isMark : IsMark '\x00' := ⟨by decide, by decide⟩
  have named : ∀ entry ∈ finals ++ nested,
      ∃ n, entry.1 = ['\x00'] ++ 'P' :: Nat.toDigits 10 n ++ ['\x00'] := by
    simp only [finals, nested, List.cons_append, List.nil_append, List.forall_mem_cons]
    exact ⟨⟨0, by decide⟩, ⟨12, by decide⟩, ⟨0, by decide⟩, ⟨1, by decide⟩, by simp⟩
  have own := fun entry (member : entry ∈ finals) => named entry (List.mem_append_left _ member)
  have inner := fun entry (member : entry ∈ nested) => named entry (List.mem_append_right _ member)
  have free : ∀ entry ∈ finals, '\x00' ∉ entry.2 := by decide
  have filled : (fill "\x00P0\x00".toList nested ['\x00']).result = .ok "b".toList := by decide
  obtain ⟨-, -, alternating⟩ := fill_balanced isMark "a\x00P0\x00P1\x00P12\x00".toList finals own
  obtain ⟨-, truncated, -⟩ := fill_balanced isMark "a\x00P0\x00P1\x00P12".toList finals own
  obtain ⟨-, doubled, -⟩ :=
    fill_balanced isMark "\x00P0\x00\x00P12\x00\x00P0\x00".toList finals own
  obtain ⟨used, -, -⟩ := fill_balanced isMark "\x00P0\x00".toList nested inner
  refine ⟨isMark, named, ?_, truncated free (by decide), doubled free (by decide), filled,
    (used _ filled).2⟩
  exact alternating [("a".toList, finals[0]), ("P1".toList, finals[1])] [] rfl (by decide) (by decide)
    (by decide)

end ChatMarkup.Placeholder
