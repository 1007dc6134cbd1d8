import ChatMarkup.Proofs.Placeholder.Region
import ChatMarkup.Proofs.Text.Occurrences

namespace ChatMarkup.Placeholder

def MarkAt (mark text : Text) (place : Nat) : Prop :=
  place ≤ text.length ∧ mark <+: text.drop place

def NoMark (mark text : Text) (position : Nat) : Prop :=
  ∀ place, position ≤ place → ¬ MarkAt mark text place

structure FirstMark (mark text : Text) (position place : Nat) : Prop where
  reached : position ≤ place
  here : MarkAt mark text place
  earliest : ∀ other, position ≤ other → MarkAt mark text other → place ≤ other

/-- What the scan cuts out of a text from `position` on, and the mark without a partner that stops it. -/
inductive Cuts (mark text : Text) : Nat → List Region → Option Nat → Prop
  | last {position : Nat} (clear : NoMark mark text position) :
      Cuts mark text position
        (if position ≤ text.length then [.outside (text.drop position)] else []) none
  | unterminated {position start : Nat} (opening : FirstMark mark text position start)
      (alone : NoMark mark text (start + 1)) : Cuts mark text position [] (some start)
  | placeholder {position start stop : Nat} {cut : List Region} {ending : Option Nat}
      (opening : FirstMark mark text position start)
      (closing : FirstMark mark text (start + 1) stop)
      (others : Cuts mark text (stop + 1) cut ending) :
      Cuts mark text position
        (.outside ((text.take start).drop position) ::
          .placeholder ((text.take (stop + 1)).drop start) :: cut) ending

section Places

variable {mark text : Text} {position place : Nat}

theorem noMark_of_behind (behind : text.length < position) : NoMark mark text position := by
  intro place later here
  have inside := here.1
  omega

theorem FirstMark.inside (first : FirstMark mark text position place) : place ≤ text.length :=
  first.here.1

theorem FirstMark.not_noMark (first : FirstMark mark text position place) :
    ¬ NoMark mark text position :=
  fun clear => clear place first.reached first.here

theorem FirstMark.unique {other : Nat} (first : FirstMark mark text position place)
    (second : FirstMark mark text position other) : place = other := by
  apply Nat.le_antisymm
  · exact first.earliest other second.reached second.here
  · exact second.earliest place first.reached first.here

theorem markAt_append (front : Text) :
    MarkAt mark (front ++ text) (front.length + place) ↔ MarkAt mark text place := by
  unfold MarkAt
  rw [List.length_append, List.drop_length_add_append, Nat.add_le_add_iff_left]

theorem noMark_of_breakOn? (missing : Text.breakOn? mark text = none) (front : Text) :
    NoMark mark (front ++ text) front.length := by
  intro place behind here
  obtain ⟨further, rfl⟩ := Nat.exists_eq_add_of_le behind
  have inside := ((markAt_append front).mp here).2.isInfix
  exact Text.breakOn?_eq_none_iff.mp missing (inside.trans (List.drop_suffix further text).isInfix)

theorem firstMark_of_breakOn? {before found : Text}
    (cut : Text.breakOn? mark text = some (before, found)) (front : Text) :
    FirstMark mark (front ++ text) front.length (front.length + before.length) where
  reached := Nat.le_add_right _ _
  here := by
    have whole := Text.breakOn?_append cut
    rw [markAt_append, whole, MarkAt, List.drop_left]
    refine ⟨?_, Text.breakOn?_prefix cut⟩
    rw [List.length_append]
    omega
  earliest := by
    intro other behind here
    obtain ⟨further, rfl⟩ := Nat.exists_eq_add_of_le behind
    obtain ⟨-, rest, tail⟩ := (markAt_append front).mp here
    have whole : text = text.take further ++ mark ++ rest := by
      rw [List.append_assoc, tail, List.take_append_drop]
    have bound := Text.breakOn?_length_le cut whole
    rw [List.length_take] at bound
    omega

end Places

section Cuts

variable {mark text : Text} {position : Nat} {cut : List Region} {ending : Option Nat}

theorem Cuts.past (behind : text.length < position) : Cuts mark text position [] none := by
  have finished : Cuts mark text position _ none := .last (noMark_of_behind behind)
  rwa [if_neg (Nat.not_le.mpr behind)] at finished

theorem Cuts.unique {other : List Region} {stop : Option Nat}
    (first : Cuts mark text position cut ending) (second : Cuts mark text position other stop) :
    cut = other ∧ ending = stop := by
  induction first generalizing other stop with
  | last clear =>
    cases second with
    | last => exact ⟨rfl, rfl⟩
    | unterminated opening | placeholder opening => exact absurd clear opening.not_noMark
  | unterminated opening alone =>
    cases second with
    | last clear => exact absurd clear opening.not_noMark
    | unterminated again =>
      obtain rfl := opening.unique again
      exact ⟨rfl, rfl⟩
    | placeholder again closing =>
      obtain rfl := opening.unique again
      exact absurd alone closing.not_noMark
  | placeholder opening closing _ ih =>
    cases second with
    | last clear => exact absurd clear opening.not_noMark
    | unterminated again alone =>
      obtain rfl := opening.unique again
      exact absurd alone closing.not_noMark
    | placeholder again closes others =>
      obtain rfl := opening.unique again
      obtain rfl := closing.unique closes
      obtain ⟨rfl, rfl⟩ := ih others
      exact ⟨rfl, rfl⟩

theorem Cuts.round {before body inner found : Text} {first : Char}
    (opening : Text.breakOn? mark (before ++ first :: body) = some (before, first :: body))
    (closing : Text.breakOn? mark body = some (inner, found)) {front : Text}
    (others : Cuts mark (front ++ (before ++ first :: body))
      (front.length + before.length + inner.length + 2) cut ending) :
    Cuts mark (front ++ (before ++ first :: body)) front.length
      (.outside before :: .placeholder (first :: inner ++ found.take 1) :: cut) ending := by
  have opened := firstMark_of_breakOn? opening front
  have closed := firstMark_of_breakOn? closing (front ++ before ++ [first])
  have whole : front ++ before ++ [first] ++ body = front ++ (before ++ first :: body) := by
    simp
  have behind : (front ++ before ++ [first]).length = front.length + before.length + 1 := by
    rw [List.length_append, List.length_append, List.length_singleton]
  rw [whole, behind] at closed
  have outside := Text.drop_take_append front before (first :: body)
  rw [List.append_assoc] at outside
  have inside : ((front ++ (before ++ first :: body)).take
      (front.length + before.length + 1 + inner.length + 1)).drop (front.length + before.length) =
        first :: inner ++ found.take 1 := by
    have long : front.length + before.length + 1 + inner.length + 1 -
        (front.length + before.length) = (first :: inner).length + 1 := by
      rw [List.length_cons]
      omega
    have cut := Text.breakOn?_append closing
    rw [List.drop_take, long, ← List.append_assoc, ← List.length_append, List.drop_left, cut,
      ← List.cons_append, List.take_length_add_append]
  have next : front.length + before.length + 1 + inner.length + 1 =
      front.length + before.length + inner.length + 2 := by omega
  rw [← next] at others
  have round := Cuts.placeholder opened closed others
  rwa [outside, inside] at round

theorem cuts_regions (mark : Text) {front text : Text} {offset : Nat}
    (reached : offset = front.length) :
    Cuts mark (front ++ text) offset (regions mark offset text).1 (regions mark offset text).2 := by
  fun_induction regions mark offset text generalizing front with
  | case1 offset text missing =>
    have finished := Cuts.last (noMark_of_breakOn? missing front)
    subst reached
    simpa using finished
  | case2 offset text before cut =>
    have whole := Text.breakOn?_append cut
    have opening := firstMark_of_breakOn? cut front
    rw [List.append_nil] at whole
    subst reached whole
    refine .unterminated opening (noMark_of_behind ?_)
    rw [List.length_append]
    omega
  | case3 offset text before first body cut missing =>
    have alone := noMark_of_breakOn? missing (front ++ before ++ [first])
    have opening := firstMark_of_breakOn? cut front
    obtain rfl := Text.breakOn?_append cut
    subst reached
    exact .unterminated opening (by simpa [Nat.add_assoc] using alone)
  | case4 offset text before first body cut inner closing =>
    -- the mark is found with nothing behind it, so the next round starts behind the end
    obtain rfl := Text.breakOn?_append cut
    have behind : (front ++ (before ++ first :: body)).length <
        front.length + before.length + inner.length + 2 := by
      simp [Text.breakOn?_append closing]
      omega
    subst reached
    simpa using Cuts.round cut closing (Cuts.past behind)
  | case5 offset text before first body cut inner last rest closing following =>
    rename_i ih
    obtain rfl := Text.breakOn?_append cut
    subst reached
    have others := @ih (front ++ before ++ first :: inner ++ [last]) (by simp; omega)
    have whole : front ++ before ++ first :: inner ++ [last] ++ rest =
        front ++ (before ++ first :: body) := by
      simp [Text.breakOn?_append closing]
    rw [whole] at others
    simpa using Cuts.round cut closing others

theorem cuts_iff : Cuts mark text 0 cut ending ↔ regions mark 0 text = (cut, ending) := by
  have found : Cuts mark text 0 _ _ := @cuts_regions mark [] text 0 rfl
  constructor
  · intro cuts
    obtain ⟨same, stop⟩ := found.unique cuts
    rw [← same, ← stop]
  · intro same
    rwa [same] at found

theorem Cuts.length_le (cuts : Cuts mark text position cut ending)
    (inside : position ≤ text.length + 1) : cut.length + position ≤ text.length + 2 := by
  induction cuts with
  | last clear =>
    split
    · rw [List.length_singleton]
      omega
    · rw [List.length_nil]
      omega
  | unterminated opening alone =>
    rw [List.length_nil]
    omega
  | placeholder opening closing _ ih =>
    have bound := closing.inside
    have one := opening.reached
    have two := closing.reached
    have others := ih (by omega)
    rw [List.length_cons, List.length_cons]
    omega

theorem Cuts.joined (cuts : Cuts mark text position cut ending) :
    ∃ reach, position ≤ reach ∧ cut.flatMap Region.text = (text.take reach).drop position ∧
      (ending = none → text.length ≤ reach) ∧
      ∀ stop, ending = some stop →
        FirstMark mark text reach stop ∧ NoMark mark text (stop + 1) := by
  induction cuts with
  | @last position clear =>
    refine ⟨position + text.length, by omega, ?_, fun _ => by omega, by simp⟩
    rw [List.take_of_length_le (by omega)]
    split
    · simp [Region.text]
    · rename_i behind
      rw [List.drop_of_length_le (by omega), List.flatMap_nil]
  | @unterminated position start opening alone =>
    refine ⟨position, Nat.le_refl _, by simp, by simp, ?_⟩
    rintro stop ⟨⟩
    exact ⟨opening, alone⟩
  | @placeholder position start stop cut ending opening closing _ ih =>
    obtain ⟨reach, behind, joined, whole, stopped⟩ := ih
    have one := opening.reached
    have two := closing.reached
    refine ⟨reach, by omega, ?_, whole, stopped⟩
    rw [List.flatMap_cons, List.flatMap_cons, joined, Region.text, Region.text,
      Text.drop_take_append_drop_take text (by omega) behind,
      Text.drop_take_append_drop_take text one (by omega)]

theorem Cuts.flatMap_text (cuts : Cuts mark text 0 cut none) : cut.flatMap Region.text = text := by
  obtain ⟨reach, -, joined, whole, -⟩ := cuts.joined
  rw [joined, List.drop_zero, List.take_of_length_le (whole rfl)]

theorem Region.slashed_escaped (reserved : List Char) (region : Region) :
    Text.Slashed reserved region.text (region.escaped reserved) := by
  cases region with
  | outside text => exact Text.slashed_escapeChars reserved text
  | placeholder text => exact .refl reserved text

theorem slashed_flatMap_escaped (reserved : List Char) (cut : List Region) :
    Text.Slashed reserved (cut.flatMap Region.text) (cut.flatMap (Region.escaped reserved)) := by
  induction cut with
  | nil => exact .nil
  | cons region cut ih =>
    rw [List.flatMap_cons, List.flatMap_cons]
    exact (region.slashed_escaped reserved).append ih

section Empty

theorem noMark_nil {position : Nat} (clear : NoMark [] text position) : text.length < position := by
  apply Nat.lt_of_not_le
  intro inside
  exact clear position (Nat.le_refl _) ⟨inside, List.nil_prefix⟩

theorem FirstMark.eq_of_nil {position place : Nat} (first : FirstMark [] text position place) :
    place = position := by
  have reached := first.reached
  have inside := first.inside
  have bound := first.earliest position (Nat.le_refl _) ⟨by omega, List.nil_prefix⟩
  omega

theorem Cuts.of_nil (reserved : List Char) (cuts : Cuts [] text position cut ending)
    (inside : position ≤ text.length + 1) :
    cut.flatMap (Region.escaped reserved) = cut.flatMap Region.text ∧
      ending = if (text.length + position) % 2 = 1 then none else some text.length := by
  induction cuts with
  | @last position clear =>
    have behind := noMark_nil clear
    rw [if_neg (by omega), if_pos (by omega)]
    exact ⟨rfl, rfl⟩
  | @unterminated position start opening alone =>
    have behind := noMark_nil alone
    have place := opening.eq_of_nil
    have bound := opening.inside
    rw [if_neg (by omega)]
    exact ⟨rfl, congrArg some (by omega)⟩
  | @placeholder position start stop cut ending opening closing _ ih =>
    obtain rfl := opening.eq_of_nil
    obtain rfl := closing.eq_of_nil
    have bound := closing.inside
    obtain ⟨same, parity⟩ := ih (by omega)
    refine ⟨?_, ?_⟩
    · simp [Region.escaped, Region.text, same, List.drop_take]
    · rw [parity]
      congr 2
      omega

end Empty

end Cuts

section Usable

variable {reserved : List Text} (usable : Text.Usable reserved)

include usable

theorem escapeAround_of_closed {mark text : Text} {cut : List Region}
    (cuts : Cuts mark text 0 cut none) :
    (escapeAround reserved mark text).result = .ok (cut.flatMap (Region.escaped reserved.flatten)) := by
  rw [escapeAround_of_usable usable, cuts_iff.mp cuts]

theorem escapeAround_of_unterminated {mark text : Text} {cut : List Region} {stop : Nat}
    (cuts : Cuts mark text 0 cut (some stop)) :
    (escapeAround reserved mark text).result = .error (.unterminated stop) := by
  rw [escapeAround_of_usable usable, cuts_iff.mp cuts]

theorem escapeAround_nil (text : Text) :
    (escapeAround reserved [] text).result =
      if text.length % 2 = 1 then .ok text else .error (.unterminated text.length) := by
  have cuts : Cuts [] text 0 _ _ := cuts_iff.mpr rfl
  obtain ⟨same, parity⟩ := cuts.of_nil reserved.flatten (by omega)
  rw [Nat.add_zero] at parity
  by_cases odd : text.length % 2 = 1
  · rw [if_pos odd] at parity ⊢
    rw [parity] at cuts
    rw [escapeAround_of_closed usable cuts, same, cuts.flatMap_text]
  · rw [if_neg odd] at parity ⊢
    rw [parity] at cuts
    exact escapeAround_of_unterminated usable cuts

end Usable

/-- The scan ends in one way only, whatever the mark. -/
theorem escapeAround_cuts {reserved : List Text} (usable : Text.Usable reserved)
    (mark text : Text) :
    ∃ cut ending, regions mark 0 text = (cut, ending) ∧
      (∀ other stop, Cuts mark text 0 other stop ↔ other = cut ∧ stop = ending) ∧
      cut.length ≤ text.length + 2 ∧
      (ending = none → cut.flatMap Region.text = text ∧
        ∃ output, (escapeAround reserved mark text).result = .ok output ∧
          output = cut.flatMap (Region.escaped reserved.flatten) ∧
          Text.Slashed reserved.flatten text output) ∧
      (∀ stop, ending = some stop →
        (escapeAround reserved mark text).result = .error (.unterminated stop) ∧
        ∃ reach, cut.flatMap Region.text = text.take reach ∧ FirstMark mark text reach stop ∧
          NoMark mark text (stop + 1)) ∧
      (escapeAround reserved [] text).result =
        if text.length % 2 = 1 then .ok text else .error (.unterminated text.length) := by
  obtain ⟨cut, ending, found⟩ : ∃ cut ending, regions mark 0 text = (cut, ending) := ⟨_, _, rfl⟩
  have cuts := cuts_iff.mpr found
  refine ⟨cut, ending, found, ?_, cuts.length_le (by omega), ?_, ?_, escapeAround_nil usable text⟩
  · intro other stop
    constructor
    · intro again
      exact again.unique cuts
    · rintro ⟨rfl, rfl⟩
      exact cuts
  · rintro rfl
    have slashed := slashed_flatMap_escaped reserved.flatten cut
    rw [cuts.flatMap_text] at slashed
    exact ⟨cuts.flatMap_text, _, escapeAround_of_closed usable cuts, rfl, slashed⟩
  · rintro stop rfl
    obtain ⟨reach, -, joined, -, stopped⟩ := cuts.joined
    rw [List.drop_zero] at joined
    exact ⟨escapeAround_of_unterminated usable cuts, reach, joined, stopped stop rfl⟩

theorem escapeAround_cuts_overlapping :
    let reserved := [".".toList]
    let text : Text := ".aaa.aa.aa".toList
    let cut : List Region := [.outside ".".toList, .placeholder "aa".toList, .outside "a.".toList,
      .placeholder "aa.a".toList, .outside "a".toList]
    Text.Usable reserved ∧ Cuts "aa".toList text 0 cut none ∧
    (escapeAround reserved "aa".toList text).result = .ok "\\.aaa\\.aa.aa".toList ∧
    Text.Slashed ['.'] text "\\.aaa\\.aa.aa".toList ∧
    (escapeAround reserved "aa".toList "a.aa".toList).result = .error (.unterminated 2) ∧
    (escapeAround reserved [] "a..".toList).result = .ok "a..".toList := by
  intro reserved text cut
  have usable : Text.Usable reserved := by decide
  obtain ⟨parts, ending, found, cuts, -, whole, -⟩ := escapeAround_cuts usable "aa".toList text
  have known : regions "aa".toList 0 text = (cut, none) := by
    simp [text, cut, regions, Text.breakOn?]
  obtain ⟨rfl, rfl⟩ := Prod.mk.inj (found.symm.trans known)
  obtain ⟨-, output, done, rfl, slashed⟩ := whole rfl
  obtain ⟨left, stop, opened, -, -, -, unterminated, -⟩ :=
    escapeAround_cuts usable "aa".toList "a.aa".toList
  have alone : regions "aa".toList 0 "a.aa".toList = ([], some 2) := by
    simp [regions, Text.breakOn?]
  obtain ⟨rfl, rfl⟩ := Prod.mk.inj (opened.symm.trans alone)
  obtain ⟨-, -, -, -, -, -, -, odd⟩ := escapeAround_cuts usable [] "a..".toList
  exact ⟨usable, (cuts _ _).mpr ⟨rfl, rfl⟩, done, slashed, (unterminated 2 rfl).1, odd⟩

end ChatMarkup.Placeholder
