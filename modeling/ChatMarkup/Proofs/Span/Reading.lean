import ChatMarkup.Proofs.Text.Cut
import ChatMarkup.Span.Segments

namespace ChatMarkup.Pattern

theorem fenced?_append {text content rest : Text} (read : fenced? text = some (content, rest))
    (more : Text) : fenced? (text ++ more) = some (content, rest ++ more) := by
  obtain ⟨body, opening, read⟩ := Option.bind_eq_some_iff.mp read
  obtain ⟨⟨front, closing⟩, cut, same⟩ := Option.map_eq_some_iff.mp read
  cases same
  obtain ⟨tail, rfl⟩ := Text.breakOn?_prefix cut
  rw [fenced?, Text.after?_append opening, Option.bind_some, Text.breakOn?_append_right cut]
  simp

theorem fenced?_nearest {text content rest : Text} (read : fenced? text = some (content, rest)) :
    Text.breakOn? Span.fence (content ++ Span.fence) = some (content, Span.fence) := by
  obtain ⟨body, opening, read⟩ := Option.bind_eq_some_iff.mp read
  obtain ⟨⟨front, closing⟩, cut, same⟩ := Option.map_eq_some_iff.mp read
  cases same
  obtain ⟨tail, rfl⟩ := Text.breakOn?_prefix cut
  apply Text.breakOn?_append_left
  rw [List.append_assoc, ← Text.breakOn?_append cut]
  exact cut

theorem fenced?_eq_some_iff {text content rest : Text} :
    fenced? text = some (content, rest) ↔
      text = Span.fence ++ content ++ Span.fence ++ rest ∧
        Text.breakOn? Span.fence (content ++ Span.fence) = some (content, Span.fence) := by
  constructor
  · exact fun read => ⟨append_of_fenced? read, fenced?_nearest read⟩
  · rintro ⟨rfl, nearest⟩
    have opening : Text.after? Span.fence (Span.fence ++ content ++ Span.fence ++ rest) =
        some (content ++ Span.fence ++ rest) := Text.after?_eq_some_iff.mpr (by simp)
    rw [fenced?, opening, Option.bind_some, Text.breakOn?_append_right nearest, Option.map_some]
    dsimp only
    rw [List.drop_left]

theorem fenced?_isSome_iff {text : Text} :
    (fenced? text).isSome ↔ ∃ body, text = Span.fence ++ body ∧ Span.fence <:+: body := by
  rw [fenced?, Option.isSome_bind, Option.any_eq_true]
  simp only [Text.after?_eq_some_iff, Option.isSome_map, Option.isSome_iff_ne_none, ne_eq,
    Text.breakOn?_eq_none_iff, Classical.not_not]

theorem enclosed?_append {delimiter text content rest : Text} {stop : Char} (filled : delimiter ≠ [])
    (read : enclosed? delimiter stop text = some (content, rest)) (more : Text) :
    enclosed? delimiter stop (text ++ more) = some (content, rest ++ more) := by
  obtain ⟨body, opening, read⟩ := Option.bind_eq_some_iff.mp read
  dsimp only at read
  split at read
  · cases read
  · rename_i inner
    obtain ⟨tail, closing, same⟩ := Option.map_eq_some_iff.mp read
    cases same
    have left : body.dropWhile (fun c => c != stop && c != '\n') ≠ [] := by
      rw [Text.after?_eq_some_iff.mp closing]
      simp [filled]
    have short : (body.takeWhile (fun c => c != stop && c != '\n')).length ≠ body.length := by
      intro same
      have whole := congrArg List.length
        (List.takeWhile_append_dropWhile (p := fun c => c != stop && c != '\n') (l := body))
      rw [List.length_append, same] at whole
      exact left (List.length_eq_zero_iff.mp (by omega))
    rw [enclosed?, Text.after?_append opening, Option.bind_some]
    simp only [List.takeWhile_append, List.dropWhile_append, if_neg short, List.isEmpty_iff,
      if_neg left, if_neg inner, Text.after?_append closing, Option.map_some]

theorem enclosed?_inside {delimiter text content rest : Text} {stop : Char}
    (read : enclosed? delimiter stop text = some (content, rest)) :
    ∀ c ∈ content, c ≠ stop ∧ c ≠ '\n' := by
  obtain ⟨body, _, read⟩ := Option.bind_eq_some_iff.mp read
  dsimp only at read
  split at read
  · cases read
  · obtain ⟨tail, _, same⟩ := Option.map_eq_some_iff.mp read
    cases same
    intro c member
    have kept := List.all_eq_true.mp List.all_takeWhile c member
    simpa using kept

theorem enclosed?_eq_some_iff {mark : Char} {others text content rest : Text} :
    enclosed? (mark :: others) mark text = some (content, rest) ↔
      text = mark :: others ++ content ++ mark :: others ++ rest ∧ content ≠ [] ∧
        ∀ c ∈ content, c ≠ mark ∧ c ≠ '\n' := by
  constructor
  · intro read
    obtain ⟨whole, filled⟩ := append_of_enclosed? read
    exact ⟨whole, filled, enclosed?_inside read⟩
  · rintro ⟨rfl, filled, inside⟩
    have opening : Text.after? (mark :: others) (mark :: others ++ content ++ mark :: others ++ rest) =
        some (content ++ (mark :: others ++ rest)) := Text.after?_eq_some_iff.mpr (by simp)
    have closing : Text.after? (mark :: others) (mark :: others ++ rest) = some rest :=
      Text.after?_eq_some_iff.mpr rfl
    have proper : ∀ c ∈ content, (c != mark && c != '\n') = true := by simpa using inside
    rw [enclosed?, opening, Option.bind_some]
    dsimp only
    rw [List.takeWhile_append_of_pos proper, List.dropWhile_append_of_pos proper]
    simp only [List.cons_append, List.takeWhile_cons, List.dropWhile_cons] at closing ⊢
    simp [filled, closing]

theorem loneAsterisks?_eq_some_iff {before : Option Char} {text content rest : Text} :
    loneAsterisks? before text = some (content, rest) ↔
      before ≠ some '*' ∧ enclosed? ['*'] '*' text = some (content, rest) ∧ rest.head? ≠ some '*' := by
  unfold loneAsterisks?
  split
  · rename_i touching
    simp [touching]
  · rename_i free
    simp [free, Option.filter_eq_some_iff]

theorem readLink?_append {text rest : Text} {unit : Span} (read : readLink? text = some (unit, rest))
    (more : Text) : readLink? (text ++ more) = some (unit, rest ++ more) := by
  obtain ⟨first, opening, read⟩ := Option.bind_eq_some_iff.mp read
  dsimp only at read
  split at read
  · cases read
  · rename_i label
    obtain ⟨second, middle, read⟩ := Option.bind_eq_some_iff.mp read
    split at read
    · cases read
    · rename_i target
      obtain ⟨tail, closing, same⟩ := Option.map_eq_some_iff.mp read
      cases same
      have labelEnd := Text.after?_eq_some_iff.mp middle
      have targetEnd := Text.after?_eq_some_iff.mp closing
      have longLabel := Text.spanProtected_append_right (by decide) labelEnd more
      have longTarget := Text.spanProtected_append_right (by decide) targetEnd more
      rw [readLink?, Text.after?_append opening, Option.bind_some]
      simp only [longLabel, if_neg label, Text.after?_append middle, Option.bind_some, longTarget,
        if_neg target, Text.after?_append closing, Option.map_some]

theorem readLink?_ofWrittenLink {label target : Text} (named : label ≠ []) (placed : target ≠ [])
    (labelRun : label.spanProtected ']' = (label, []))
    (targetRun : target.spanProtected ')' = (target, [])) (rest : Text) :
    readLink? ((Span.ofWrittenLink label target).raw ++ rest) =
      some (Span.ofWrittenLink label target, rest) := by
  have opening : Text.after? ['['] ((Span.ofWrittenLink label target).raw ++ rest) =
      some (label ++ ']' :: '(' :: (target ++ ')' :: rest)) :=
    Text.after?_eq_some_iff.mpr (by simp [Span.ofWrittenLink])
  have middle (body : Text) : Text.after? [']', '('] (']' :: '(' :: body) = some body :=
    Text.after?_eq_some_iff.mpr rfl
  have closing : Text.after? [')'] (')' :: rest) = some rest := Text.after?_eq_some_iff.mpr rfl
  rw [readLink?, opening, Option.bind_some]
  simp only [Text.spanProtected_of_run (by decide) labelRun, if_neg named, middle, Option.bind_some,
    Text.spanProtected_of_run (by decide) targetRun, if_neg placed, closing, Option.map_some]

end ChatMarkup.Pattern
