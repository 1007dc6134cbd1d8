import ChatMarkup.Span.Pattern

namespace ChatMarkup.Pattern

def readLink? (text : Text) : Option (Span × Text) :=
  (Text.after? ['['] text).bind fun body =>
    let label := body.spanProtected ']'
    if label.1 = [] then none
    else (Text.after? [']', '('] label.2).bind fun body =>
      let target := body.spanProtected ')'
      if target.1 = [] then none
      else (Text.after? [')'] target.2).map fun rest =>
        (Span.ofWrittenLink label.1 target.1, rest)

theorem append_of_readLink? {text rest : Text} {span : Span}
    (found : readLink? text = some (span, rest)) :
    ∃ label target, span = Span.ofWrittenLink label target ∧ text = span.raw ++ rest := by
  obtain ⟨first, opening, found⟩ := Option.bind_eq_some_iff.mp found
  dsimp only at found
  split at found
  · cases found
  · obtain ⟨second, middle, found⟩ := Option.bind_eq_some_iff.mp found
    split at found
    · cases found
    · obtain ⟨tail, closing, same⟩ := Option.map_eq_some_iff.mp found
      cases same
      refine ⟨_, _, rfl, ?_⟩
      have whole := Text.spanProtected_append ']' first
      have inner := Text.spanProtected_append ')' second
      rw [Text.after?_eq_some_iff.mp closing] at inner
      rw [Text.after?_eq_some_iff.mp middle] at whole
      calc
        text = ['['] ++ first := Text.after?_eq_some_iff.mp opening
        _ = ['['] ++ ((first.spanProtected ']').1 ++ ([']', '('] ++
            ((second.spanProtected ')').1 ++ ([')'] ++ rest)))) := by rw [inner, whole]
        _ = _ := by simp [Span.ofWrittenLink]

def link : Pattern where
  read? _ text := readLink? text
  append_of_read? found := by
    obtain ⟨label, target, same, whole⟩ := append_of_readLink? found
    exact whole
  raw_ne_nil found := by
    obtain ⟨label, target, same, whole⟩ := append_of_readLink? found
    simp [same, Span.ofWrittenLink]

end ChatMarkup.Pattern
