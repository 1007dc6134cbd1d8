import ChatMarkup.Span.Pattern

namespace ChatMarkup.Pattern

def fenced? (text : Text) : Option (Text × Text) :=
  (Text.after? Span.fence text).bind fun body =>
    (Text.breakOn? Span.fence body).map fun (content, closing) =>
      (content, closing.drop Span.fence.length)

theorem append_of_fenced? {text content rest : Text} (found : fenced? text = some (content, rest)) :
    text = Span.fence ++ content ++ Span.fence ++ rest := by
  obtain ⟨body, opening, found⟩ := Option.bind_eq_some_iff.mp found
  obtain ⟨⟨front, closing⟩, cut, same⟩ := Option.map_eq_some_iff.mp found
  obtain ⟨tail, rfl⟩ := Text.breakOn?_prefix cut
  cases same
  rw [Text.after?_eq_some_iff.mp opening, Text.breakOn?_append cut]
  simp

/-- Nonempty text on one line, without `stop`, between two copies of `delimiter`. -/
def enclosed? (delimiter : Text) (stop : Char) (text : Text) : Option (Text × Text) :=
  (Text.after? delimiter text).bind fun body =>
    let inside := fun c => c != stop && c != '\n'
    let content := body.takeWhile inside
    if content = [] then none
    else (Text.after? delimiter (body.dropWhile inside)).map fun rest => (content, rest)

theorem append_of_enclosed? {delimiter text content rest : Text} {stop : Char}
    (found : enclosed? delimiter stop text = some (content, rest)) :
    text = delimiter ++ content ++ delimiter ++ rest ∧ content ≠ [] := by
  obtain ⟨body, opening, found⟩ := Option.bind_eq_some_iff.mp found
  dsimp only at found
  split at found
  · cases found
  · rename_i filled
    obtain ⟨tail, closing, same⟩ := Option.map_eq_some_iff.mp found
    cases same
    refine ⟨?_, filled⟩
    have whole := List.takeWhile_append_dropWhile (p := fun c => c != stop && c != '\n') (l := body)
    rw [Text.after?_eq_some_iff.mp closing] at whole
    rw [Text.after?_eq_some_iff.mp opening, List.append_assoc, List.append_assoc, whole]

def ofContent (kind : Span.Kind) (delimiter : Text) (filled : delimiter ≠ [])
    (read? : Option Char → Text → Option (Text × Text))
    (append_of_read? : ∀ {before text content rest}, read? before text = some (content, rest) →
      text = delimiter ++ content ++ delimiter ++ rest) : Pattern where
  read? before text :=
    (read? before text).map fun (content, rest) => (Span.enclosed kind delimiter content, rest)
  append_of_read? found := by
    obtain ⟨⟨content, rest⟩, read, same⟩ := Option.map_eq_some_iff.mp found
    cases same
    exact append_of_read? read
  raw_ne_nil found := by
    obtain ⟨⟨content, rest⟩, read, same⟩ := Option.map_eq_some_iff.mp found
    cases same
    simp [Span.enclosed, filled]

def codeBlock : Pattern :=
  ofContent .codeBlock Span.fence (by decide) (fun _ text => fenced? text) append_of_fenced?

def inlineCode : Pattern :=
  ofContent .inlineCode Span.backtick (by decide) (fun _ text => enclosed? Span.backtick '\x60' text)
    fun found => (append_of_enclosed? found).1

def bold : Pattern :=
  ofContent .bold ['*', '*'] (by decide) (fun _ text => enclosed? ['*', '*'] '*' text)
    fun found => (append_of_enclosed? found).1

def loneAsterisks? (before : Option Char) (text : Text) : Option (Text × Text) :=
  if before = some '*' then none
  else (enclosed? ['*'] '*' text).filter fun (_, rest) => rest.head? ≠ some '*'

def asteriskItalic : Pattern :=
  ofContent .italic ['*'] (by decide) loneAsterisks? fun found => by
    unfold loneAsterisks? at found
    split at found
    · cases found
    · exact (append_of_enclosed? (Option.filter_eq_some_iff.mp found).1).1

def underscoreItalic : Pattern :=
  ofContent .italic ['_'] (by decide) (fun _ text => enclosed? ['_'] '_' text)
    fun found => (append_of_enclosed? found).1

end ChatMarkup.Pattern
