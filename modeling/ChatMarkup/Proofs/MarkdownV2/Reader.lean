import ChatMarkup.Proofs.Text.Cut
import ChatMarkup.Span.Basic
import ChatMarkup.Style.Basic

namespace ChatMarkup.MarkdownV2

/-- What a reader of MarkdownV2 finds in a message. -/
inductive Item where
  | plain (text : Text)
  | codeBlock (raw : Text)
  | inlineCode (raw : Text)
  | bold (content : Text)
  | italic (content : Text)
  | link (label target : Text)
  deriving DecidableEq, Repr

def Item.join : Item → List Item → List Item
  | .plain text, .plain more :: rest => .plain (text ++ more) :: rest
  | item, rest => item :: rest

def unescapedTo? (closer : Char) : Text → Option (Text × Text)
  | [] => none
  | '\\' :: c :: rest => (unescapedTo? closer rest).map fun (inner, after) => (c :: inner, after)
  | c :: rest =>
    if c = closer then some ([], rest)
    else (unescapedTo? closer rest).map fun (inner, after) => (c :: inner, after)

def verbatimTo? (mark text : Text) : Option (Text × Text) :=
  (Text.breakOn? mark text).map fun (inner, closing) =>
    (mark ++ inner ++ mark, closing.drop mark.length)

def linkParts? (text : Text) : Option (Item × Text) :=
  (unescapedTo? ']' text).bind fun (label, after) =>
    (Text.after? ['('] after).bind fun body =>
      (unescapedTo? ')' body).map fun (target, rest) => (.link label target, rest)

def code? (text : Text) : Option (Item × Text) :=
  match Text.after? ['\x60', '\x60'] text with
  | some body => (verbatimTo? Span.fence body).map fun (raw, rest) => (.codeBlock raw, rest)
  | none => (verbatimTo? Span.backtick text).map fun (raw, rest) => (.inlineCode raw, rest)

def item? (c : Char) (text : Text) : Option (Item × Text) :=
  if c = '\\' then
    match text with
    | [] => none
    | d :: rest => some (.plain [d], rest)
  else if c = '\x60' then code? text
  else if c = '*' then (unescapedTo? '*' text).map fun (content, rest) => (.bold content, rest)
  else if c = '_' then (unescapedTo? '_' text).map fun (content, rest) => (.italic content, rest)
  else if c = '[' then linkParts? text
  else if c ∈ Style.markdownV2Reserved then none
  else some (.plain [c], text)

theorem unescapedTo?_suffix {closer : Char} {text inner after : Text}
    (read : unescapedTo? closer text = some (inner, after)) : after <:+ text := by
  fun_induction unescapedTo? closer text generalizing inner with
  | case1 => cases read
  | case2 c rest ih =>
    obtain ⟨⟨front, back⟩, found, same⟩ := Option.map_eq_some_iff.mp read
    cases same
    exact ((ih found).trans (List.suffix_cons c rest)).trans (List.suffix_cons '\\' (c :: rest))
  | case3 rest single =>
    cases read
    exact List.suffix_cons _ _
  | case4 c rest single other ih =>
    obtain ⟨⟨front, back⟩, found, same⟩ := Option.map_eq_some_iff.mp read
    cases same
    exact (ih found).trans (List.suffix_cons c rest)

theorem verbatimTo?_suffix {mark text raw after : Text}
    (read : verbatimTo? mark text = some (raw, after)) : after <:+ text := by
  obtain ⟨⟨inner, closing⟩, cut, same⟩ := Option.map_eq_some_iff.mp read
  cases same
  rw [Text.breakOn?_append cut]
  exact (List.drop_suffix _ _).trans (List.suffix_append _ _)

theorem linkParts?_suffix {text rest : Text} {item : Item}
    (read : linkParts? text = some (item, rest)) : rest <:+ text := by
  obtain ⟨⟨label, after⟩, first, read⟩ := Option.bind_eq_some_iff.mp read
  obtain ⟨body, middle, read⟩ := Option.bind_eq_some_iff.mp read
  obtain ⟨⟨target, back⟩, second, same⟩ := Option.map_eq_some_iff.mp read
  cases same
  exact (unescapedTo?_suffix second).trans ((Text.after?_suffix middle).trans (unescapedTo?_suffix first))

theorem code?_suffix {text rest : Text} {item : Item} (read : code? text = some (item, rest)) :
    rest <:+ text := by
  unfold code? at read
  split at read
  · rename_i body opening
    obtain ⟨⟨raw, back⟩, found, same⟩ := Option.map_eq_some_iff.mp read
    cases same
    exact (verbatimTo?_suffix found).trans (Text.after?_suffix opening)
  · obtain ⟨⟨raw, back⟩, found, same⟩ := Option.map_eq_some_iff.mp read
    cases same
    exact verbatimTo?_suffix found

theorem item?_suffix {c : Char} {text rest : Text} {item : Item}
    (read : item? c text = some (item, rest)) : rest <:+ text := by
  unfold item? at read
  split at read
  · split at read
    · cases read
    · cases read
      exact List.suffix_cons _ _
  split at read
  · exact code?_suffix read
  split at read
  · obtain ⟨⟨content, back⟩, found, same⟩ := Option.map_eq_some_iff.mp read
    cases same
    exact unescapedTo?_suffix found
  split at read
  · obtain ⟨⟨content, back⟩, found, same⟩ := Option.map_eq_some_iff.mp read
    cases same
    exact unescapedTo?_suffix found
  split at read
  · exact linkParts?_suffix read
  split at read
  · cases read
  · cases read
    exact List.suffix_refl _

def read? (text : Text) : Option (List Item) :=
  match text with
  | [] => some []
  | c :: cs =>
    match _found : item? c cs with
    | none => none
    | some (item, rest) => (read? rest).map item.join
termination_by text.length
decreasing_by
  have shorter := (item?_suffix _found).length_le
  simp only [List.length_cons]
  omega

@[simp] theorem read?_nil : read? [] = some [] := by
  rw [read?]

theorem read?_cons {c : Char} {cs rest : Text} {item : Item}
    (found : item? c cs = some (item, rest)) :
    read? (c :: cs) = (read? rest).map item.join := by
  rw [read?]
  split <;> rename_i other <;> rw [found] at other <;> cases other
  rfl

example : read? "a\\.b*c\\*d*".toList = some [.plain "a.b".toList, .bold "c*d".toList] := by
  decide +kernel

example : read? "a.b".toList = none := by decide +kernel

end ChatMarkup.MarkdownV2
