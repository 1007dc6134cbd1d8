import ChatMarkup.Proofs.Span.Rendering

namespace ChatMarkup.Span

open Segment

def angled (target label : Text) : Text := '<' :: target ++ '|' :: label ++ ['>']

def Shifted (target label other more : Text) : Prop :=
  ∃ middle, other = target ++ '|' :: middle ∧ label = middle ++ '|' :: more

def readAngled? (text : Text) : Option (Text × Text) :=
  (Text.after? ['<'] text).bind fun body =>
    (Text.breakOn? ['|'] body).map fun (target, rest) => (target, rest.tail.dropLast)

theorem Shifted.count_lt {target label other more : Text} (shifted : Shifted target label other more) :
    target.count '|' < other.count '|' := by
  obtain ⟨middle, rfl, _⟩ := shifted
  rw [List.count_append, List.count_cons_self]
  omega

theorem Shifted.angled_eq {target label other more : Text}
    (shifted : Shifted target label other more) : angled target label = angled other more := by
  obtain ⟨middle, rfl, rfl⟩ := shifted
  simp [angled]

theorem angled_eq_iff {target label other more : Text} :
    angled target label = angled other more ↔
      target = other ∧ label = more ∨ Shifted target label other more ∨
        Shifted other more target label := by
  constructor
  · intro same
    have parts : target ++ '|' :: label = other ++ '|' :: more :=
      (List.cons.inj (List.append_cancel_right same)).2
    -- the longer target goes on with the bar that ends the shorter one
    rcases List.append_eq_append_iff.mp parts with ⟨back, whole, rest⟩ | ⟨back, whole, rest⟩
    · cases back with
      | nil => exact .inl ⟨by simp [whole], (List.cons.inj rest).2⟩
      | cons c middle =>
        obtain ⟨rfl, behind⟩ := List.cons.inj rest
        exact .inr (.inl ⟨middle, whole, behind⟩)
    · cases back with
      | nil => exact .inl ⟨by simp [whole], (List.cons.inj rest).2.symm⟩
      | cons c middle =>
        obtain ⟨rfl, behind⟩ := List.cons.inj rest
        exact .inr (.inr ⟨middle, whole, behind⟩)
  · rintro (⟨rfl, rfl⟩ | shifted | shifted)
    · rfl
    · exact shifted.angled_eq
    · exact shifted.angled_eq.symm

theorem readAngled?_angled_iff {target label : Text} :
    readAngled? (angled target label) = some (target, label) ↔ '|' ∉ target := by
  have body : Text.after? ['<'] (angled target label) = some (target ++ '|' :: (label ++ ['>'])) := by
    rw [Text.after?_eq_some_iff]
    simp [angled]
  rw [readAngled?, body, Option.bind_some]
  constructor
  · intro read
    obtain ⟨⟨front, rest⟩, cut, same⟩ := Option.map_eq_some_iff.mp read
    obtain ⟨rfl, -⟩ := Prod.mk.inj same
    rw [← Text.breakOn?_eq_none_iff_not_mem, Text.breakOn?_eq_none_iff]
    exact Text.breakOn?_not_infix (List.cons_ne_nil _ _) cut
  · intro free
    rw [Text.breakOn?_mark free, Option.map_some]
    dsimp only
    rw [List.tail_cons, List.dropLast_concat]

theorem Grammar.render_slack_link {unit : Span} (grammar : unit.Grammar) (link : unit.kind = .link) :
    ∃ target, unit.url = some target ∧ unit.render .slack = .ok (angled target unit.content) := by
  have rendered := grammar.render_eq (.inl rfl : Text.Usable Style.slack.reserved)
  cases grammar with
  | codeBlock | inlineCode | bold | italic => cases link
  | link => exact ⟨_, rfl, rendered⟩

/-- Different links for Slack read the same only if one target goes on with a bar where the other ends. -/
theorem slack_links_eq_iff {left right : Text} {one other : Span} (first : .span one ∈ segments left)
    (second : .span other ∈ segments right) (link : one.kind = .link) (alsoLink : other.kind = .link) :
    ∃ target more, one.url = some target ∧ other.url = some more ∧
      (one.render .slack = other.render .slack ↔
        target = more ∧ one.content = other.content ∨
        Shifted target one.content more other.content ∨
        Shifted more other.content target one.content) ∧
      (target.count '|' = more.count '|' → one.render .slack = other.render .slack →
        target = more ∧ one.content = other.content) ∧
      ∃ rendered, one.render .slack = .ok rendered ∧
        (readAngled? rendered = some (target, one.content) ↔ '|' ∉ target) := by
  obtain ⟨target, url, rendered⟩ := (segments_grammar first).render_slack_link link
  obtain ⟨more, otherUrl, otherRendered⟩ := (segments_grammar second).render_slack_link alsoLink
  have same : one.render .slack = other.render .slack ↔
      angled target one.content = angled more other.content := by
    rw [rendered, otherRendered, Except.ok.injEq]
  rw [angled_eq_iff] at same
  refine ⟨target, more, url, otherUrl, same, ?_, _, rendered, readAngled?_angled_iff⟩
  intro bars equal
  rcases same.mp equal with parts | shifted | shifted
  · exact parts
  · exact absurd bars (Nat.ne_of_lt shifted.count_lt)
  · exact absurd bars (Nat.ne_of_gt shifted.count_lt)

theorem slack_links_eq_iff_bars :
    let one : Span := .ofWrittenLink "a|b".toList "u".toList
    let other : Span := .ofWrittenLink "b".toList "u|a".toList
    let third : Span := .ofWrittenLink "|".toList "u|a\\)".toList
    .span one ∈ segments "[a|b](u)".toList ∧ .span other ∈ segments "*x* [b](u|a)".toList ∧
    .span third ∈ segments "[|](u|a\\))".toList ∧ one.kind = .link ∧ other.kind = .link ∧
    third.kind = .link ∧ one.render .slack = other.render .slack ∧
    other.render .slack ≠ third.render .slack ∧
    ∃ rendered, one.render .slack = .ok rendered ∧
      readAngled? rendered = some ("u".toList, "a|b".toList) := by
  intro one other third
  have first : .span one ∈ segments "[a|b](u)".toList := by decide +kernel
  have second : .span other ∈ segments "*x* [b](u|a)".toList := by decide +kernel
  have last : .span third ∈ segments "[|](u|a\\))".toList := by decide +kernel
  obtain ⟨target, more, url, otherUrl, same, -, rendered, written, read⟩ :=
    slack_links_eq_iff first second rfl rfl
  obtain ⟨_, _, left, right, -, apart, -⟩ := slack_links_eq_iff second last rfl rfl
  cases url
  cases otherUrl
  cases left
  cases right
  refine ⟨first, second, last, rfl, rfl, rfl, same.mpr (.inr (.inl ⟨"a".toList, rfl, rfl⟩)), ?_,
    rendered, written, read.mpr (by decide)⟩
  intro equal
  have parts := apart (by decide) equal
  revert parts
  decide

/-- A bar in the label of one link and a bar in the target of another make them read the same. -/
theorem slack_links_ambiguous :
    ¬ ∀ (left right : Text) (one other : Span), .span one ∈ segments left →
      .span other ∈ segments right → one.kind = .link → other.kind = .link →
      one.render .slack = other.render .slack → one.url = other.url ∧ one.content = other.content := by
  intro unambiguous
  have first : .span (.ofWrittenLink "a|b".toList ['u']) ∈ segments "[a|b](u)".toList := by
    decide +kernel
  have second : .span (.ofWrittenLink ['b'] "u|a".toList) ∈ segments "[b](u|a)".toList := by
    decide +kernel
  have same := unambiguous _ _ _ _ first second rfl rfl rfl
  revert same
  decide

end ChatMarkup.Span
