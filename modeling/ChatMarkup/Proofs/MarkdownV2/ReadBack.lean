import ChatMarkup.Proofs.Convert.Own
import ChatMarkup.Proofs.MarkdownV2.Reader

namespace ChatMarkup

namespace MarkdownV2

open Style (markdownV2Reserved)

def Item.ofSegment? : Segment → Option Item
  | .plain text => some (.plain text)
  | .span unit =>
    match unit.kind with
    | .codeBlock => some (.codeBlock unit.raw)
    | .inlineCode => some (.inlineCode unit.raw)
    | .bold => some (.bold unit.content)
    | .italic => some (.italic unit.content)
    | .link => unit.url.map (.link unit.content)
    | .other _ => none

def Item.isPlain : Item → Bool
  | .plain _ => true
  | _ => false

theorem Item.join_of_not_plain {item : Item} (marked : item.isPlain = false) (items : List Item) :
    item.join items = item :: items := by
  cases item with
  | plain => cases marked
  | codeBlock | inlineCode | bold | italic | link => rfl

theorem Item.join_of_head_not_plain (item : Item) {items : List Item}
    (apart : ∀ first ∈ items.head?, first.isPlain = false) : item.join items = item :: items := by
  cases items with
  | nil => cases item <;> rfl
  | cons first items =>
    have marked := apart first rfl
    cases first with
    | plain => cases marked
    | codeBlock | inlineCode | bold | italic | link => cases item <;> rfl

theorem unescapedTo?_cons (closer : Char) {c : Char} (visible : c ≠ '\\') (rest : Text) :
    unescapedTo? closer (c :: rest) =
      if c = closer then some ([], rest)
      else (unescapedTo? closer rest).map fun (inner, after) => (c :: inner, after) := by
  rw [unescapedTo?]
  exact fun _ _ same _ => visible same

theorem unescapedTo?_escapeChars {closer : Char} {reserved : List Char} (known : closer ∈ reserved)
    (proper : closer ≠ '\\') {content : Text} (visible : '\\' ∉ content) (rest : Text) :
    unescapedTo? closer (Text.escapeChars reserved content ++ closer :: rest) =
      some (content, rest) := by
  induction content with
  | nil => rw [Text.escapeChars_nil, List.nil_append, unescapedTo?_cons closer proper, if_pos rfl]
  | cons c content ih =>
    obtain ⟨own, others⟩ := not_or.mp (mt List.mem_cons.mpr visible)
    rw [Text.escapeChars_cons reserved (Ne.symm own)]
    split
    · rw [List.cons_append, List.cons_append, unescapedTo?, ih others]
      rfl
    · rename_i free
      have inside : c ≠ closer := fun same => free (same ▸ known)
      rw [List.cons_append, unescapedTo?_cons closer (Ne.symm own), if_neg inside, ih others]
      rfl

theorem item?_escaped (c : Char) (rest : Text) : item? '\\' (c :: rest) = some (.plain [c], rest) := rfl

theorem item?_of_not_mem {c : Char} (visible : c ≠ '\\') (free : c ∉ markdownV2Reserved) (rest : Text) :
    item? c rest = some (.plain [c], rest) := by
  have opener : ∀ mark ∈ markdownV2Reserved, c ≠ mark := fun mark known same => free (same ▸ known)
  unfold item?
  rw [if_neg visible, if_neg (opener '\x60' (by decide)), if_neg (opener '*' (by decide)),
    if_neg (opener '_' (by decide)), if_neg (opener '[' (by decide)), if_neg free]

theorem read?_escapeChars {piece rest : Text} {items : List Item} (filled : piece ≠ [])
    (visible : '\\' ∉ piece) (apart : ∀ first ∈ items.head?, first.isPlain = false)
    (read : read? rest = some items) :
    read? (Text.escapeChars markdownV2Reserved piece ++ rest) = some (.plain piece :: items) := by
  induction piece with
  | nil => exact absurd rfl filled
  | cons c piece ih =>
    obtain ⟨own, others⟩ := not_or.mp (mt List.mem_cons.mpr visible)
    have single : read? (Text.escapeChars markdownV2Reserved (c :: piece) ++ rest) =
        (read? (Text.escapeChars markdownV2Reserved piece ++ rest)).map (Item.plain [c]).join := by
      rw [Text.escapeChars_cons markdownV2Reserved (Ne.symm own)]
      split
      · exact read?_cons (item?_escaped c _)
      · rename_i free
        exact read?_cons (item?_of_not_mem (Ne.symm own) free _)
    rw [single]
    cases piece with
    | nil =>
      rw [Text.escapeChars_nil, List.nil_append, read, Option.map_some,
        Item.join_of_head_not_plain _ apart]
    | cons d piece =>
      rw [ih (by simp) others]
      rfl

theorem code?_block {content : Text}
    (nearest : Text.breakOn? Span.fence (content ++ Span.fence) = some (content, Span.fence))
    (rest : Text) :
    code? ('\x60' :: '\x60' :: (content ++ Span.fence ++ rest)) =
      some (.codeBlock (Span.fence ++ content ++ Span.fence), rest) := by
  have opening : Text.after? ['\x60', '\x60'] ('\x60' :: '\x60' :: (content ++ Span.fence ++ rest)) =
      some (content ++ Span.fence ++ rest) := Text.after?_eq_some_iff.mpr rfl
  have closing := Text.breakOn?_append_right nearest rest
  simp only [code?, opening, verbatimTo?, closing, Option.map_some, List.drop_left]

theorem code?_inline {content : Text} (filled : content ≠ []) (inside : '\x60' ∉ content)
    (rest : Text) :
    code? (content ++ Span.backtick ++ rest) =
      some (.inlineCode (Span.backtick ++ content ++ Span.backtick), rest) := by
  have single : Text.after? ['\x60', '\x60'] (content ++ Span.backtick ++ rest) = none := by
    obtain ⟨c, content, rfl⟩ := List.exists_cons_of_ne_nil filled
    rw [List.mem_cons, not_or] at inside
    rw [Text.after?, if_neg]
    exact fun front => inside.1 (List.cons_prefix_cons.mp front).1
  have closing : Text.breakOn? Span.backtick (content ++ Span.backtick ++ rest) =
      some (content, Span.backtick ++ rest) := Text.breakOn?_cons inside [] rest
  simp only [code?, single, verbatimTo?, closing, Option.map_some, List.drop_left]

theorem linkParts?_escapeChars {reserved locked : List Char} (brackets : ']' ∈ reserved)
    (parentheses : ')' ∈ locked) {label target : Text} (named : '\\' ∉ label)
    (placed : '\\' ∉ target) (rest : Text) :
    linkParts? (Text.escapeChars reserved label ++ ']' :: '(' ::
      (Text.escapeChars locked target ++ ')' :: rest)) = some (.link label target, rest) := by
  have opening (body : Text) : Text.after? ['('] ('(' :: body) = some body :=
    Text.after?_eq_some_iff.mpr rfl
  rw [linkParts?, unescapedTo?_escapeChars brackets (by decide) named]
  simp only [Option.bind_some, opening, unescapedTo?_escapeChars parentheses (by decide) placed,
    Option.map_some]

theorem item?_code (text : Text) : item? '\x60' text = code? text := by
  simp [item?]

theorem item?_bold {content : Text} (visible : '\\' ∉ content) (rest : Text) :
    item? '*' (Text.escapeChars markdownV2Reserved content ++ '*' :: rest) =
      some (.bold content, rest) := by
  simp [item?, unescapedTo?_escapeChars (by decide : '*' ∈ markdownV2Reserved) (by decide) visible]

theorem item?_italic {content : Text} (visible : '\\' ∉ content) (rest : Text) :
    item? '_' (Text.escapeChars markdownV2Reserved content ++ '_' :: rest) =
      some (.italic content, rest) := by
  simp [item?, unescapedTo?_escapeChars (by decide : '_' ∈ markdownV2Reserved) (by decide) visible]

theorem item?_link (text : Text) : item? '[' text = linkParts? text := by
  simp [item?]

def telegram (escapesUrl : Bool) : Style := { Style.telegram with escapesUrl }

theorem telegram_usable (escapesUrl : Bool) : Text.Usable (telegram escapesUrl).reserved := by
  cases escapesUrl <;> decide

theorem flatten_reserved_telegram (escapesUrl : Bool) :
    (telegram escapesUrl).reserved.flatten = markdownV2Reserved := rfl

@[simp] theorem boldDelimiter_telegram (escapesUrl : Bool) :
    (telegram escapesUrl).boldDelimiter = ['*'] := rfl

@[simp] theorem italicDelimiter_telegram (escapesUrl : Bool) :
    (telegram escapesUrl).italicDelimiter = ['_'] := rfl

@[simp] theorem linkForm_telegram (escapesUrl : Bool) : (telegram escapesUrl).linkForm = .inline := rfl

@[simp] theorem writtenContent_telegram (escapesUrl : Bool) (content : Text) :
    Span.writtenContent (telegram escapesUrl) content =
      Text.escapeChars markdownV2Reserved content := rfl

@[simp] theorem writtenTarget_telegram (escapesUrl : Bool) (target : Text) :
    Span.writtenTarget (telegram escapesUrl) target =
      Text.escapeChars (if escapesUrl then markdownV2Reserved else [')']) target := rfl

theorem read?_written (escapesUrl : Bool) {unit : Span} (grammar : unit.Grammar)
    (visible : '\\' ∉ unit.raw) :
    ∃ item, Item.ofSegment? (.span unit) = some item ∧ item.isPlain = false ∧
      ∀ rest, read? (unit.written (telegram escapesUrl) ++ rest) = (read? rest).map item.join := by
  have visibleContent : '\\' ∉ unit.content := fun member => visible (grammar.content_mem member)
  have visibleTarget : '\\' ∉ unit.url.getD [] := fun member => visible (grammar.url_mem member)
  cases grammar with
  | @codeBlock content nearest =>
    refine ⟨_, rfl, rfl, fun rest => ?_⟩
    have found := (item?_code _).trans (code?_block nearest rest)
    simpa [Span.written, Span.enclosed, Span.fence] using read?_cons found
  | @inlineCode content filled inside =>
    refine ⟨_, rfl, rfl, fun rest => ?_⟩
    have apart : '\x60' ∉ content := fun member => (inside '\x60' member).1 rfl
    have found := (item?_code _).trans (code?_inline filled apart rest)
    simpa [Span.written, Span.enclosed, Span.backtick] using read?_cons found
  | @bold content =>
    refine ⟨_, rfl, rfl, fun rest => ?_⟩
    have found := item?_bold visibleContent rest
    simpa [Span.written, Span.enclosed] using read?_cons found
  | @italic mark content =>
    refine ⟨_, rfl, rfl, fun rest => ?_⟩
    have found := item?_italic visibleContent rest
    simpa [Span.written, Span.enclosed] using read?_cons found
  | @link label target =>
    refine ⟨_, rfl, rfl, fun rest => ?_⟩
    have parentheses : ')' ∈ if escapesUrl then markdownV2Reserved else [')'] := by
      cases escapesUrl <;> decide
    have found := (item?_link _).trans (linkParts?_escapeChars (by decide : ']' ∈ markdownV2Reserved)
      parentheses visibleContent visibleTarget rest)
    simpa [Span.written, Span.ofWrittenLink] using read?_cons found

theorem read?_segments (escapesUrl : Bool) {segments : List Segment} (tight : Segment.Tight segments)
    (grammar : ∀ unit, .span unit ∈ segments → unit.Grammar)
    (visible : '\\' ∉ Segment.source segments) :
    ∃ items, segments.mapM Item.ofSegment? = some items ∧
      (Segment.startsPlain segments = false → ∀ first ∈ items.head?, first.isPlain = false) ∧
      read? (segments.flatMap fun segment => Segment.rawWith (Span.written (telegram escapesUrl))
        (segment.escapePlain markdownV2Reserved)) = some items := by
  induction tight with
  | nil => exact ⟨[], rfl, by simp, by simp⟩
  | @span unit segments filled others ih =>
    rw [Segment.source_cons, List.mem_append, not_or] at visible
    obtain ⟨items, kept, _, read⟩ :=
      ih (fun unit member => grammar unit (List.mem_cons_of_mem _ member)) visible.2
    obtain ⟨item, same, marked, front⟩ :=
      read?_written escapesUrl (grammar unit List.mem_cons_self) visible.1
    refine ⟨item :: items, by simp [List.mapM_cons, same, kept], fun _ => by simpa using marked, ?_⟩
    rw [List.flatMap_cons, Segment.escapePlain, Segment.rawWith, front, read, Option.map_some,
      Item.join_of_not_plain marked]
  | @plain piece segments filled apart others ih =>
    rw [Segment.source_cons, List.mem_append, not_or] at visible
    obtain ⟨items, kept, heads, read⟩ :=
      ih (fun unit member => grammar unit (List.mem_cons_of_mem _ member)) visible.2
    refine ⟨.plain piece :: items, by simp [List.mapM_cons, Item.ofSegment?, kept], by simp, ?_⟩
    rw [List.flatMap_cons]
    exact read?_escapeChars filled visible.1 (heads apart) read

theorem not_leaks_telegram (escapesUrl : Bool) {text : Text} {mark : Char}
    (chosen : Placeholder.Table.markCandidates.find? (· ∉ text) = some mark) :
    ¬ Segment.Leaks (telegram escapesUrl) mark (segments text) :=
  not_leaks (telegram_usable escapesUrl) (Dialect.unmarked .telegram) chosen

theorem convertNamed_telegram_some (escapesUrl : Bool) (text : Text) :
    convertNamed "telegram".toList (some (telegram escapesUrl)) text =
      convert .telegram (telegram escapesUrl) text :=
  convertNamed_name .telegram _ text

theorem convert_telegram (escapesUrl : Bool) {text : Text}
    (free : ∃ mark ∈ Placeholder.Table.markCandidates, mark ∉ text) :
    (convert .telegram (telegram escapesUrl) text).result =
      .ok ((segments text).flatMap (Segment.written (telegram escapesUrl))) :=
  convert_of_free (telegram_usable escapesUrl) (Dialect.unmarked .telegram) .telegram free

theorem convertNamed_telegram {text : Text}
    (free : ∃ mark ∈ Placeholder.Table.markCandidates, mark ∉ text) :
    (convertNamed "telegram".toList none text).result =
      .ok ((segments text).flatMap (Segment.written .telegram)) :=
  convertNamed_of_free .telegram free

theorem eq_of_convertNamed_telegram {text output : Text}
    (done : (convertNamed "telegram".toList none text).result = .ok output) :
    output = (segments text).flatMap (Segment.written .telegram) :=
  eq_of_convert (telegram_usable true) ((convertNamed_own .telegram text).symm ▸ done)

/-- A reader of MarkdownV2 finds in what Telegram gets the very segments of the text. -/
theorem read?_convertNamed (escapesUrl : Bool) (text : Text) (visible : '\\' ∉ text)
    (free : ∃ mark ∈ Placeholder.Table.markCandidates, mark ∉ text) :
    ∃ output items,
      (convertNamed "telegram".toList (some (telegram escapesUrl)) text).result = .ok output ∧
      (segments text).mapM Item.ofSegment? = some items ∧ read? output = some items := by
  have name : convertNamed "telegram".toList (some (telegram escapesUrl)) text =
      convert .telegram (telegram escapesUrl) text := convertNamed_name .telegram _ text
  rw [name]
  by_cases empty : text = []
  · subst empty
    exact ⟨[], [], rfl, by rw [Segment.segments_nil]; rfl, read?_nil⟩
  obtain ⟨mark, chosen⟩ : ∃ mark, Placeholder.Table.markCandidates.find? (· ∉ text) = some mark := by
    rw [← Option.isSome_iff_exists, List.find?_isSome]
    simpa using free
  have sealed := not_leaks_telegram escapesUrl chosen
  rw [← Segment.source_segments text] at visible
  obtain ⟨items, kept, _, read⟩ := read?_segments escapesUrl (Segment.segments_tight text)
    (fun unit => Segment.segments_grammar) visible
  have written := convert_of_no_leak (telegram_usable escapesUrl) .telegram empty chosen sealed
  rw [flatten_reserved_telegram] at written
  exact ⟨_, items, written, kept, read⟩

theorem read?_convertNamed_adjacent :
    let text := "`a````x```**b**_c_[d_](e!)f* g_\n".toList
    '\\' ∉ text ∧ (∃ mark ∈ Placeholder.Table.markCandidates, mark ∉ text) ∧
    ∃ output items,
      (convertNamed "telegram".toList (some (telegram false)) text).result = .ok output ∧
      (segments text).mapM Item.ofSegment? = some items ∧ read? output = some items := by
  intro text
  have visible : '\\' ∉ text := by decide
  have free : ∃ mark ∈ Placeholder.Table.markCandidates, mark ∉ text := ⟨'\x00', by decide, by decide⟩
  exact ⟨visible, free, read?_convertNamed false text visible free⟩

end MarkdownV2

end ChatMarkup
