import ChatMarkup.Placeholder.Fill
import ChatMarkup.Placeholder.Table
import ChatMarkup.Proofs.Placeholder.Region
import ChatMarkup.Proofs.Span.Partition

namespace ChatMarkup

namespace Segment

def escapePlain (reserved : List Char) : Segment → Segment
  | .plain text => .plain (Text.escapeChars reserved text)
  | .span unit => .span unit

def rawWith (write : Span → Text) : Segment → Text
  | .plain text => text
  | .span unit => write unit

def FreeOf (mark : Char) (segments : List Segment) : Prop :=
  ∀ piece, .plain piece ∈ segments → mark ∉ piece

theorem FreeOf.head {mark : Char} {piece : Text} {rest : List Segment}
    (free : FreeOf mark (.plain piece :: rest)) : mark ∉ piece :=
  free piece List.mem_cons_self

theorem FreeOf.tail {mark : Char} {segment : Segment} {rest : List Segment}
    (free : FreeOf mark (segment :: rest)) : FreeOf mark rest :=
  fun piece member => free piece (List.mem_cons_of_mem _ member)

theorem FreeOf.escapePlain {mark : Char} {segments : List Segment} (visible : mark ≠ '\\')
    (free : FreeOf mark segments) (reserved : List Char) :
    FreeOf mark (segments.map (escapePlain reserved)) := by
  intro piece member inside
  obtain ⟨segment, known, same⟩ := List.mem_map.mp member
  cases segment with
  | span unit => cases same
  | plain text =>
    cases same
    rcases Text.mem_escapeChars inside with escape | inside
    · exact visible escape
    · exact free text known inside

@[simp] theorem spans_escapePlain (reserved : List Char) (segments : List Segment) :
    spans (segments.map (Segment.escapePlain reserved)) = spans segments := by
  induction segments with
  | nil => rfl
  | cons segment rest ih => cases segment <;> simp [Segment.escapePlain, ih]

end Segment

namespace Placeholder

open Segment Table

/-- A character that stands nowhere inside a placeholder. -/
def IsMark (mark : Char) : Prop := mark ≠ 'P' ∧ mark.isDigit = false

theorem IsMark.not_mem {mark : Char} (isMark : IsMark mark) (n : Nat) : mark ∉ 'P' :: Text.ofNat n := by
  intro member
  rcases List.mem_cons.mp member with same | digit
  · exact isMark.1 same
  · have known := Nat.isDigit_of_mem_toDigits (by decide) (by decide) digit
    rw [isMark.2] at known
    cases known

theorem IsMark.count_placeholder {mark : Char} (isMark : IsMark mark) (n : Nat) :
    (placeholder [mark] n).count mark = 2 := by
  have inner := List.count_eq_zero_of_not_mem (isMark.not_mem n)
  rw [placeholder, List.count_append, List.count_append, inner]
  simp

def numbered (mark : Text) (start : Nat) : List Span → List (Text × Span)
  | [] => []
  | unit :: rest => (placeholder mark start, unit) :: numbered mark (start + 1) rest

theorem numbered_units (mark : Text) (start : Nat) (units : List Span) :
    (numbered mark start units).map (·.2) = units := by
  induction units generalizing start with
  | nil => rfl
  | cons unit rest ih => rw [numbered, List.map_cons, ih]

@[simp] theorem build_plain (table : Table) (text : Text) (rest : List Segment) :
    (table.build (.plain text :: rest)).1 = text ++ (table.build rest).1 := rfl

@[simp] theorem build_span (table : Table) (unit : Span) (rest : List Segment) :
    (table.build (.span unit :: rest)).1 =
      placeholder table.mark table.entries.length ++ ((table.add unit).2.build rest).1 := rfl

@[simp] theorem length_entries_add (table : Table) (unit : Span) :
    (table.add unit).2.entries.length = table.entries.length + 1 := by
  simp [add]

theorem fill_nil_eq_ok_iff {mark : Char} {text result : Text} :
    (fill text [] [mark]).result = .ok result ↔ mark ∉ text ∧ text = result := by
  rw [← Text.breakOn?_eq_none_iff_not_mem]
  cases found : Text.breakOn? [mark] text <;> simp [fill, found]

theorem fill_cons_eq_ok_iff {hole final text result mark : Text} {rest : List (Text × Text)} :
    (fill text ((hole, final) :: rest) mark).result = .ok result ↔
      ∃ replaced, Text.replaceFirst? hole final text = some replaced ∧
        (fill replaced rest mark).result = .ok result := by
  cases put : Text.replaceFirst? hole final text <;> simp [fill, put]

theorem fill_placeholder {mark : Char} {done : Text} (clean : mark ∉ done) (n : Nat)
    (final behind : Text) (rest : List (Text × Text)) :
    fill (done ++ placeholder [mark] n ++ behind) ((placeholder [mark] n, final) :: rest) [mark] =
      fill (done ++ final ++ behind) rest [mark] := by
  have put : Text.replaceFirst? (placeholder [mark] n) final (done ++ placeholder [mark] n ++ behind) =
      some (done ++ final ++ behind) := Text.replaceFirst?_cons clean _ _ _
  simp only [fill, put]

theorem entries_build (table : Table) (segments : List Segment) :
    (table.build segments).2.entries =
      table.entries ++ numbered table.mark table.entries.length (spans segments) := by
  induction segments generalizing table with
  | nil => simp [build, numbered]
  | cons segment rest ih =>
    cases segment with
    | plain text => exact ih table
    | span unit => simp [build, ih, add, numbered]

theorem IsMark.count_placeholders {mark : Char} (isMark : IsMark mark) {α : Type}
    {entries : List (Text × α)} (named : ∀ entry ∈ entries, ∃ n, entry.1 = placeholder [mark] n) :
    (entries.flatMap (·.1)).count mark = 2 * entries.length := by
  induction entries with
  | nil => rfl
  | cons entry rest ih =>
    rw [List.forall_mem_cons] at named
    obtain ⟨n, own⟩ := named.1
    rw [List.flatMap_cons, List.count_append, ih named.2, own, isMark.count_placeholder,
      List.length_cons]
    omega

theorem count_build {mark : Char} (isMark : IsMark mark) {segments : List Segment}
    (free : FreeOf mark segments) {table : Table} (marked : table.mark = [mark]) :
    (table.build segments).1.count mark = 2 * (spans segments).length := by
  induction segments generalizing table with
  | nil => rfl
  | cons segment rest ih =>
    cases segment with
    | plain text =>
      have none := List.count_eq_zero_of_not_mem free.head
      simp [build, ih free.tail marked, none]
    | span unit =>
      have inner := ih free.tail ((mark_add table unit).trans marked)
      rw [build_span, marked, List.count_append, isMark.count_placeholder, inner, spans_span,
        List.length_cons]
      omega

/-- `pending` is the plain text in front, and placeholders are counted from `n`. -/
def regionsOf (mark : Text) (n : Nat) (pending : Text) : List Segment → List Region
  | [] => [.outside pending]
  | .plain text :: rest => regionsOf mark n (pending ++ text) rest
  | .span _ :: rest =>
    .outside pending :: .placeholder (placeholder mark n) :: regionsOf mark (n + 1) [] rest

theorem regions_build {mark : Char} (isMark : IsMark mark) {segments : List Segment}
    (free : FreeOf mark segments) {table : Table} (marked : table.mark = [mark]) {pending : Text}
    (unmarked : mark ∉ pending) (offset : Nat) :
    regions [mark] offset (pending ++ (table.build segments).1) =
      (regionsOf [mark] table.entries.length pending segments, none) := by
  induction segments generalizing table pending offset with
  | nil => simp [build, regions_of_not_mem unmarked, regionsOf]
  | cons segment rest ih =>
    cases segment with
    | plain text =>
      have longer : mark ∉ pending ++ text := by
        rw [List.mem_append, not_or]
        exact ⟨unmarked, free.head⟩
      rw [build_plain, ← List.append_assoc, ih free.tail marked longer, regionsOf]
    | span unit =>
      have inner := ih free.tail ((mark_add table unit).trans marked) List.not_mem_nil
        (offset + pending.length + ('P' :: Text.ofNat table.entries.length).length + 2)
      have whole : pending ++ (table.build (.span unit :: rest)).1 =
          pending ++ mark :: ('P' :: Text.ofNat table.entries.length) ++
            mark :: ((table.add unit).2.build rest).1 := by
        simp [placeholder, marked]
      rw [List.nil_append, length_entries_add] at inner
      rw [whole, regions_placeholder unmarked (isMark.not_mem table.entries.length), inner]
      simp [regionsOf, placeholder]

theorem escaped_regionsOf (reserved : List Char) {segments : List Segment} (tight : Tight segments)
    (table : Table) {pending : Text} (apart : pending = [] ∨ startsPlain segments = false) :
    (regionsOf table.mark table.entries.length pending segments).flatMap (Region.escaped reserved) =
      Text.escapeChars reserved pending ++
        (table.build (segments.map (escapePlain reserved))).1 := by
  induction tight generalizing table pending with
  | nil => simp [regionsOf, build, Region.escaped]
  | @plain text rest filled next _ ih =>
    rcases apart with rfl | apart
    · simpa [regionsOf, escapePlain] using ih table (.inr next)
    · cases apart
  | @span unit rest filled _ ih =>
    have inner := ih (table.add unit).2 (.inl rfl)
    rw [mark_add, length_entries_add] at inner
    simp [regionsOf, inner, Region.escaped, escapePlain]

theorem outside_mem_regionsOf {mark : Text} {n : Nat} {segments : List Segment} (tight : Tight segments)
    {pending : Text} (apart : pending = [] ∨ startsPlain segments = false) {text : Text}
    (filled : text ≠ []) :
    .outside text ∈ regionsOf mark n pending segments ↔ text = pending ∨ .plain text ∈ segments := by
  induction tight generalizing n pending with
  | nil => simp [regionsOf]
  | plain _ next _ ih =>
    rcases apart with rfl | apart
    · simp [regionsOf, ih (.inr next), filled]
    · cases apart
  | span _ _ ih => simp [regionsOf, ih (.inl rfl), filled]

theorem escapeAround_build {mark : Char} (isMark : IsMark mark) {reserved : List Text}
    (usable : Text.Usable reserved) {segments : List Segment} (tight : Tight segments)
    (free : FreeOf mark segments) {table : Table} (marked : table.mark = [mark]) :
    (escapeAround reserved [mark] (table.build segments).1).result =
      .ok (table.build (segments.map (escapePlain reserved.flatten))).1 := by
  have found := regions_build isMark free marked List.not_mem_nil 0
  have escaped := escaped_regionsOf reserved.flatten tight table (.inl rfl)
  rw [marked] at escaped
  simp only [List.nil_append, Text.escapeChars_nil] at found escaped
  rw [escapeAround_of_usable usable, found, escaped]

/-- With its spans written, a marked text reads as its segments do one by one. -/
theorem fill_build {mark : Char} {segments : List Segment} (free : FreeOf mark segments)
    {write : Span → Text} (unmarked : ∀ unit ∈ spans segments, mark ∉ write unit) {table : Table}
    (marked : table.mark = [mark]) {done : Text} (clean : mark ∉ done) :
    (fill (done ++ (table.build segments).1)
      ((numbered [mark] table.entries.length (spans segments)).map fun entry =>
        (entry.1, write entry.2)) [mark]).result =
      .ok (done ++ segments.flatMap (rawWith write)) := by
  -- what is written so far has no mark, so the first one left is that of the next placeholder
  induction segments generalizing table done with
  | nil =>
    simp only [build, spans_nil, numbered, List.map_nil, List.flatMap_nil, List.append_nil]
    exact fill_nil_eq_ok_iff.mpr ⟨clean, rfl⟩
  | cons segment rest ih =>
    cases segment with
    | plain text =>
      have longer : mark ∉ done ++ text := by
        rw [List.mem_append, not_or]
        exact ⟨clean, free.head⟩
      have inner := ih free.tail unmarked marked longer
      simpa [rawWith] using inner
    | span unit =>
      rw [spans_span, List.forall_mem_cons] at unmarked
      have longer : mark ∉ done ++ write unit := by
        rw [List.mem_append, not_or]
        exact ⟨clean, unmarked.1⟩
      have inner := ih free.tail unmarked.2 ((mark_add table unit).trans marked) longer
      rw [build_span, marked, spans_span, numbered, List.map_cons, ← List.append_assoc,
        fill_placeholder clean]
      rw [length_entries_add] at inner
      simpa [rawWith] using inner

theorem count_fill {mark : Char} {text result : Text} {finals : List (Text × Text)}
    (filled : (fill text finals [mark]).result = .ok result) :
    text.count mark + (finals.flatMap (·.2)).count mark = (finals.flatMap (·.1)).count mark := by
  induction finals generalizing text with
  | nil => exact List.count_eq_zero_of_not_mem (fill_nil_eq_ok_iff.mp filled).1
  | cons pair rest ih =>
    obtain ⟨replaced, put, filled⟩ := fill_cons_eq_ok_iff.mp filled
    have inner := ih filled
    have kept := Text.count_replaceFirst? put mark
    simp only [List.flatMap_cons, List.count_append]
    omega

theorem not_mem_of_fill {mark : Char} {text result : Text} {finals : List (Text × Text)}
    (filled : (fill text finals [mark]).result = .ok result) : mark ∉ result := by
  induction finals generalizing text with
  | nil =>
    obtain ⟨clean, rfl⟩ := fill_nil_eq_ok_iff.mp filled
    exact clean
  | cons pair rest ih =>
    obtain ⟨replaced, _, filled⟩ := fill_cons_eq_ok_iff.mp filled
    exact ih filled

theorem fill_error {text mark : Text} {finals : List (Text × Text)} {fault : Fault}
    (failed : (fill text finals mark).result = .error fault) :
    fault = .leftover mark ∨ ∃ hole, fault = .missing hole := by
  induction finals generalizing text with
  | nil =>
    simp only [fill] at failed
    split at failed
    · cases failed
      exact .inl rfl
    · cases failed
  | cons pair rest ih =>
    simp only [fill] at failed
    split at failed
    · cases failed
      exact .inr ⟨_, rfl⟩
    · exact ih failed

end Placeholder

end ChatMarkup
