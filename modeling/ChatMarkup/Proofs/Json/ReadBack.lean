import ChatMarkup.Proofs.Json.Reader

namespace ChatMarkup.Json

theorem skip_cons {c : Char} (visible : isSpace c = false) (rest : Text) : skip (c :: rest) = c :: rest := by
  simp [skip, visible]

theorem skip_space (text : Text) : skip (' ' :: text) = skip text := by
  simp [skip, isSpace]

theorem numbered?_hex {n : Nat} (control : n < 0x20) : numbered? (Text.hex 4 n) = some (.ofNat n) := by
  revert n
  decide

theorem string?_visible {c : Char} (quote : c ≠ '"') (slash : c ≠ '\\') (visible : ¬ c.toNat < 0x20)
    (rest : Text) : string? (c :: rest) = (string? rest).map fun (text, after) => (c :: text, after) := by
  simp [string?, slash, visible]

def lettered : List Char := ['"', '\\', '\n', '\r', '\t', '\x08', '\x0c']

theorem jsonChar_plain {c : Char} (plain : c ∉ lettered) :
    Text.jsonChar c = if c.toNat < 0x20 then '\\' :: 'u' :: Text.hex 4 c.toNat else [c] := by
  simp only [lettered, List.mem_cons, List.not_mem_nil, or_false, not_or] at plain
  simp only [Text.jsonChar, plain, if_false]

theorem string?_jsonChar (c : Char) (rest : Text) :
    string? (Text.jsonChar c ++ rest) = (string? rest).map fun (text, after) => (c :: text, after) := by
  by_cases escaped : c ∈ lettered
  · simp only [lettered, List.mem_cons, List.not_mem_nil, or_false] at escaped
    rcases escaped with rfl | rfl | rfl | rfl | rfl | rfl | rfl <;> rfl
  rw [jsonChar_plain escaped]
  split
  · rename_i control
    have found := numbered?_hex control
    rw [Char.ofNat_toNat] at found
    simp only [Text.hex, List.nil_append, List.cons_append] at found ⊢
    simp only [string?, found, Option.bind_some]
  · rename_i visible
    simp only [lettered, List.mem_cons, not_or] at escaped
    exact string?_visible escaped.1 escaped.2.1 visible rest

theorem string?_json (text rest : Text) :
    string? (text.flatMap Text.jsonChar ++ '"' :: rest) = some (text, rest) := by
  induction text with
  | nil => rfl
  | cons c text ih => rw [List.flatMap_cons, List.append_assoc, string?_jsonChar, ih]; rfl

def Apart (rest : Text) : Prop := ∀ c, rest.head? = some c → c.isDigit = false

theorem takeWhile_digits {digits rest : Text} (number : ∀ c ∈ digits, c.isDigit) (apart : Apart rest) :
    (digits ++ rest).takeWhile Char.isDigit = digits := by
  rw [List.takeWhile_append_of_pos number]
  cases rest with
  | nil => rw [List.takeWhile_nil, List.append_nil]
  | cons c rest => rw [List.takeWhile_cons_of_neg (by simp [apart c rfl]), List.append_nil]

theorem isDigit_ofNat {n : Nat} {c : Char} (inside : c ∈ Text.ofNat n) : c.isDigit :=
  Nat.isDigit_of_mem_toDigits (by decide) (by decide) inside

theorem head?_ofNat {n : Nat} (positive : 0 < n) : (Text.ofNat n).head? ≠ some '0' := by
  induction n using Nat.strongRecOn with
  | ind n ih =>
    by_cases single : n < 10
    · have every : ∀ n < 10, 0 < n → (Text.ofNat n).head? ≠ some '0' := by decide
      exact every n single positive
    · have shorter := ih (n / 10) (by omega) (by omega)
      rw [Text.ofNat, Nat.toDigits_of_base_le (by decide) (by omega), List.head?_append]
      rw [Text.ofNat] at shorter
      cases first : (Nat.toDigits 10 (n / 10)).head? with
      | none => exact absurd (List.head?_eq_none_iff.mp first) Nat.toDigits_ne_nil
      | some c => simpa [first] using shorter

theorem natural?_ofNat (n : Nat) {rest : Text} (apart : Apart rest) :
    natural? (Text.ofNat n ++ rest) = some (n, rest) := by
  have digits := takeWhile_digits (fun _ => isDigit_ofNat (n := n)) apart
  have filled : Text.ofNat n ≠ [] := Nat.toDigits_ne_nil
  have leading : ¬ ((Text.ofNat n).head? = some '0' ∧ Text.ofNat n ≠ ['0']) := by
    rintro ⟨zero, longer⟩
    by_cases positive : 0 < n
    · exact head?_ofNat positive zero
    · rw [Nat.eq_zero_of_not_pos positive] at longer
      exact longer rfl
  simp only [natural?, digits, filled, leading, or_self, if_false, List.drop_left]
  rw [Text.ofNat, Nat.ofDigitChars_ten_toDigits]

def Starts (c : Char) : Prop := c.isDigit ∨ c = '-'

theorem Starts.ne {c other : Char} (number : Starts c) (letter : other.isDigit = false)
    (sign : other ≠ '-') : c ≠ other := by
  rintro rfl
  rcases number with digit | same
  · rw [letter] at digit
    cases digit
  · exact sign same

theorem exists_ofNat (n : Nat) : ∃ c tail, Text.ofNat n = c :: tail ∧ c.isDigit := by
  cases digits : Text.ofNat n with
  | nil => exact absurd digits Nat.toDigits_ne_nil
  | cons c tail => exact ⟨c, tail, rfl, isDigit_ofNat (digits ▸ List.mem_cons_self)⟩

theorem exists_ofInt (n : Int) : ∃ c tail, Text.ofInt n = c :: tail ∧ Starts c := by
  cases n with
  | negSucc n => exact ⟨_, _, rfl, .inr rfl⟩
  | ofNat n =>
    obtain ⟨c, tail, digits, digit⟩ := exists_ofNat n
    exact ⟨c, tail, digits, .inl digit⟩

theorem integer?_ofInt (n : Int) {rest : Text} (apart : Apart rest) :
    integer? (Text.ofInt n ++ rest) = some (.int n, rest) := by
  cases n with
  | ofNat n =>
    obtain ⟨c, tail, digits, digit⟩ := exists_ofNat n
    have sign : c ≠ '-' := by
      rintro rfl
      cases digit
    have read := natural?_ofNat n apart
    rw [Text.ofInt]
    rw [digits, List.cons_append] at read ⊢
    simp [integer?, sign, read]
  | negSucc n =>
    simp [Text.ofInt, integer?, natural?_ofNat (n + 1) apart, Int.negSucc_eq]

mutual

/-- A value that holds no decimal fraction. -/
def Whole : Value → Prop
  | .decimal _ _ => False
  | .list items => WholeItems items
  | .object fields => WholeFields fields
  | _ => True

def WholeItems : List Value → Prop
  | [] => True
  | item :: rest => Whole item ∧ WholeItems rest

def WholeFields : Fields → Prop
  | [] => True
  | (_, value) :: rest => Whole value ∧ WholeFields rest

end

theorem exists_json {value : Value} (whole : Whole value) :
    ∃ c tail, value.json = c :: tail ∧ isSpace c = false ∧ c ≠ ']' := by
  cases value with
  | null => exact ⟨_, _, rfl, by decide, by decide⟩
  | bool b => cases b <;> exact ⟨_, _, rfl, by decide, by decide⟩
  | text t => exact ⟨_, _, rfl, by decide, by decide⟩
  | list items => exact ⟨_, _, rfl, by decide, by decide⟩
  | object fields => exact ⟨_, _, rfl, by decide, by decide⟩
  | decimal => exact whole.elim
  | int n =>
    obtain ⟨c, tail, spelled, number⟩ := exists_ofInt n
    refine ⟨c, tail, spelled, ?_, number.ne (by decide) (by decide)⟩
    simp [isSpace, number.ne]

theorem value?_string (fuel : Nat) (text rest : Text) :
    value? (fuel + 1) (text.json ++ rest) = some (.text text, rest) := by
  have body := string?_json text rest
  simp [value?, Text.json, skip_cons, isSpace, body]

theorem value?_int (fuel : Nat) (n : Int) {rest : Text} (apart : Apart rest) :
    value? (fuel + 1) (Text.ofInt n ++ rest) = some (.int n, rest) := by
  have read := integer?_ofInt n apart
  obtain ⟨c, tail, spelled, number⟩ := exists_ofInt n
  have visible : isSpace c = false := by simp [isSpace, number.ne]
  rw [spelled, List.cons_append] at read ⊢
  rw [value?, skip_cons visible]
  rw [Starts] at number
  simp [number, Starts.ne number, read]

theorem apart_cons {c : Char} (letter : c.isDigit = false) (rest : Text) : Apart (c :: rest) := by
  rintro d ⟨⟩
  exact letter

theorem value?_items (fuel : Nat) {text rest : Text} {items : List Value}
    (opening : ∃ c tail, text = c :: tail ∧ isSpace c = false ∧ c ≠ ']')
    (read : items? fuel text = some (items, rest)) :
    value? (fuel + 1) ('[' :: text) = some (.list items, rest) := by
  obtain ⟨c, tail, rfl, visible, other⟩ := opening
  simp [value?, skip_cons, isSpace, skip_cons visible, other, read]

theorem value?_members (fuel : Nat) {tail rest : Text} {fields : Fields}
    (read : members? fuel ('"' :: tail) = some (fields, rest)) :
    value? (fuel + 1) ('\x7b' :: '"' :: tail) = some (.object fields, rest) := by
  simp [value?, skip_cons, isSpace, read]

theorem value?_space (fuel : Nat) (text : Text) : value? fuel (' ' :: text) = value? fuel text := by
  cases fuel with
  | zero => rfl
  | succ fuel => simp only [value?, skip_space]

theorem items?_space (fuel : Nat) (text : Text) : items? fuel (' ' :: text) = items? fuel text := by
  cases fuel with
  | zero => rfl
  | succ fuel => simp only [items?, value?_space]

theorem members?_space (fuel : Nat) (text : Text) : members? fuel (' ' :: text) = members? fuel text := by
  cases fuel with
  | zero => rfl
  | succ fuel => simp only [members?, skip_space]

theorem items?_last {fuel : Nat} {text rest : Text} {item : Value}
    (read : value? fuel text = some (item, ']' :: rest)) :
    items? (fuel + 1) text = some ([item], rest) := by
  simp [items?, read, skip_cons, isSpace]

theorem items?_next {fuel : Nat} {text more rest : Text} {item : Value} {items : List Value}
    (read : value? fuel text = some (item, ',' :: more)) (others : items? fuel more = some (items, rest)) :
    items? (fuel + 1) text = some (item :: items, rest) := by
  simp [items?, read, skip_cons, isSpace, others]

theorem members?_last {fuel : Nat} (name : Text) {text rest : Text} {value : Value}
    (read : value? fuel text = some (value, '\x7d' :: rest)) :
    members? (fuel + 1) (name.json ++ ':' :: ' ' :: text) = some ([(name, value)], rest) := by
  have body := string?_json name (':' :: ' ' :: text)
  simp [members?, Text.json, skip_cons, isSpace, Text.after?, body, value?_space, read]

theorem members?_next {fuel : Nat} (name : Text) {text more rest : Text} {value : Value} {fields : Fields}
    (read : value? fuel text = some (value, ',' :: more))
    (others : members? fuel more = some (fields, rest)) :
    members? (fuel + 1) (name.json ++ ':' :: ' ' :: text) = some ((name, value) :: fields, rest) := by
  have body := string?_json name (':' :: ' ' :: text)
  simp [members?, Text.json, skip_cons, isSpace, Text.after?, body, value?_space, read, others]

theorem exists_jsonItems {item : Value} (items : List Value) (whole : Whole item) (rest : Text) :
    ∃ c tail, Value.jsonItems (item :: items) ++ rest = c :: tail ∧ isSpace c = false ∧ c ≠ ']' := by
  obtain ⟨c, tail, spelled, visible, other⟩ := exists_json whole
  cases items with
  | nil => exact ⟨c, tail ++ rest, by rw [Value.jsonItems, spelled, List.cons_append], visible, other⟩
  | cons next items =>
    refine ⟨c, tail ++ ',' :: ' ' :: Value.jsonItems (next :: items) ++ rest, ?_, visible, other⟩
    simp [Value.jsonItems, spelled]

theorem exists_jsonFields (name : Text) (value : Value) (fields : Fields) (rest : Text) :
    ∃ tail, Value.jsonFields ((name, value) :: fields) ++ rest = '"' :: tail := by
  cases fields <;> simp [Value.jsonFields, Text.json]

mutual

theorem value?_json : ∀ (value : Value) (fuel : Nat) (rest : Text), Whole value →
    value.json.length < fuel → Apart rest → value? fuel (value.json ++ rest) = some (value, rest)
  | .null, fuel + 1, rest, _, _, _ => by
    simp [value?, Value.json, skip_cons, isSpace, word?, Text.after?]
  | .bool b, fuel + 1, rest, _, _, _ => by
    cases b <;> simp [value?, Value.json, skip_cons, isSpace, word?, Text.after?]
  | .int n, fuel + 1, rest, _, _, apart => value?_int fuel n apart
  | .text t, fuel + 1, rest, _, _, _ => value?_string fuel t rest
  | .decimal _ _, _, _, whole, _, _ => whole.elim
  | .list [], fuel + 1, rest, _, _, _ => by
    simp [value?, Value.json, Value.jsonItems, skip_cons, isSpace]
  | .list (item :: items), fuel + 1, rest, whole, enough, _ => by
    simp only [Value.json, List.length_cons, List.length_append, List.length_nil] at enough
    have read := items?_json item items fuel rest whole (by omega)
    have opening := exists_jsonItems items whole.1 (']' :: rest)
    simpa [Value.json] using value?_items fuel opening read
  | .object [], fuel + 1, rest, _, _, _ => by
    simp [value?, Value.json, Value.jsonFields, skip_cons, isSpace]
  | .object ((name, value) :: fields), fuel + 1, rest, whole, enough, _ => by
    simp only [Value.json, List.length_cons, List.length_append, List.length_nil] at enough
    have read := members?_json name value fields fuel rest whole (by omega)
    obtain ⟨tail, opening⟩ := exists_jsonFields name value fields ('\x7d' :: rest)
    rw [opening] at read
    simpa [Value.json, opening] using value?_members fuel read

theorem items?_json : ∀ (item : Value) (items : List Value) (fuel : Nat) (rest : Text),
    WholeItems (item :: items) → (Value.jsonItems (item :: items)).length + 1 < fuel →
    items? fuel (Value.jsonItems (item :: items) ++ ']' :: rest) = some (item :: items, rest)
  | item, [], fuel + 1, rest, whole, enough => by
    rw [Value.jsonItems] at enough ⊢
    exact items?_last (value?_json item fuel (']' :: rest) whole.1 (by omega) (apart_cons (by decide) rest))
  | item, next :: items, fuel + 1, rest, whole, enough => by
    simp only [Value.jsonItems, List.length_append, List.length_cons] at enough
    have others := items?_json next items fuel rest whole.2 (by omega)
    rw [← items?_space] at others
    have first := value?_json item fuel (',' :: ' ' :: (Value.jsonItems (next :: items) ++ ']' :: rest))
      whole.1 (by omega) (apart_cons (by decide) _)
    simpa [Value.jsonItems] using items?_next first others

theorem members?_json : ∀ (name : Text) (value : Value) (fields : Fields) (fuel : Nat) (rest : Text),
    WholeFields ((name, value) :: fields) →
    (Value.jsonFields ((name, value) :: fields)).length + 1 < fuel →
    members? fuel (Value.jsonFields ((name, value) :: fields) ++ '\x7d' :: rest) =
      some ((name, value) :: fields, rest)
  | name, value, [], fuel + 1, rest, whole, enough => by
    simp only [Value.jsonFields, List.length_append, List.length_cons] at enough
    have last := value?_json value fuel ('\x7d' :: rest) whole.1 (by omega) (apart_cons (by decide) rest)
    simpa [Value.jsonFields] using members?_last name last
  | name, value, (second, next) :: fields, fuel + 1, rest, whole, enough => by
    simp only [Value.jsonFields, List.length_append, List.length_cons] at enough
    have others := members?_json second next fields fuel rest whole.2 (by omega)
    rw [← members?_space] at others
    have first := value?_json value fuel
      (',' :: ' ' :: (Value.jsonFields ((second, next) :: fields) ++ '\x7d' :: rest))
      whole.1 (by omega) (apart_cons (by decide) _)
    simpa [Value.jsonFields] using members?_next name first others

end

/-- A value without decimal fractions is what its JSON spells. -/
theorem read?_json {value : Value} (whole : Whole value) : read? value.json = some value := by
  have read := value?_json value (value.json.length + 1) [] whole (Nat.lt_succ_self _) nofun
  rw [List.append_nil] at read
  rw [read?, read, Option.bind_some]
  rfl

end ChatMarkup.Json
