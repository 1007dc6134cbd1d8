import ChatMarkup.Proofs.Json.ReadBack

namespace ChatMarkup

namespace Text

def OneLine (text : Text) : Prop := ∀ c ∈ text, 0x20 ≤ c.toNat

@[simp] theorem oneLine_nil : OneLine [] := nofun

@[simp] theorem oneLine_cons {c : Char} {text : Text} : OneLine (c :: text) ↔ 0x20 ≤ c.toNat ∧ OneLine text :=
  List.forall_mem_cons

@[simp] theorem oneLine_append {left right : Text} : OneLine (left ++ right) ↔ OneLine left ∧ OneLine right :=
  List.forall_mem_append

theorem OneLine.not_mem {text : Text} (line : OneLine text) {c : Char} (control : c.toNat < 0x20) :
    c ∉ text := by
  intro inside
  have visible := line c inside
  omega

theorem oneLine_of_digits {text : Text} (digits : ∀ c ∈ text, c.isDigit) : OneLine text := by
  intro c inside
  have bounds := digits c inside
  simp only [Char.isDigit, Bool.and_eq_true, decide_eq_true_eq, UInt32.le_iff_toNat_le] at bounds
  exact Nat.le_trans (by decide) bounds.1

theorem oneLine_ofNat (n : Nat) : OneLine (ofNat n) := oneLine_of_digits fun _ => Json.isDigit_ofNat

theorem oneLine_ofInt (n : Int) : OneLine (ofInt n) := by
  cases n with
  | ofNat n => exact oneLine_ofNat n
  | negSucc n => exact oneLine_cons.mpr ⟨by decide, oneLine_ofNat (n + 1)⟩

theorem oneLine_ofDecimal (mantissa : Int) (places : Nat) : OneLine (ofDecimal mantissa places) := by
  have zeros {digits : Text} (visible : OneLine digits) :
      OneLine ((digits.drop 1).reverse.dropWhile (· = '0')).reverse := by
    intro c inside
    have within := (List.dropWhile_sublist _).mem (List.mem_reverse.mp inside)
    exact visible c (List.mem_of_mem_drop (List.mem_reverse.mp within))
  simp only [ofDecimal, oneLine_append, oneLine_cons]
  refine ⟨⟨?_, oneLine_ofNat _⟩, by decide, ?_⟩
  · split <;> simp
  · split
    · simp
    · exact zeros (oneLine_ofNat _)

theorem oneLine_hex (width n : Nat) : OneLine (hex width n) := by
  have every : ∀ digit < 16, 0x20 ≤ (Nat.digitChar digit).toNat := by decide
  induction width generalizing n with
  | zero => exact oneLine_nil
  | succ width ih => simpa [hex, ih] using every (n % 16) (Nat.mod_lt n (by decide))

theorem oneLine_jsonChar (c : Char) : OneLine (jsonChar c) := by
  by_cases escaped : c ∈ Json.lettered
  · simp only [Json.lettered, List.mem_cons, List.not_mem_nil, or_false] at escaped
    rcases escaped with rfl | rfl | rfl | rfl | rfl | rfl | rfl <;> simp [jsonChar]
  rw [Json.jsonChar_plain escaped]
  split
  · simp [oneLine_hex]
  · rename_i visible
    simpa using visible

theorem oneLine_json (text : Text) : OneLine text.json := by
  have body : OneLine (text.flatMap jsonChar) := by
    intro c inside
    obtain ⟨d, _, within⟩ := List.mem_flatMap.mp inside
    exact oneLine_jsonChar d c within
  simp [json, body]

end Text

namespace Value

open Text

mutual

theorem oneLine_json : ∀ value : Value, OneLine value.json
  | null => by simp [json]
  | bool b => by cases b <;> simp [json]
  | int n => oneLine_ofInt n
  | decimal mantissa places => oneLine_ofDecimal mantissa places
  | text t => t.oneLine_json
  | list items => by simp [json, oneLine_jsonItems items]
  | object fields => by simp [json, oneLine_jsonFields fields]

theorem oneLine_jsonItems : ∀ items : List Value, OneLine (jsonItems items)
  | [] => oneLine_nil
  | [item] => oneLine_json item
  | item :: next :: items => by
    simp [jsonItems, oneLine_json item, oneLine_jsonItems (next :: items)]

theorem oneLine_jsonFields : ∀ fields : Fields, OneLine (jsonFields fields)
  | [] => oneLine_nil
  | [(name, value)] => by simp [jsonFields, name.oneLine_json, oneLine_json value]
  | (name, value) :: next :: fields => by
    simp [jsonFields, name.oneLine_json, oneLine_json value, oneLine_jsonFields (next :: fields)]

end

end Value

end ChatMarkup
