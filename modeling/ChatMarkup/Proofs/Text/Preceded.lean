import ChatMarkup.Proofs.Text.Escaped

namespace ChatMarkup.Text

/-- Runs of backslashes in front of reserved characters have `good` lengths; `run` is one in front. -/
def Preceded (reserved : List Char) (good : Nat → Prop) : Nat → Text → Prop
  | _, [] => True
  | run, c :: rest =>
    (c ∈ reserved → good run) ∧ Preceded reserved good (if c = '\\' then run + 1 else 0) rest

theorem preceded_iff {reserved : List Char} {good : Nat → Prop} (before text : Text) :
    Preceded reserved good before.trailingBackslashes text ↔
      ∀ front c back, text = front ++ c :: back → c ∈ reserved →
        good (trailingBackslashes (before ++ front)) := by
  induction text generalizing before with
  | nil => simp [Preceded]
  | cons d rest ih =>
    rw [Preceded, ← trailingBackslashes_concat, ih]
    constructor
    · rintro ⟨here, later⟩ front c back same known
      rcases List.cons_eq_append_iff.mp same with ⟨rfl, first⟩ | ⟨front, rfl, rest⟩
      · cases first
        simpa using here known
      · simpa using later front c back rest known
    · intro each
      refine ⟨fun known => by simpa using each [] d rest rfl known, fun front c back same known => ?_⟩
      subst same
      simpa using each (d :: front) c back rfl known

theorem preceded_singleton_iff {mark : Char} {good : Nat → Prop} (text : Text) :
    Preceded [mark] good 0 text ↔
      ∀ front back, text = front ++ mark :: back → good (trailingBackslashes front) := by
  refine (preceded_iff [] text).trans ?_
  constructor
  · exact fun each front back same => each front mark back same (List.mem_singleton_self mark)
  · intro each front c back same known
    rw [List.mem_singleton.mp known] at same
    exact each front back same

theorem preceded_iff_not_infix {mark : Char} {text : Text} (even : Preceded [mark] (· % 2 = 0) 0 text) :
    Preceded [mark] (fun run => run = 0 ∨ run % 2 = 1) 0 text ↔ ¬ ['\\', mark] <:+: text := by
  rw [preceded_singleton_iff] at even ⊢
  constructor
  · rintro each ⟨left, right, rfl⟩
    have whole : left ++ ['\\', mark] ++ right = (left ++ ['\\']) ++ mark :: right := by simp
    have paired := even _ _ whole
    have runs := each _ _ whole
    rw [trailingBackslashes_concat, if_pos rfl] at paired runs
    omega
  · rintro apart front back rfl
    rcases trailingBackslashes_eq_zero_or front with none_ | ⟨front, rfl⟩
    · exact .inl none_
    · exact absurd ⟨front, back, by simp⟩ apart

/-- A reader who takes what follows a backslash as it stands meets no reserved character. -/
def ReadsEscaped (reserved : List Char) : Bool → Text → Prop
  | _, [] => True
  | true, _ :: rest => ReadsEscaped reserved false rest
  | false, c :: rest => c ∉ reserved ∧ ReadsEscaped reserved (c = '\\') rest

theorem readsEscaped_iff_preceded (reserved : List Char) (run : Nat) (text : Text) :
    ReadsEscaped reserved (run % 2 = 1) text ↔ Preceded reserved (· % 2 = 1) run text := by
  induction text generalizing run with
  | nil => simp [ReadsEscaped, Preceded]
  | cons c rest ih =>
    rw [Preceded, ← ih]
    by_cases odd : run % 2 = 1
    · have next : ¬ (if c = '\\' then run + 1 else 0) % 2 = 1 := by
        split <;> omega
      simp [ReadsEscaped, odd, next]
    · have next : (if c = '\\' then run + 1 else 0) % 2 = 1 ↔ c = '\\' := by
        split <;> simp [*]
        omega
      simp [ReadsEscaped, odd, next]

theorem preceded_escapeChars {reserved marks : List Char} (proper : '\\' ∉ reserved)
    (covered : marks ⊆ reserved) {run : Nat} {text : Text}
    (apart : ∀ c ∈ text.head?, c ∈ reserved → run = 0) :
    Preceded marks (· % 2 = 1) run (escapeChars reserved text) ↔
      Preceded marks (fun run => run = 0 ∨ run % 2 = 1) run text := by
  have visible {c : Char} (known : c ∈ reserved) : c ≠ '\\' := fun same => proper (same ▸ known)
  have silent : '\\' ∉ marks := fun known => proper (covered known)
  fun_induction escapeChars reserved text generalizing run with
  | case1 => rfl
  | case2 c rest known ih => simp [Preceded, silent, visible known, ih]
  | case3 c rest _ own => exact absurd own proper
  | case4 c rest free _ ih =>
    have inner := @ih (run + 1) (by simp [free])
    simp [Preceded, silent, inner]
  | case5 c rest _ known ih =>
    cases apart c rfl known
    simp [Preceded, silent, visible known, ih]
  | case6 c rest single free ih =>
    have unmarked : c ∉ marks := fun known => free (covered known)
    have after : ∀ d ∈ rest.head?, d ∈ reserved → (if c = '\\' then run + 1 else 0) = 0 :=
      fun d first _ => if_neg (visible_of_single single d first)
    simp only [Preceded, unmarked, false_implies, true_and, ih after]

end ChatMarkup.Text
