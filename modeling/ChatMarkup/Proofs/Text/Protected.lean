import ChatMarkup.Proofs.Text.Cut
import ChatMarkup.Proofs.Text.Preceded

namespace ChatMarkup.Text

/-- Backslash pairs without a line end, and characters other than the backslash and `closer`. -/
inductive Protected (closer : Char) : Text → Prop
  | nil : Protected closer []
  | pair {c : Char} {rest : Text} (inLine : c ≠ '\n') (others : Protected closer rest) :
      Protected closer ('\\' :: c :: rest)
  | single {c : Char} {rest : Text} (visible : c ≠ '\\') (inside : c ≠ closer)
      (others : Protected closer rest) : Protected closer (c :: rest)

theorem spanProtected_protected (closer : Char) (text : Text) :
    Protected closer (spanProtected closer text).1 := by
  fun_induction spanProtected closer text with
  | case1 | case2 | case4 => exact .nil
  | case3 c rest inLine front after inner ih =>
    rw [inner] at ih
    exact .pair inLine ih
  | case5 c rest single inside front after inner ih =>
    rw [inner] at ih
    rw [not_or] at inside
    exact .single inside.1 inside.2 ih

theorem Protected.spanProtected_eq {closer : Char} {text : Text} (run : Protected closer text) :
    spanProtected closer text = (text, []) := by
  induction run with
  | nil => rfl
  | pair inLine _ ih => simp only [spanProtected, inLine, ↓reduceIte, ih]
  | single visible inside _ ih => simp [spanProtected, visible, inside, ih]

theorem spanProtected_eq_iff {closer : Char} {text : Text} :
    spanProtected closer text = (text, []) ↔ Protected closer text := by
  constructor
  · intro whole
    have front := spanProtected_protected closer text
    rwa [whole] at front
  · exact Protected.spanProtected_eq

theorem unprotect_cons (closer : Char) {c : Char} (visible : c ≠ '\\') (rest : Text) :
    unprotect closer (c :: rest) = c :: unprotect closer rest := by
  rw [unprotect]
  exact fun _ _ same _ => visible same

theorem unprotect_slash {closer : Char} {rest : Text} (next : rest.head? ≠ some closer) :
    unprotect closer ('\\' :: rest) = '\\' :: unprotect closer rest := by
  cases rest with
  | nil => rfl
  | cons c rest =>
    have other : c ≠ closer := by simpa using next
    rw [unprotect, if_neg other]

theorem Protected.head?_ne {closer : Char} {text : Text} (visible : closer ≠ '\\')
    (run : Protected closer text) : text.head? ≠ some closer := by
  cases run with
  | nil => simp
  | pair => simpa using visible.symm
  | single _ inside => simpa using inside

theorem filter_unprotect {keep : Char → Bool} (silent : keep '\\' = false) (closer : Char)
    (text : Text) : (unprotect closer text).filter keep = text.filter keep := by
  fun_induction unprotect closer text <;> simp_all [List.filter_cons]

theorem mem_unprotect_iff {closer c : Char} (visible : c ≠ '\\') {text : Text} :
    c ∈ unprotect closer text ↔ c ∈ text := by
  have kept : (unprotect closer text).filter (· == c) = text.filter (· == c) :=
    filter_unprotect (by simpa using visible.symm) closer text
  simpa using congrArg (c ∈ ·) kept

theorem unprotect_of_not_mem {closer : Char} {text : Text} (free : closer ∉ text) :
    unprotect closer text = text := by
  induction text with
  | nil => rfl
  | cons c rest ih =>
    rw [List.mem_cons, not_or] at free
    by_cases slash : c = '\\'
    · have next : rest.head? ≠ some closer := fun first => free.2 (List.mem_of_head? first)
      rw [slash, unprotect_slash next, ih free.2]
    · rw [unprotect_cons closer slash, ih free.2]

theorem unprotect_eq_append {closer : Char} {text left right : Text}
    (cut : unprotect closer text = left ++ right) : ∃ front back, text = front ++ back ∧
      unprotect closer front = left ∧ unprotect closer back = right := by
  induction text using unprotect.induct closer generalizing left with
  | case1 rest ih =>
    cases left with
    | nil => exact ⟨[], _, rfl, rfl, cut⟩
    | cons c left =>
      rw [unprotect, if_pos rfl] at cut
      obtain ⟨rfl, inner⟩ := List.cons.inj cut
      obtain ⟨front, back, rfl, rfl, behind⟩ := ih inner
      exact ⟨'\\' :: closer :: front, back, rfl, by rw [unprotect, if_pos rfl], behind⟩
  | case2 c rest other ih =>
    cases left with
    | nil => exact ⟨[], _, rfl, rfl, cut⟩
    | cons d left =>
      rw [unprotect, if_neg other] at cut
      obtain ⟨rfl, inner⟩ := List.cons.inj cut
      obtain ⟨front, back, whole, rfl, behind⟩ := ih inner
      -- where the backslash is left, what follows it is not the closer, wherever the cut is
      have next : front.head? ≠ some closer := by
        cases front with
        | nil => simp
        | cons e front => simpa [(List.cons.inj whole).1] using other
      exact ⟨'\\' :: front, back, by rw [whole, List.cons_append], unprotect_slash next, behind⟩
  | case3 c rest single ih =>
    cases left with
    | nil => exact ⟨[], _, rfl, rfl, cut⟩
    | cons d left =>
      have kept : unprotect closer (c :: rest) = c :: unprotect closer rest := by
        rw [unprotect]
        exact single
      rw [kept] at cut
      obtain ⟨rfl, inner⟩ := List.cons.inj cut
      obtain ⟨front, back, whole, rfl, behind⟩ := ih inner
      refine ⟨c :: front, back, by rw [whole, List.cons_append], ?_, behind⟩
      rw [unprotect]
      exact fun e more slash same => single e (more ++ back) slash (by rw [whole, same, List.cons_append])
  | case4 =>
    obtain ⟨rfl, rfl⟩ := List.append_eq_nil_iff.mp cut.symm
    exact ⟨[], [], rfl, rfl, rfl⟩

theorem eq_of_unprotect_eq {closer : Char} (visible : closer ≠ '\\') {text plain : Text}
    (free : closer ∉ plain) (same : unprotect closer text = plain) : text = plain := by
  have absent : closer ∉ text := by rwa [← mem_unprotect_iff visible, same]
  rw [← same, unprotect_of_not_mem absent]

theorem infix_of_unprotect {closer : Char} (visible : closer ≠ '\\') {delimiter content text : Text}
    (other : closer ∉ delimiter) (inside : delimiter ++ content ++ delimiter <:+: unprotect closer text) :
    ∃ written, unprotect closer written = content ∧ delimiter ++ written ++ delimiter <:+: text := by
  obtain ⟨left, right, whole⟩ := inside
  obtain ⟨upto, back, rfl, middle, -⟩ := unprotect_eq_append whole.symm
  obtain ⟨front, code, rfl, -, middle⟩ := unprotect_eq_append middle
  obtain ⟨start, closing, rfl, middle, last⟩ := unprotect_eq_append middle
  obtain ⟨opening, written, rfl, first, inner⟩ := unprotect_eq_append middle
  rw [eq_of_unprotect_eq visible other first, eq_of_unprotect_eq visible other last]
  exact ⟨written, inner, List.infix_append front _ back⟩

theorem Protected.unprotect_pair {closer : Char} (visible : closer ≠ '\\') {c : Char} {rest : Text}
    (others : Protected closer rest) : unprotect closer ('\\' :: c :: rest) =
      if c = closer then c :: unprotect closer rest else '\\' :: c :: unprotect closer rest := by
  by_cases own : c = closer
  · rw [unprotect, if_pos own, if_pos own]
  · rw [if_neg own, unprotect_slash (by simpa using own)]
    by_cases slash : c = '\\'
    · rw [slash, unprotect_slash (others.head?_ne visible)]
    · rw [unprotect_cons closer slash]

theorem Protected.protect_unprotect {closer : Char} (visible : closer ≠ '\\') {text : Text}
    (run : Protected closer text) : protect closer (unprotect closer text) = text := by
  induction run with
  | nil => rfl
  | @pair c rest _ others ih =>
    rw [others.unprotect_pair visible]
    by_cases own : c = closer
    · rw [if_pos own, protect_cons, if_pos own, ih]
    · rw [if_neg own, protect_cons, if_neg visible.symm, protect_cons, if_neg own, ih]
  | @single c rest plain inside _ ih =>
    rw [unprotect_cons closer plain, protect_cons, if_neg inside, ih]

theorem Protected.preceded_unprotect {closer : Char} (visible : closer ≠ '\\') {text : Text}
    (run : Protected closer text) {before : Nat} (even : before % 2 = 0) :
    Preceded [closer] (· % 2 = 0) before (unprotect closer text) := by
  induction run generalizing before with
  | nil => trivial
  | @pair c rest _ others ih =>
    rw [others.unprotect_pair visible]
    by_cases own : c = closer
    · subst own
      rw [if_pos rfl]
      exact ⟨fun _ => even, ih (by rw [if_neg visible])⟩
    · rw [if_neg own]
      refine ⟨fun known => absurd (List.mem_singleton.mp known).symm visible,
        fun known => absurd (List.mem_singleton.mp known) own, ih ?_⟩
      split
      · rw [if_pos rfl]
        omega
      · rfl
  | @single c rest plain inside _ ih =>
    rw [unprotect_cons closer plain]
    exact ⟨fun known => absurd (List.mem_singleton.mp known) inside, ih (by rw [if_neg plain])⟩

theorem Protected.trailingBackslashes_unprotect {closer : Char} (visible : closer ≠ '\\')
    {text : Text} (run : Protected closer text) {before : Text}
    (even : before.trailingBackslashes % 2 = 0) :
    trailingBackslashes (before ++ unprotect closer text) % 2 = 0 := by
  induction run generalizing before with
  | nil => simpa [unprotect] using even
  | @pair c rest _ others ih =>
    rw [others.unprotect_pair visible]
    by_cases own : c = closer
    · rw [if_pos own, List.append_cons]
      apply ih
      rw [trailingBackslashes_concat, if_neg (own ▸ visible)]
    · rw [if_neg own, List.append_cons, List.append_cons (before ++ ['\\'])]
      apply ih
      rw [trailingBackslashes_concat, trailingBackslashes_concat, if_pos rfl]
      split <;> omega
  | @single c rest plain _ _ ih =>
    rw [unprotect_cons closer plain, List.append_cons]
    apply ih
    rw [trailingBackslashes_concat, if_neg plain]

end ChatMarkup.Text
