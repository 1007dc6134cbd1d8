import ChatMarkup.Text.Search

namespace ChatMarkup.Text

def protect (closer : Char) (text : Text) : Text :=
  text.flatMap fun c => if c = closer then ['\\', c] else [c]

/-- Drops, from left to right, every backslash that stands directly before `closer`. -/
def unprotect (closer : Char) : Text → Text
  | '\\' :: c :: rest =>
    if c = closer then c :: unprotect closer rest else '\\' :: unprotect closer (c :: rest)
  | c :: rest => c :: unprotect closer rest
  | [] => []

/-- Cuts a text after its longest front made of backslash pairs and of characters other than the
    backslash and `closer`. A backslash makes no pair with a line end. -/
def spanProtected (closer : Char) : Text → Text × Text
  | [] => ([], [])
  | '\\' :: c :: rest =>
    if c = '\n' then ([], '\\' :: c :: rest)
    else
      let (front, after) := spanProtected closer rest
      ('\\' :: c :: front, after)
  | c :: rest =>
    if c = '\\' ∨ c = closer then ([], c :: rest)
    else
      let (front, after) := spanProtected closer rest
      (c :: front, after)

theorem spanProtected_append (closer : Char) (text : Text) :
    (spanProtected closer text).1 ++ (spanProtected closer text).2 = text := by
  fun_induction spanProtected closer text <;> simp_all

end ChatMarkup.Text
