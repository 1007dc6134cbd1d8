import ChatMarkup.Text.Search

namespace ChatMarkup.Text

/-- The lower case of `c`, as far as it is an ASCII character: outside ASCII only the Kelvin sign
    has such a lower case. Every other character stays. -/
def lowerChar (c : Char) : Char :=
  if c = '\u212a' then 'k' else c.toLower

def lower (text : Text) : Text := text.map lowerChar

/-- The full upper case of `c`, as far as it is ASCII text: besides the ASCII letters the dotless
    i, the long s, the sharp s and the Latin ligatures have one. Every other character stays. -/
def upperChar (c : Char) : Text :=
  match c with
  | '\u0131' => ['I']
  | '\u017f' => ['S']
  | '\u00df' => ['S', 'S']
  | '\ufb00' => ['F', 'F']
  | '\ufb01' => ['F', 'I']
  | '\ufb02' => ['F', 'L']
  | '\ufb03' => ['F', 'F', 'I']
  | '\ufb04' => ['F', 'F', 'L']
  | '\ufb05' => ['S', 'T']
  | '\ufb06' => ['S', 'T']
  | c => [c.toUpper]

def upper (text : Text) : Text := text.flatMap upperChar

end ChatMarkup.Text
