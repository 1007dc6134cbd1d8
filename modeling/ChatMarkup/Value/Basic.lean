import ChatMarkup.Text.Search

namespace ChatMarkup

/-- Data from outside, before it is checked. A decimal is `mantissa` over ten to the `places`. -/
inductive Value where
  | null
  | bool (b : Bool)
  | int (n : Int)
  | decimal (mantissa : Int) (places : Nat)
  | text (text : Text)
  | list (items : List Value)
  | object (fields : List (Text × Value))
  deriving Repr, Inhabited

abbrev Fields := List (Text × Value)

end ChatMarkup
