import ChatMarkup.Dialect

namespace ChatMarkup

inductive LinkForm where
  | angle
  | inline
  deriving DecidableEq, Repr

namespace LinkForm

def all : List LinkForm := [angle, inline]

def name : LinkForm → Text
  | angle => "angle".toList
  | inline => "inline".toList

end LinkForm

/-- How a dialect writes text and spans. Every character of a member of `reserved` is escaped. -/
structure Style where
  reserved : List Text := []
  escapesContent : Bool := false
  escapesUrl : Bool := false
  boldDelimiter : Text := ['*']
  italicDelimiter : Text := ['_']
  linkForm : LinkForm := .angle
  deriving DecidableEq, Repr

namespace Style

def markdownV2Reserved : List Char :=
  ['!', '#', '(', ')', '*', '+', '-', '.', '=', '>', '[', ']', '_', '\x60', '\x7b', '|', '\x7d', '~']

def slack : Style := {}

def telegram : Style where
  reserved := markdownV2Reserved.map fun c => [c]
  escapesContent := true
  escapesUrl := true
  linkForm := .inline

end Style

def Dialect.style : Dialect → Style
  | slack => .slack
  | telegram => .telegram

end ChatMarkup
