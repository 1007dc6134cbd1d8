import ChatMarkup.Text.Closer

namespace ChatMarkup

/-- The inline units of markdown. A span from elsewhere may name a kind that is none of them. -/
inductive Span.Kind where
  | codeBlock
  | inlineCode
  | link
  | bold
  | italic
  | other (name : Text)
  deriving DecidableEq, Repr

namespace Span.Kind

def name : Span.Kind → Text
  | codeBlock => "code_block".toList
  | inlineCode => "inline_code".toList
  | link => "link".toList
  | bold => "bold".toList
  | italic => "italic".toList
  | other name => name

def ofName (name : Text) : Span.Kind :=
  ([codeBlock, inlineCode, link, bold, italic].find? (·.name = name)).getD (other name)

def isCode : Span.Kind → Bool
  | codeBlock | inlineCode => true
  | _ => false

end Span.Kind

/-- A piece of markdown: `raw` with its delimiters, `content` between them. The content of a link is
    its label; `content` and `url` stand without the backslashes that protect closing brackets. -/
structure Span where
  kind : Span.Kind
  raw : Text
  content : Text
  delimiter : Text
  url : Option Text := none
  deriving DecidableEq, Repr

inductive Segment where
  | plain (text : Text)
  | span (unit : Span)
  deriving DecidableEq, Repr

namespace Segment

def raw : Segment → Text
  | .plain text => text
  | .span unit => unit.raw

def span? : Segment → Option Span
  | .plain _ => none
  | .span unit => some unit

def consPlain (c : Char) : List Segment → List Segment
  | .plain text :: rest => .plain (c :: text) :: rest
  | segments => .plain [c] :: segments

def source (segments : List Segment) : Text := segments.flatMap raw

def spans (segments : List Segment) : List Span := segments.filterMap span?

@[simp] theorem spans_nil : spans [] = [] := rfl

@[simp] theorem spans_plain (text : Text) (rest : List Segment) :
    spans (.plain text :: rest) = spans rest := rfl

@[simp] theorem spans_span (unit : Span) (rest : List Segment) :
    spans (.span unit :: rest) = unit :: spans rest := rfl

@[simp] theorem spans_append (left right : List Segment) :
    spans (left ++ right) = spans left ++ spans right := by
  simp [spans]

@[simp] theorem source_nil : source [] = [] := rfl

@[simp] theorem source_cons (segment : Segment) (rest : List Segment) :
    source (segment :: rest) = segment.raw ++ source rest := rfl

@[simp] theorem source_append (left right : List Segment) :
    source (left ++ right) = source left ++ source right := by
  simp [source]

@[simp] theorem source_consPlain (c : Char) (segments : List Segment) :
    source (consPlain c segments) = c :: source segments := by
  unfold consPlain
  split <;> simp [raw]

end Segment

namespace Span

def fence : Text := ['\x60', '\x60', '\x60']

def backtick : Text := ['\x60']

def enclosed (kind : Kind) (delimiter content : Text) : Span where
  kind := kind
  raw := delimiter ++ content ++ delimiter
  content := content
  delimiter := delimiter

def ofWrittenLink (label target : Text) : Span where
  kind := .link
  raw := '[' :: label ++ ']' :: '(' :: target ++ [')']
  content := label.unprotect ']'
  delimiter := ['[']
  url := some (target.unprotect ')')

/-- None has an unknown kind; a target is kept by links alone. -/
def make? (kind : Kind) (content : Text) (url : Option Text) : Option Span :=
  match kind with
  | .codeBlock => some (enclosed kind fence content)
  | .inlineCode => some (enclosed kind backtick content)
  | .bold => some (enclosed kind ['*', '*'] content)
  | .italic => some (enclosed kind ['*'] content)
  | .link =>
    some {
      kind := .link
      raw := '[' :: content.protect ']' ++ ']' :: '(' :: (url.getD []).protect ')' ++ [')']
      content := content
      delimiter := ['[']
      url := url }
  | .other _ => none

end Span

end ChatMarkup
