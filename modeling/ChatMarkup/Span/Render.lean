import ChatMarkup.Escape
import ChatMarkup.Span.Basic
import ChatMarkup.Style.Basic

namespace ChatMarkup.Span

def renderContent (style : Style) (content : Text) : Except Fault Text :=
  if style.escapesContent then content.escape style.reserved else .ok content

def renderTarget (style : Style) (target : Text) : Except Fault Text :=
  target.escape (if style.escapesUrl then style.reserved else [[')']])

def render (style : Style) (span : Span) : Except Fault Text :=
  match span.kind with
  | .codeBlock | .inlineCode => .ok span.raw
  | .link =>
    let target := span.url.getD []
    match style.linkForm with
    | .angle => .ok ('<' :: target ++ '|' :: span.content ++ ['>'])
    | .inline => do
      let target ← renderTarget style target
      let label ← renderContent style span.content
      .ok ('[' :: label ++ ']' :: '(' :: target ++ [')'])
  | .bold => do
    let content ← renderContent style span.content
    .ok (style.boldDelimiter ++ content ++ style.boldDelimiter)
  | .italic => do
    let content ← renderContent style span.content
    .ok (style.italicDelimiter ++ content ++ style.italicDelimiter)
  | .other name => .error (.unsupportedKind name)

end ChatMarkup.Span
