import ChatMarkup.Span.Render

namespace ChatMarkup

namespace Span

def make (kind : Kind) (content : Text) (url : Option Text) : Except Fault Span :=
  match make? kind content url with
  | some span => .ok span
  | none => .error (.unknownKind kind.name)

def write (style : Style) (kind : Kind) (content : Text) (url : Option Text) : Except Fault Text :=
  do
  let span ← make kind content url
  span.render style

end Span

namespace Dialect

def bold (dialect : Dialect) (text : Text) : Except Fault Text :=
  Span.write dialect.style .bold text none

def italic (dialect : Dialect) (text : Text) : Except Fault Text :=
  Span.write dialect.style .italic text none

def inlineCode (dialect : Dialect) (text : Text) : Except Fault Text :=
  Span.write dialect.style .inlineCode text none

def link (dialect : Dialect) (label target : Text) : Except Fault Text :=
  Span.write dialect.style .link label (some target)

def plain (dialect : Dialect) (text : Text) : Except Fault Text := text.escape dialect.style.reserved

end Dialect

end ChatMarkup
