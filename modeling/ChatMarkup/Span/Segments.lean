import ChatMarkup.Span.Enclosed
import ChatMarkup.Span.Link

namespace ChatMarkup

def Pattern.all : List Pattern :=
  [.codeBlock, .inlineCode, .link, .bold, .asteriskItalic, .underscoreItalic]

/-- Each pattern is looked for in what the patterns before it left plain. -/
def segments (text : Text) : List Segment :=
  Pattern.all.foldl (fun parts pattern => pattern.refine parts) [.plain text]

end ChatMarkup
