import ChatMarkup.Log.Reported
import ChatMarkup.Placeholder.Fill
import ChatMarkup.Placeholder.Region
import ChatMarkup.Placeholder.Table

namespace ChatMarkup

open Placeholder

def Record.converted (dialect : Dialect) (spans before after : Nat) : Record where
  severity := .level .debug
  message :=
    "TRANSCODE: dialect=".toList ++ dialect.name ++ " spans=".toList ++ Text.ofNat spans ++
      " in_len=".toList ++ Text.ofNat before ++ " out_len=".toList ++ Text.ofNat after
  origin := ⟨"messaging.rendering.transcoder".toList, "transcode".toList⟩

/-- Spans are taken out, what is left is escaped, and every span comes back in the dialect's style. -/
def convert (dialect : Dialect) (style : Style) (text : Text) : Reported Text :=
  if text = [] then pure []
  else Reported.within [("dialect".toList, .text dialect.name)] do
    let empty ← Table.forText text
    let (marked, table) := empty.build (segments text)
    let escaped ← escapeAround style.reserved table.mark marked
    let finals ← Reported.ofExcept (table.render style)
    let result ← fill escaped finals table.mark
    Reported.emit (.converted dialect table.entries.length text.length result.length)
    return result

def convertNamed (name : Text) (style : Option Style) (text : Text) : Reported Text :=
  match Dialect.ofName? name with
  | some dialect => convert dialect (style.getD dialect.style) text
  | none => Reported.ofExcept (.error (.unknownDialect name))

end ChatMarkup
