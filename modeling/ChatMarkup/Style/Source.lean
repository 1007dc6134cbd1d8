import ChatMarkup.Fault
import ChatMarkup.Style.Basic
import ChatMarkup.Value.Model

namespace ChatMarkup

namespace Style

inductive Source where
  | named (dialect : Text)
  | described (fields : Fields)
  deriving Repr

def model : Model Style :=
  let style : Style := {}
  .field (.field (.field (.field (.field (.field (.build Style.mk)
    { name := "reserved".toList, shape := .textSet, missing := style.reserved })
    { name := "escape_span_content".toList, shape := .flag, missing := style.escapesContent })
    { name := "escape_link_url".toList, shape := .flag, missing := style.escapesUrl })
    { name := "bold_delimiter".toList, shape := .text, missing := style.boldDelimiter })
    { name := "italic_delimiter".toList, shape := .text, missing := style.italicDelimiter })
    { name := "link_style".toList, shape := .choice LinkForm.name LinkForm.all,
      missing := style.linkForm }

def ofSource (library : Validation) : Source → Except Fault Style
  | .named name =>
    match Dialect.ofName? name with
    | some dialect => .ok dialect.style
    | none => .error (.unknownDialect name)
  | .described fields => (library.validateAll model fields).toExcept

def fields (style : Style) : Fields :=
  [("reserved".toList, .list (style.reserved.map .text)),
   ("escape_span_content".toList, .bool style.escapesContent),
   ("escape_link_url".toList, .bool style.escapesUrl),
   ("bold_delimiter".toList, .text style.boldDelimiter),
   ("italic_delimiter".toList, .text style.italicDelimiter),
   ("link_style".toList, .text style.linkForm.name)]

end Style

end ChatMarkup
