import ChatMarkup.Placeholder.Fill
import ChatMarkup.Placeholder.Region
import ChatMarkup.Placeholder.Table
import ChatMarkup.Style.Source

namespace ChatMarkup.Placeholder

abbrev Shelf := List (Text × Table)

namespace Shelf

inductive Use where
  | register (span : Span)
  | build (segments : List Segment)
  | buildText (text : Text)
  | count
  | spans
  | render (style : Style.Source)
  | escape (text : Text) (reserved : List Text)
  | fill (text : Text) (style : Style.Source)
  deriving Repr

inductive Command where
  | create (name mark : Text)
  | createFor (name text : Text)
  | use (name : Text) (use : Use)
  deriving Repr

inductive Answer where
  | text (text : Text)
  | count (n : Nat)
  | spans (spans : List Span)
  | rendered (finals : List (Text × Text))
  deriving DecidableEq, Repr

def put (shelf : Shelf) (name : Text) (table : Table) : Shelf :=
  (name, table) :: shelf.filter (·.1 ≠ name)

def answer (library : Validation) (table : Table) : Use → Except Fault Answer × Table
  | .register span =>
    let added := table.add span
    (.ok (.text added.1), added.2)
  | .build segments =>
    let built := table.build segments
    (.ok (.text built.1), built.2)
  | .buildText text =>
    let built := table.build (segments text)
    (.ok (.text built.1), built.2)
  | .count => (.ok (.count table.entries.length), table)
  | .spans => (.ok (.spans table.spans), table)
  | .render source =>
    ((Style.ofSource library source >>= table.render).map .rendered, table)
  | .escape text reserved =>
    ((escapeAround reserved table.mark text).result.map .text, table)
  | .fill text source =>
    ((do
      let style ← Style.ofSource library source
      let finals ← table.render style
      (Placeholder.fill text finals table.mark).result).map .text, table)

def run (library : Validation) (shelf : Shelf) : Command → Except Fault Answer × Shelf
  | .create name mark => (.ok (.text mark), shelf.put name { mark })
  | .createFor name text =>
    match (Table.forText text).result with
    | .ok table => (.ok (.text table.mark), shelf.put name table)
    | .error fault => (.error fault, shelf)
  | .use name use =>
    match shelf.lookup name with
    | none => (.error (.unknownTable name), shelf)
    | some table =>
      let answered := answer library table use
      (answered.1, shelf.put name answered.2)

def runAll (library : Validation) (shelf : Shelf) : List Command → List (Except Fault Answer) × Shelf
  | [] => ([], shelf)
  | command :: rest =>
    let first := shelf.run library command
    let others := runAll library first.2 rest
    (first.1 :: others.1, others.2)

end Shelf

end ChatMarkup.Placeholder
