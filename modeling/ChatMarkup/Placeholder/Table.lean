import ChatMarkup.Log.Reported
import ChatMarkup.Span.Render
import ChatMarkup.Span.Segments

namespace ChatMarkup.Placeholder

structure Table where
  mark : Text
  entries : List (Text × Span) := []
  deriving DecidableEq, Repr

namespace Table

def markCandidates : List Char :=
  ['\x00', '\x01', '\x02', '\x03', '\x04', '\x05', '\x06', '\x07', '\x0e', '\x0f']

def forText (text : Text) : Reported Table :=
  match markCandidates.find? (· ∉ text) with
  | some mark => pure { mark := [mark] }
  | none =>
    .raise
      (.error "messaging.rendering.placeholders" "for_text"
        "PLACEHOLDERS: no free sentinel, input contains all candidates".toList)
      .noFreeMark

def placeholder (mark : Text) (n : Nat) : Text := mark ++ 'P' :: Text.ofNat n ++ mark

def spans (table : Table) : List Span := table.entries.map (·.2)

def add (table : Table) (span : Span) : Text × Table :=
  let fresh := placeholder table.mark table.entries.length
  (fresh, { table with entries := table.entries ++ [(fresh, span)] })

@[simp] theorem spans_add (table : Table) (span : Span) :
    (table.add span).2.spans = table.spans ++ [span] := by
  simp [add, spans]

@[simp] theorem mark_add (table : Table) (span : Span) : (table.add span).2.mark = table.mark := rfl

def build (table : Table) : List Segment → Text × Table
  | [] => ([], table)
  | .plain text :: rest =>
    let built := table.build rest
    (text ++ built.1, built.2)
  | .span span :: rest =>
    let added := table.add span
    let built := added.2.build rest
    (added.1 ++ built.1, built.2)

theorem spans_build (table : Table) (segments : List Segment) :
    (table.build segments).2.spans = table.spans ++ Segment.spans segments := by
  induction segments generalizing table with
  | nil => simp [build]
  | cons segment rest ih => cases segment <;> simp [build, ih]

theorem mark_build (table : Table) (segments : List Segment) :
    (table.build segments).2.mark = table.mark := by
  induction segments generalizing table with
  | nil => rfl
  | cons segment rest ih => cases segment <;> simp [build, ih]

def render (table : Table) (style : Style) : Except Fault (List (Text × Text)) :=
  table.entries.mapM fun (placeholder, span) => do
    let final ← span.render style
    .ok (placeholder, final)

end Table

end ChatMarkup.Placeholder
