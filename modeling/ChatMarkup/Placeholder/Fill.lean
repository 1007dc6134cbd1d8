import ChatMarkup.Log.Reported

namespace ChatMarkup.Placeholder

/-- Puts every final text in place of the first occurrence of its placeholder, in order. -/
def fill (text : Text) (finals : List (Text × Text)) (mark : Text) : Reported Text :=
  match finals with
  | [] =>
    if (Text.breakOn? mark text).isSome then
      .raise
        (.error "messaging.rendering.reassembler" "reassemble"
          ("REASSEMBLE: sentinel ".toList ++ mark.quoted ++ " left in output".toList))
        (.leftover mark)
    else pure text
  | (placeholder, final) :: rest =>
    match Text.replaceFirst? placeholder final text with
    | none =>
      .raise
        (.error "messaging.rendering.reassembler" "reassemble"
          ("REASSEMBLE: placeholder ".toList ++ placeholder.quoted ++ " not found".toList))
        (.missing placeholder)
    | some replaced => fill replaced rest mark

end ChatMarkup.Placeholder
