import ChatMarkup.Libraries
import ChatMarkup.Log.Foreign
import ChatMarkup.Log.Memory
import ChatMarkup.Settings.Dotenv

namespace ChatMarkup

/-- The libraries to run the program with. -/
def Libraries.standard (directory : FilePath) (time : Text) (sourceLine : Nat) : Libraries where
  fillMessage := Value.fillMessage
  settings := .standard
  logging := .memory directory time sourceLine

end ChatMarkup
