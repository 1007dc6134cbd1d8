import ChatMarkup.Log.Library
import ChatMarkup.Settings.Library

namespace ChatMarkup

structure Libraries where
  fillMessage : Text → List Value → Except Fault Text
  settings : SettingsLibrary
  logging : LogLibrary

end ChatMarkup
