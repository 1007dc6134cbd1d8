import ChatMarkup.Dialect
import ChatMarkup.Log.Level
import ChatMarkup.Settings.Library
import ChatMarkup.Value.Shown

namespace ChatMarkup

structure Settings where
  logFile : Text := "transcoder.log".toList
  logLevel : Level := .debug
  escapesTelegramUrls : Bool := true
  discordDialect : Option Dialect := none
  deriving DecidableEq, Repr

namespace Settings

def logFileField : Declared Text where
  name := "log_file".toList
  shape := .text
  missing := ({} : Settings).logFile

def logLevelField : Declared Level where
  name := "log_level".toList
  shape := .choice Level.name Level.all
  missing := ({} : Settings).logLevel
  before value := .text value.shown.upper

def escapesTelegramUrlsField : Declared Bool where
  name := "telegram_escape_link_urls".toList
  shape := .flag
  missing := ({} : Settings).escapesTelegramUrls

def discordDialectField : Declared (Option Dialect) where
  name := "discord_dialect".toList
  shape := .optional (.choice Dialect.name Dialect.all)
  missing := ({} : Settings).discordDialect
  before
    | .text [] => .null
    | value => value

def model : Model Settings :=
  .field (.field (.field (.field (.build Settings.mk) logFileField) logLevelField)
    escapesTelegramUrlsField) discordDialectField

def ofSources (library : SettingsLibrary) (sources : Sources) : Checked Settings :=
  library.validate model (library.collect model.names sources)

def fields (settings : Settings) : Fields :=
  [("log_file".toList, .text settings.logFile),
   ("log_level".toList, .text settings.logLevel.name),
   ("telegram_escape_link_urls".toList, .bool settings.escapesTelegramUrls),
   ("discord_dialect".toList, (settings.discordDialect.map (Value.text ·.name)).getD .null)]

end Settings

end ChatMarkup
