import ChatMarkup.Convert
import ChatMarkup.Settings.Basic

namespace ChatMarkup

inductive Platform where
  | slack
  | telegram
  | discord
  deriving DecidableEq, Repr

namespace Platform

def all : List Platform := [slack, telegram, discord]

def name : Platform → Text
  | slack => "slack".toList
  | telegram => "telegram".toList
  | discord => "discord".toList

def ofName (name : Text) : Except Fault Platform :=
  match all.find? (·.name = name) with
  | some platform => .ok platform
  | none => .error (.unknownPlatform name)

def fixedDialect? : Platform → Option Dialect
  | slack => some .slack
  | telegram => some .telegram
  | discord => none

def dialect? (platform : Platform) (settings : Settings) : Option Dialect :=
  platform.fixedDialect? <|> settings.discordDialect

def style (settings : Settings) : Dialect → Style
  | .slack => .slack
  | .telegram => { Style.telegram with escapesUrl := settings.escapesTelegramUrls }

def format (platform : Platform) (settings : Settings) (text : Text) : Reported Text :=
  match platform.dialect? settings with
  | none => pure text
  | some dialect =>
    (convert dialect (style settings dialect) text).within
      [("platform".toList, .text platform.name)]

end Platform

end ChatMarkup
