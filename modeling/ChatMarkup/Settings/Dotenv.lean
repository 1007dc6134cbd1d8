import ChatMarkup.Settings.Library
import ChatMarkup.Text.Blank
import ChatMarkup.Value.Standard

namespace ChatMarkup

namespace Dotenv

def dropComment : Text → Text
  | [] => []
  | c :: rest =>
    if Text.isBlank c && (Text.trimLeft rest).head? = some '#' then []
    else c :: dropComment rest

def quotedValue? (quote : Char) (text : Text) : Option Text :=
  let value := text.takeWhile (· ≠ quote)
  match text.drop value.length with
  | [] => none
  | _ :: rest =>
    match Text.trimLeft rest with
    | [] | '#' :: _ => some value
    | _ => none

/-- A `#` that stands first after a blank starts a comment. -/
def value? (text : Text) : Option Text :=
  match Text.trimLeft text with
  | '\'' :: rest => quotedValue? '\'' rest
  | '"' :: rest => quotedValue? '"' rest
  | _ => some (Text.trimRight (Text.trimLeft (dropComment text)))

def dropExport (line : Text) : Text :=
  match Text.after? "export".toList line with
  | some (c :: rest) => if Text.isBlank c then Text.trimLeft rest else line
  | _ => line

def binding? (line : Text) : Option (Text × Text) :=
  let line := dropExport (Text.trimLeft line)
  let name := line.takeWhile fun c => c ≠ '=' && c ≠ '#' && !Text.isBlank c
  match name, Text.trimLeft (line.drop name.length) with
  | _ :: _, '=' :: rest => (value? rest).map fun value => (name, value)
  | _, _ => none

def bindings (content : Text) : Variables :=
  (Text.pieces (fun c => c = '\n' || c = '\r') content).filterMap binding?

def read (content : Text) : Variables :=
  (bindings content).foldl (fun entries (name, value) => entries.put name value) []

end Dotenv

def firstNamed? {α : Type} (name : Text) (entries : List (Text × α)) : Option α :=
  (entries.find? (·.1.lower = name)).map (·.2)

def lastNamed? {α : Type} (name : Text) (entries : List (Text × α)) : Option α :=
  firstNamed? name entries.reverse

/-- Of names that differ in case only, the first one given counts, and the last variable. -/
def Sources.find? (sources : Sources) (name : Text) : Option Value :=
  firstNamed? name sources.given <|>
    ((lastNamed? name sources.environment <|> lastNamed? name (Dotenv.read sources.file)).map
      Value.text)

def SettingsLibrary.standard : SettingsLibrary where
  toValidation := .standard
  collect names sources := names.filterMap fun name => (sources.find? name).map (name, ·)
  given? given name := firstNamed? name given
  environment? environment name := lastNamed? name environment
  bindings := Dotenv.bindings
  file? content name := lastNamed? name (Dotenv.read content)

end ChatMarkup
