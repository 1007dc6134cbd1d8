import ChatMarkup.Settings.Variables
import ChatMarkup.Value.Model

namespace ChatMarkup

structure Sources where
  given : Fields := []
  environment : Variables := []
  file : Text := []

/-- A validation library that also collects the values of fields. A program calls `collect` only. -/
structure SettingsLibrary extends Validation where
  collect : List Text → Sources → Fields
  given? : Fields → Text → Option Value
  environment? : Variables → Text → Option Text
  bindings : Text → Variables
  file? : Text → Text → Option Text

namespace SettingsLibrary

def winner (library : SettingsLibrary) (sources : Sources) (name : Text) : Option Value :=
  library.given? sources.given name <|>
    ((library.environment? sources.environment name <|> library.file? sources.file name).map .text)

structure Lawful (library : SettingsLibrary) : Prop where
  validation : library.toValidation.Lawful
  lookup_collect {names : List Text} {name : Text} (declared : name ∈ names) (sources : Sources) :
    (library.collect names sources).lookup name = library.winner sources name
  given_none_iff {given : Fields} {name : Text} :
    library.given? given name = none ↔ ¬ Named given name
  mem_given {given : Fields} {name : Text} {value : Value}
    (found : library.given? given name = some value) :
    ∃ spelling, (spelling, value) ∈ given ∧ spelling.lower = name
  environment_none_iff {environment : Variables} {name : Text} :
    library.environment? environment name = none ↔ ¬ Named environment name
  mem_environment {environment : Variables} {name value : Text}
    (found : library.environment? environment name = some value) :
    ∃ spelling, (spelling, value) ∈ environment ∧ spelling.lower = name
  file_none_iff {content name : Text} :
    library.file? content name = none ↔ ¬ Named (library.bindings content) name
  last_of_file {content name value : Text} (found : library.file? content name = some value) :
    ∃ spelling, (library.bindings content).Last spelling value ∧ spelling.lower = name

end SettingsLibrary

end ChatMarkup
