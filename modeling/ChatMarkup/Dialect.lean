import ChatMarkup.Text.Search

namespace ChatMarkup

inductive Dialect where
  | slack
  | telegram
  deriving DecidableEq, Repr

namespace Dialect

def all : List Dialect := [slack, telegram]

def name : Dialect → Text
  | slack => "slack".toList
  | telegram => "telegram".toList

def ofName? (name : Text) : Option Dialect := all.find? (·.name = name)

theorem ofName?_name (dialect : Dialect) : ofName? dialect.name = some dialect := by
  cases dialect <;> decide

theorem name_of_ofName? {name : Text} {dialect : Dialect} (found : ofName? name = some dialect) :
    dialect.name = name := by
  simpa using List.find?_some found

end Dialect

end ChatMarkup
