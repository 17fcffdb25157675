/-!
# Table names

A table name stands inside SQL text, so only plain identifiers are accepted. SQLite compares
names without regard to the case of ASCII letters.
-/

namespace PriceTracker.Storage

/-- An ASCII letter or an underscore. -/
def isIdentifierStart (c : Char) : Bool :=
  c.isAlpha || c == '_'

/-- An ASCII letter or digit or an underscore. -/
def isIdentifierRest (c : Char) : Bool :=
  c.isAlphanum || c == '_'

/-- A letter or underscore followed by letters, digits and underscores. -/
def isIdentifier (name : String) : Bool :=
  match name.toList with
  | [] => false
  | c :: cs => isIdentifierStart c && cs.all isIdentifierRest

/-- The form in which names are compared: ASCII letters in lower case. -/
def foldName (name : String) : String :=
  String.ofList (name.toList.map Char.toLower)

end PriceTracker.Storage
