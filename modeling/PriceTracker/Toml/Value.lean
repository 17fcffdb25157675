/-!
# TOML documents

The values of a TOML document, and the rules by which keys and headers build its tables. A table
remembers what brought it into being, because that decides what may still add to it.

* `Node.define` adds a key and its value, through the tables of a dotted key;
* `Node.openTable?` and `Node.openItem?` add the table of a header and of an array header.
-/

namespace PriceTracker.Toml

/-- A value of a TOML document. -/
inductive Value where
  | text (s : String)
  | integer (n : Int)
  | float (x : Float)
  | boolean (b : Bool)
  /-- A date, a time or both, as written. -/
  | moment (s : String)
  | array (items : List Value)
  | table (entries : List (String × Value))
  deriving Inhabited

/-- What brought a table into being. -/
inductive Origin where
  /-- A longer header passed through it. -/
  | passed
  /-- A dotted key passed through it. -/
  | dotted
  /-- Its own header or braces, or it is the whole document. -/
  | stated
  deriving DecidableEq, Repr

/-- A part of a document under construction. -/
inductive Node where
  /-- A finished value. -/
  | leaf (value : Value)
  /-- A table, with the way it came about. -/
  | table (origin : Origin) (entries : List (String × Node))
  /-- The tables of an array header, the latest first. -/
  | items (latestFirst : List Node)
  deriving Inhabited

namespace Node

/-- The entry of a key. -/
def find? (key : String) (entries : List (String × Node)) : Option Node :=
  (entries.find? (·.1 == key)).map (·.2)

/-- Replaces the entry of a key, or adds one at the end. -/
def put (key : String) (node : Node) : List (String × Node) → List (String × Node)
  | [] => [(key, node)]
  | (k, n) :: rest => if k == key then (k, node) :: rest else (k, n) :: put key node rest

/-- Changes the table that a path leads to. Missing tables on the way are made with the given
origin. A dotted key may not pass through a table that was stated; through an array of tables the
path leads into the latest. -/
def within (made : Origin) (change : Node → Option Node) : List String → Node → Option Node
  | [], node => change node
  | key :: path, .table origin entries => do
    let inner ← match find? key entries with
      | none => within made change path (.table made [])
      | some (.leaf _) => none
      | some (.items []) => none
      | some (.items (latest :: older)) =>
        (within made change path latest).map fun changed => .items (changed :: older)
      | some (.table o es) =>
        if made == .dotted && o == .stated then none else within made change path (.table o es)
    return .table origin (put key inner entries)
  | _ :: _, _ => none

/-- Adds a key to a table, unless it has the key. -/
def add (key : String) (node : Node) : Node → Option Node
  | .table origin entries =>
    match find? key entries with
    | some _ => none
    | none => some (.table origin (entries ++ [(key, node)]))
  | _ => none

/-- Adds a key that stands alone; the tables made by dotted keys take no such key. -/
def addPlain (key : String) (node : Node) : Node → Option Node
  | .table .dotted _ => none
  | target => add key node target

/-- Adds the last part of a dotted key; only a table made by dotted keys takes it. -/
def addDotted (key : String) (node : Node) : Node → Option Node
  | .table .dotted entries => add key node (.table .dotted entries)
  | _ => none

/-- Adds a key, possibly dotted, and its value. -/
def define (path : List String) (key : String) (node : Node) (target : Node) : Option Node :=
  if path.isEmpty then addPlain key node target
  else within .dotted (addDotted key node) path target

/-- Puts a stated table under a key: a new one, or one that longer headers passed through. -/
def state (key : String) : Node → Option Node
  | .table origin entries =>
    match find? key entries with
    | none => some (.table origin (entries ++ [(key, .table .stated [])]))
    | some (.table .passed inner) => some (.table origin (put key (.table .stated inner) entries))
    | some _ => none
  | _ => none

/-- Adds a table to the array under a key. -/
def stateItem (key : String) : Node → Option Node
  | .table origin entries =>
    match find? key entries with
    | none => some (.table origin (entries ++ [(key, .items [.table .stated []])]))
    | some (.items older) => some (.table origin (put key (.items (.table .stated [] :: older)) entries))
    | some _ => none
  | _ => none

/-- The table of a header: its path is the header without the last key. -/
def openTable? (path : List String) (key : String) (root : Node) : Option Node :=
  within .passed (state key) path root

/-- The next table of an array header. -/
def openItem? (path : List String) (key : String) (root : Node) : Option Node :=
  within .passed (stateItem key) path root

mutual

/-- The value that a finished part stands for. -/
def toValue : Node → Value
  | .leaf value => value
  | .table _ entries => .table (entryValues entries)
  | .items latestFirst => .array (itemValues latestFirst).reverse

/-- The values of the entries of a table. -/
def entryValues : List (String × Node) → List (String × Value)
  | [] => []
  | (key, node) :: rest => (key, toValue node) :: entryValues rest

/-- The values of the tables of an array. -/
def itemValues : List Node → List Value
  | [] => []
  | node :: rest => toValue node :: itemValues rest

end

end Node

end PriceTracker.Toml
