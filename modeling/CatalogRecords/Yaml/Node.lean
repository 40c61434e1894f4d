import CatalogRecords.Data.Record

/-!
# YAML nodes

A YAML document is a tree of scalars, lists and maps. Words without quotes may stand for other
values than texts, which depends on who reads the tree: `toData` leaves them as words, to be read as
whatever is wanted, and `settled?` takes each for the value that it looks like, insists that no map
has a key twice, and has no use for maps with other keys than texts.
-/

namespace CatalogRecords.Yaml

/-- A node of a YAML document. -/
inductive Node where
  | scalar (isPlain : Bool) (text : String)
  | list (items : List Node)
  | map (entries : List (Node × Node))
  deriving Repr, Inhabited

/-- The node of a value that was left out. -/
def Node.absent : Node := .scalar true ""

/-- A scalar as a value. -/
def scalarData (isPlain : Bool) (text : String) : Data :=
  if isPlain then .plain text else .text text

/-- A map in which only scalars are keys. -/
def mapOfScalars (entries : List (Option String × Data)) : Data :=
  if entries.all fun entry => entry.1.isSome then
    .map (entries.map fun (key, value) => (key.getD "", value))
  else .unreadable

/-- The text of a scalar. -/
def Node.scalarText? : Node → Option String
  | .scalar _ text => some text
  | _ => none

mutual

/-- The value of a node, with words left as they are. -/
def Node.toData : Node → Data
  | .scalar isPlain text => scalarData isPlain text
  | .list items => .list (itemsData items)
  | .map entries => mapOfScalars (entriesData entries)

/-- The values of nodes, with words left as they are. -/
def itemsData : List Node → List Data
  | [] => []
  | item :: items => item.toData :: itemsData items

/-- The keys and values of entries, with words left as they are. -/
def entriesData : List (Node × Node) → List (Option String × Data)
  | [] => []
  | (key, value) :: entries => (key.scalarText?, value.toData) :: entriesData entries

end

/-- What tells the keys of a map apart: the value of a scalar, which for a number that is not an
integer is known by its word. -/
inductive Key where
  | null
  | bool (value : Bool)
  | int (value : Int)
  | text (value : String)
  | word (word : String)
  deriving DecidableEq

/-- The key that a scalar stands for. -/
def Key.ofScalar (isPlain : Bool) (text : String) : Key :=
  match (scalarData isPlain text).settle with
  | .null => .null
  | .bool b => .bool b
  | .int n => .int n
  | .text s => .text s
  | _ => .word text

/-- The text of a key, if it is one. -/
def Key.text? : Key → Option String
  | .text s => some s
  | _ => none

/-- The key of an entry; lists and maps are none. -/
def Node.key? : Node → Option Key
  | .scalar isPlain text => some (.ofScalar isPlain text)
  | _ => none

/-- Whether no member comes twice. -/
def allDifferent {α : Type} [BEq α] : List α → Bool
  | [] => true
  | a :: as => !as.contains a && allDifferent as

mutual

/-- The value of a node with every word taken for what it looks like. -/
def Node.settled? : Node → Option Data
  | .scalar isPlain text => some (scalarData isPlain text).settle
  | .list items => (settledItems? items).map .list
  | .map entries => do
    let settled ← settledEntries? entries
    if allDifferent (settled.filterMap Prod.fst) then
      some (mapOfScalars (settled.map fun (key, value) => (key.bind Key.text?, value)))
    else none

/-- The values of nodes with every word taken for what it looks like. -/
def settledItems? : List Node → Option (List Data)
  | [] => some []
  | item :: items => do
    let value ← item.settled?
    let values ← settledItems? items
    some (value :: values)

/-- The keys and values of entries with every word taken for what it looks like. -/
def settledEntries? : List (Node × Node) → Option (List (Option Key × Data))
  | [] => some []
  | (key, value) :: entries => do
    let value ← value.settled?
    let rest ← settledEntries? entries
    some ((key.key?, value) :: rest)

end

end CatalogRecords.Yaml
