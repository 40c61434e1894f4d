/-!
# Values of a data format

What a text in JSON or YAML stands for before anybody asks what record it is. The value is
decoded by what is wanted of it, so a value that was read but cannot be used (a text with half a
surrogate pair, a number beyond all bounds, a list nested too deep) stays in the tree as
`unreadable`: wanting it fails, and skipping over it does not.
-/

namespace CatalogRecords

/-- A value of a data format. -/
inductive Data where
  | null
  | bool (value : Bool)
  /-- An integer that fits 64 bits, signed or not. -/
  | int (value : Int)
  /-- Any other finite number. -/
  | real
  | text (value : String)
  /-- A word without quotes, which is read as whatever kind of value is wanted. -/
  | plain (word : String)
  | list (items : List Data)
  /-- Named values in the order they were written, where a name may come twice. -/
  | map (entries : List (String × Data))
  | unreadable
  deriving Repr, Inhabited

namespace Data

mutual

/-- Turns lists and maps at a greater depth than `levels` into unreadable values. -/
def limitDepth (levels : Nat) : Data → Data
  | .list items => if levels = 0 then .unreadable else .list (limitItems (levels - 1) items)
  | .map entries => if levels = 0 then .unreadable else .map (limitEntries (levels - 1) entries)
  | other => other

/-- `limitDepth` on the items of a list. -/
def limitItems (levels : Nat) : List Data → List Data
  | [] => []
  | item :: items => item.limitDepth levels :: limitItems levels items

/-- `limitDepth` on the entries of a map. -/
def limitEntries (levels : Nat) : List (String × Data) → List (String × Data)
  | [] => []
  | (name, value) :: entries => (name, value.limitDepth levels) :: limitEntries levels entries

end

mutual

/-- Whether nothing in the value is unreadable. -/
def isReadable : Data → Bool
  | .unreadable => false
  | .list items => readableItems items
  | .map entries => readableEntries entries
  | _ => true

/-- `isReadable` of all items. -/
def readableItems : List Data → Bool
  | [] => true
  | item :: items => item.isReadable && readableItems items

/-- `isReadable` of the values of all entries. -/
def readableEntries : List (String × Data) → Bool
  | [] => true
  | (_, value) :: entries => value.isReadable && readableEntries entries

end

/-- A named value, absent when there is none. -/
def entryIfSome (name : String) : Option Data → List (String × Data)
  | some value => [(name, value)]
  | none => []

/-- A named text, absent when there is none. -/
def textEntry? (name : String) (value : Option String) : List (String × Data) :=
  entryIfSome name (value.map Data.text)

/-- A named value, written only if `shown`. -/
def entryIf (shown : Bool) (name : String) (value : Data) : List (String × Data) :=
  if shown then [(name, value)] else []

/-- A text, or null when there is none. -/
def ofText? : Option String → Data
  | some s => .text s
  | none => .null

/-- A list of texts. -/
def ofTexts (texts : List String) : Data := .list (texts.map Data.text)

end Data

end CatalogRecords
