import CatalogRecords.Text.Segments

/-!
# Names of term tables

Several dictionaries can share a database: each has a text of letters, digits and underscores that
the name of its table begins with. Names are compared without regard to the case of Latin letters.
A name that begins with a digit cannot be written in a statement, and names that begin with
`sqlite_` are reserved.
-/

namespace CatalogRecords

/-- Whether a text can stand before the name of a table. -/
def isTablePrefix (text : String) : Bool :=
  !text.isEmpty && text.toList.all fun c => Text.isAlphanumeric c || c == '_'

/-- What the name of a table begins with. -/
structure TablePrefix where
  text : String
  valid : isTablePrefix text = true
  deriving DecidableEq, Repr

namespace TablePrefix

/-- A text as the beginning of a name, if it can be one. -/
def ofText? (text : String) : Option TablePrefix :=
  if h : isTablePrefix text = true then some ⟨text, h⟩ else none

/-- The name of the table. -/
def tableName (p : TablePrefix) : String := p.text ++ "terms"

/-- Whether the name of the table can be written in a statement. -/
def isWritable (p : TablePrefix) : Bool := !(p.text.toList.head?.any Char.isDigit)

/-- A name as it is compared with others. -/
def folded (name : String) : String := String.ofList (name.toList.map Char.toLower)

/-- Whether the name of the table is one of those that a database keeps for itself. -/
def isReserved (p : TablePrefix) : Bool := Text.startsWith (folded p.tableName) "sqlite_"

/-- The statements that create the table and its index. -/
def createStatements (p : TablePrefix) : String :=
  "\nCREATE TABLE IF NOT EXISTS " ++ p.tableName ++ " (\n" ++
  "    id INTEGER PRIMARY KEY AUTOINCREMENT,\n" ++
  "    document_type TEXT NOT NULL,\n" ++
  "    field_path TEXT NOT NULL,\n" ++
  "    term TEXT NOT NULL,\n" ++
  "    url TEXT,\n" ++
  "    created_at TEXT NOT NULL DEFAULT (datetime('now')),\n" ++
  "    UNIQUE (field_path, term)\n" ++
  ");\n\n" ++
  "CREATE INDEX IF NOT EXISTS idx_" ++ p.tableName ++ "_document_type ON " ++ p.tableName ++
  "(document_type);\n"

/-- The statements that drop the index and the table. -/
def dropStatements (p : TablePrefix) : String :=
  "DROP INDEX IF EXISTS idx_" ++ p.tableName ++ "_document_type;\n" ++
  "DROP TABLE IF EXISTS " ++ p.tableName ++ ";\n"

end TablePrefix

end CatalogRecords
