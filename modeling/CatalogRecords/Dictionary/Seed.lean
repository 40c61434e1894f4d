import CatalogRecords.Data.Record

/-!
# Seeds

A seed lists the terms of some fields, to be put into a dictionary. A term is a text, or a text
with a reference. The fields are in the order of their paths; of a path given twice the last list
of terms holds.
-/

namespace CatalogRecords

open Data (text?)

/-- A term of a seed, alone or in a record that may give a reference. -/
inductive SeedTerm where
  | plain (term : String)
  | linked (term : String) (url : Option String)
  deriving DecidableEq, Repr

namespace SeedTerm

/-- The text of a term. -/
def term : SeedTerm → String
  | plain term => term
  | linked term _ => term

/-- The reference of a term. -/
def url : SeedTerm → Option String
  | plain _ => none
  | linked _ url => url

/-- A term as it is written. -/
def encode : SeedTerm → Data
  | plain term => .text term
  | linked term url => .map (("term", .text term) :: Data.textEntry? "url" url)

/-- Reads a term; a word that looks like another value is no text here. -/
def decode? (value : Data) : Option SeedTerm :=
  match value.settle with
  | .text term => some (.plain term)
  | .map entries => do
    let value := Data.map entries
    let r ← value.record? .json ["term", "url"]
    let term ← r.required "term" fun part => text? part.1
    let url ← r.optional "url" fun part => text? part.1
    if value.isReadable then some (.linked term url) else none
  | _ => none

end SeedTerm

/-- The terms of some fields, in the order of the paths. -/
structure Seed where
  fields : List (String × List SeedTerm)
  deriving DecidableEq, Repr

namespace Seed

/-- Puts the terms of a field among those of others, in place of those it had. -/
def put (path : String) (terms : List SeedTerm) :
    List (String × List SeedTerm) → List (String × List SeedTerm)
  | [] => [(path, terms)]
  | (p, old) :: rest =>
    if path < p then (path, terms) :: (p, old) :: rest
    else if path = p then (path, terms) :: rest
    else (p, old) :: put path terms rest

/-- The seed of lists of terms in any order. -/
def ofLists (lists : List (String × List SeedTerm)) : Seed :=
  ⟨lists.foldl (fun fields (path, terms) => put path terms fields) []⟩

/-- Reads a seed. -/
def decode? (dialect : Dialect) (value : Data) : Option Seed :=
  (value.entries? dialect (Data.list? dialect SeedTerm.decode?)).map ofLists

/-- A seed as it is written. -/
def encode (s : Seed) : Data :=
  .map (s.fields.map fun (path, terms) => (path, .list (terms.map SeedTerm.encode)))

/-- The terms with the paths of their fields, in order. -/
def entries (s : Seed) : List (String × SeedTerm) :=
  s.fields.flatMap fun (path, terms) => terms.map (path, ·)

/-- The number of terms. -/
def termCount (s : Seed) : Nat := (s.fields.flatMap Prod.snd).length

end Seed

end CatalogRecords
