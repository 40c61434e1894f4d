import CatalogRecords.Text.Segments

/-!
# Dictionaries

A dictionary answers whether a term belongs to a field. It may also give all terms of a document
type at once, in which case those alone are looked at.
-/

namespace CatalogRecords

/-- What a validation can ask of a dictionary. -/
structure Dictionary where
  termExists : String → String → Bool
  allTerms? : String → Option (List (String × List String))

namespace Dictionary

/-- The question whether a term belongs to a field, as asked for documents of a type. -/
def forType (d : Dictionary) (type : String) : String → String → Bool :=
  match d.allTerms? type with
  | some fields => fun path term =>
    match fields.lookup path with
    | some terms => terms.contains term
    | none => false
  | none => d.termExists

/-- The dictionary that is asked term by term only. -/
def perTerm (d : Dictionary) : Dictionary := { d with allTerms? := fun _ => none }

/-- Adds terms to those of a field. -/
def addTerms (fields : List (String × List String)) (path : String) (terms : List String) :
    List (String × List String) :=
  match fields with
  | [] => [(path, terms)]
  | (p, old) :: rest =>
    if p == path then (p, old ++ terms) :: rest else (p, old) :: addTerms rest path terms

/-- The dictionary of fixed lists of terms. -/
def ofLists (fields : List (String × List String)) : Dictionary where
  termExists path term :=
    match fields.lookup path with
    | some terms => terms.contains term
    | none => false
  allTerms? type := some (fields.filter fun (path, _) => Text.startsWith path (type ++ "."))

/-- The dictionary without terms. -/
def empty : Dictionary := ofLists []

end Dictionary

end CatalogRecords
