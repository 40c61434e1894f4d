import CatalogRecords.Dictionary.Seed
import CatalogRecords.Files.Format
import CatalogRecords.Schema.Encoding

/-!
# Registries of document types

A registry holds document types, no two with the same identifier, and finds elements by their
complete paths, whose first segment names the type. It is made from definitions, which may come
from the files of a directory or from one bundle; of several sources the first one that can be
loaded is taken.
-/

namespace CatalogRecords

/-- Where the definitions of a registry came from. -/
inductive RegistrySource where
  | directory (path : String)
  | bundle (path : String)
  | memory
  deriving DecidableEq, Repr

/-- Where a registry came from: one source, or the first one of several that could be loaded. -/
inductive RegistryOrigin where
  | single (source : RegistrySource)
  | firstOf (sources : List RegistrySource) (loaded : RegistrySource)
  deriving DecidableEq, Repr

/-- Document types with different identifiers. -/
structure Registry where
  types : List DocumentType
  origin : RegistryOrigin
  distinct : (types.map DocumentType.sid).Nodup

namespace Registry

/-- The registry without document types. -/
def empty : Registry := ⟨[], .single .memory, by simp⟩

/-- The document type with an identifier. -/
def get? (r : Registry) (sid : String) : Option DocumentType := r.types.find? fun t => t.sid == sid

/-- Whether there is a document type with an identifier. -/
def contains (r : Registry) (sid : String) : Bool := (r.get? sid).isSome

/-- Adds a document type, in place of one with its identifier. -/
def insert (r : Registry) (t : DocumentType) : Registry where
  types := (r.types.filter fun other => other.sid != t.sid) ++ [t]
  origin := r.origin
  distinct := by
    rw [List.map_append, List.map_singleton]
    refine List.nodup_append.2 ⟨r.distinct.sublist (List.filter_sublist.map _), by simp, ?_⟩
    intro a ha b hb heq
    rw [List.mem_singleton] at hb
    obtain ⟨other, hmem, rfl⟩ := List.mem_map.1 ha
    exact absurd (heq.trans hb) (bne_iff_ne.1 (List.mem_filter.1 hmem).2)

/-- Adds the document type that a definition describes, if its identifier is new. -/
def define (r : Registry) (d : DocumentTypeDefinition) : Except LoadError Registry :=
  if r.contains d.sid then .error (.duplicateType d.sid)
  else match DocumentType.build d with
    | .ok t => .ok (r.insert t)
    | .error reason => .error (.invalidDefinition d.sid reason)

/-- The registry of the document types that definitions describe. -/
def ofDefinitions (definitions : List DocumentTypeDefinition) : Except LoadError Registry :=
  definitions.foldlM define empty

/-- The registry with another origin. -/
def withOrigin (r : Registry) (origin : RegistryOrigin) : Registry := { r with origin := origin }

/-- The registry of the definitions in a source. -/
def ofSource (w : Workspace) (source : RegistrySource) : Except LoadError Registry := do
  let definitions ← match source with
    | .directory path =>
      (w.loadAll DocumentTypeDefinition.decode? path).map fun loaded => loaded.map Prod.snd
    | .bundle path => (w.load DefinitionBundle.decode? path).map DefinitionBundle.documentTypes
    | .memory => .error .noSources
  (ofDefinitions definitions).map fun r => r.withOrigin (.single source)

/-- The registry of the first source that can be loaded. -/
def ofFirst (w : Workspace) (sources : List RegistrySource) : Except LoadError Registry :=
  let loaded? (source : RegistrySource) : Option Registry :=
    (ofSource w source).toOption.map fun r => r.withOrigin (.firstOf sources source)
  match sources.findSome? loaded? with
  | some r => .ok r
  | none => .error .noSources

/-- The identifiers in order. -/
def sids (r : Registry) : List String :=
  (r.types.map DocumentType.sid).mergeSort fun a b => decide (a ≤ b)

/-- The document types in the order of their identifiers. -/
def sortedTypes (r : Registry) : List DocumentType :=
  r.types.mergeSort fun a b => decide (a.sid ≤ b.sid)

/-- The document type that a path belongs to: the one that its first segment names. -/
def typeOf? (r : Registry) (path : String) : Option DocumentType :=
  r.get? (Text.beforeFirst '.' path)

/-- The element of a complete path. -/
def element? (r : Registry) (path : String) : Option Element :=
  (r.typeOf? path).bind fun t => t.element? path

/-- The paths of a seed that are not those of simple fields with a dictionary. -/
def unknownFields (r : Registry) (s : Seed) : List String :=
  (s.fields.map Prod.fst).filter fun path =>
    !((r.typeOf? path).bind fun t => t.field? path).any fun field => field.dictionary != .none

end Registry

end CatalogRecords
