import CatalogRecords.CommandLine.Documents
import CatalogRecords.Proofs.Dictionary.Changes
import CatalogRecords.Proofs.Dictionary.Lists
import CatalogRecords.Proofs.Dictionary.Terms
import CatalogRecords.Proofs.Document.Verdict

/-!
# Ways to a verdict

A document can be validated with the terms in a database, read in bulk for the document type or
asked for one by one, and with the terms that were read from the database for all document types of
a registry, again in bulk or one by one. The verdict is the same: it depends on the terms of the
fields of the document type only, and all four have there exactly what the rows of the table say.
-/

namespace CatalogRecords

/-! What a verdict depends on. -/

variable {t : DocumentType} {known known' : String → String → Bool} {path : String}

/-- What is found about an element does not depend on how its terms are known, only on which are. -/
theorem Element.findings_congr (e : Element) (h : known path = known' path) (content : Content) :
    e.findings known path content = e.findings known' path content := by
  cases content with
  | text value => simp only [findings, SimpleField.findings, h]
  | group nodes => rfl

/-- Of the terms that are known, only those at the paths of a document type's elements matter. -/
theorem DocumentType.entryFindings_congr (h : ∀ e ∈ t.elements, known e.path = known' e.path)
    (previous : Option String) (entries : List FlatEntry) :
    t.entryFindings known previous entries = t.entryFindings known' previous entries := by
  induction entries generalizing previous with
  | nil => rfl
  | cons entry entries ih =>
    rw [entryFindings.eq_def, entryFindings.eq_def]
    dsimp only
    cases helement : t.element? entry.path with
    | none => exact congrArg _ (ih previous)
    | some e =>
      have hpath : e.path = entry.path := IsLaidOut.path_of_element? helement
      have hknown : known entry.path = known' entry.path :=
        hpath ▸ h e (List.mem_of_find?_eq_some helement)
      dsimp only
      rw [e.findings_congr hknown, ih]

/-- The findings are the same from two dictionaries that agree on the fields of the type. -/
theorem Document.validate_congr {dictionary dictionary' : Dictionary}
    (h : ∀ e ∈ t.elements,
      dictionary.forType t.sid e.path = dictionary'.forType t.sid e.path) (d : Document) :
    d.validate t dictionary = d.validate t dictionary' := by
  rw [validate, validate, DocumentType.entryFindings_congr h]

/-! What a table says. -/

namespace TermTable

variable {table : TermTable} {term type : String}

/-- Read in bulk for a document type, a table has the terms of the paths inside it. -/
theorem hasTerm_termsOf (htype : IsDotFree type) (hinside : isInside path type = true) :
    Dictionary.hasTerm (table.termsOf type) path term = table.contains path term := by
  rw [Bool.eq_iff_iff, Dictionary.hasTerm_iff (table.pairwise_termsOf type).nodup,
    exists_mem_termsOf_iff, contains_iff]
  refine exists_congr fun row => and_congr_right fun _ => ?_
  -- A row of a path inside the document type is one of its rows.
  rw [row.documentType_eq_iff htype, and_iff_right_iff_imp]
  rintro ⟨rfl, -⟩
  exact hinside

/-- The terms by fields of several document types. -/
def termsOfAll (table : TermTable) (types : List String) : List (String × List String) :=
  (types.map table.termsOf).flatten.foldl
    (fun lists (path, terms) => Dictionary.addTerms lists path terms) []

/-- Read in bulk for several document types, a table has the terms of the paths inside each. -/
theorem hasTerm_termsOfAll {types : List String} (hmem : type ∈ types) (htype : IsDotFree type)
    (hinside : isInside path type = true) :
    Dictionary.hasTerm (table.termsOfAll types) path term = table.contains path term := by
  rw [Bool.eq_iff_iff, termsOfAll, Dictionary.hasTerm_foldl_addTerms]
  constructor
  · rintro (hnone | ⟨terms, hterms, hterm⟩)
    · cases hnone
    · obtain ⟨lists, hlists, hterms⟩ := List.mem_flatten.mp hterms
      obtain ⟨other, -, rfl⟩ := List.mem_map.mp hlists
      obtain ⟨row, hrow, -, hkey⟩ := exists_mem_termsOf_iff.mp ⟨terms, hterms, hterm⟩
      exact contains_iff.mpr ⟨row, hrow, hkey⟩
  · intro hcontains
    obtain ⟨row, hrow, hpath, hterm⟩ := contains_iff.mp hcontains
    have htypeOfRow : row.documentType = type :=
      (row.documentType_eq_iff htype).mpr (hpath ▸ hinside)
    obtain ⟨terms, hterms, hterm⟩ :=
      exists_mem_termsOf_iff.mpr ⟨row, hrow, htypeOfRow, hpath, hterm⟩
    have hlists : (path, terms) ∈ (types.map table.termsOf).flatten :=
      List.mem_flatten.mpr ⟨_, List.mem_map_of_mem hmem, hterms⟩
    exact Or.inr ⟨terms, hlists, hterm⟩

end TermTable

/-! What is read for a registry. -/

/-- A prefix is read back from its own text. -/
theorem TablePrefix.ofText_text (p : TablePrefix) : ofText p.text = .ok p := by
  rw [ofText, ofText?, dif_pos p.valid]

/-- The identifiers of the registry are those of its types. -/
theorem Registry.mem_sids_iff {registry : Registry} {sid : String} :
    sid ∈ registry.sids ↔ ∃ t ∈ registry.types, t.sid = sid := by
  rw [sids, List.mem_mergeSort, List.mem_map]

/-- What is read for a registry from a database with the table are the terms in the table. -/
theorem CommandLine.loadDictionary_eq_ok {db : TermDatabase} {p : TablePrefix} {table : TermTable}
    (htable : db.table? p = some table) (path : String) (registry : Registry) :
    loadDictionary ⟨path, db, p.text⟩ registry =
      .ok (.ofLists (table.termsOfAll registry.sids)) := by
  have hread : db.table p = .ok table := TermDatabase.table_eq_ok_iff.mpr htable
  have hlists : registry.sids.mapM (fun sid => Except.ok (table.termsOf sid)) =
      (Except.ok (registry.sids.map table.termsOf) : Except String _) := List.mapM_pure
  rw [loadDictionary, OpenDatabase.tablePrefix, TablePrefix.ofText_text]
  dsimp only [Except.mapError, bind, Except.bind]
  rw [hread]
  dsimp only [Except.map]
  rw [hlists]
  rfl

/-! What each way tells about a path. -/

section Answers

variable {db : TermDatabase} {p : TablePrefix} {table : TermTable} {type : String}

/-- Read in bulk for a document type, a dictionary has the terms of the paths inside it. -/
theorem TermDatabase.forType_dictionary (htable : db.table? p = some table)
    (htype : IsDotFree type) (hinside : isInside path type = true) :
    (db.dictionary p).forType type path = table.contains path := by
  have hread : (db.dictionary p).allTerms? type = some (table.termsOf type) := by
    rw [dictionary, htable]
    rfl
  funext term
  rw [Dictionary.forType_of_allTerms? hread]
  exact TermTable.hasTerm_termsOf htype hinside

/-- Asked term by term, the dictionary of a table knows the terms the table contains. -/
theorem TermDatabase.forType_perTerm_dictionary (htable : db.table? p = some table) :
    (db.dictionary p).perTerm.forType type path = table.contains path := by
  funext term
  exact congrArg (fun found => found.any fun table : TermTable => table.contains path term) htable

/-- Selected for a document type, fixed lists have the terms of the paths inside it. -/
theorem Dictionary.forType_ofLists {lists : List (String × List String)}
    (hinside : isInside path type = true) :
    (ofLists lists).forType type path = hasTerm lists path := by
  have hread : (ofLists lists).allTerms? type =
      some (lists.filter fun entry => isInside entry.1 type) := rfl
  funext term
  rw [forType_of_allTerms? hread, hasTerm_filter fun path => isInside path type, hinside,
    Bool.true_and]

/-- Asked term by term, the dictionary of some lists knows the terms in them. -/
theorem Dictionary.forType_perTerm_ofLists {lists : List (String × List String)} :
    (ofLists lists).perTerm.forType type path = hasTerm lists path := rfl

end Answers

/-! The verdicts. -/

namespace Document

open TermDatabase (catalogPrefix createdDatabase)

/-- Whatever was done to the terms of a dictionary that has a table, the terms of all document types
in a registry can be read from it, and documents of those types get the same verdict with the
dictionary, with what was read from it, and with either of them when it is asked term by term. -/
theorem validate_agrees_among_routes {definition : DocumentTypeDefinition} {t : DocumentType}
    (hbuild : DocumentType.build definition = .ok t) {registry : Registry}
    (hregistered : t ∈ registry.types) {created : TermDatabase} {p : TablePrefix}
    {table : TermTable} (htable : created.table? p = some table) (changes : List TermChange)
    (path : String) (d : Document) :
    let db := created.afterChanges p changes
    ∃ loaded, CommandLine.loadDictionary ⟨path, db, p.text⟩ registry = .ok loaded ∧
      d.validate t (db.dictionary p).perTerm = d.validate t (db.dictionary p) ∧
      d.validate t loaded = d.validate t (db.dictionary p) ∧
      d.validate t loaded.perTerm = d.validate t (db.dictionary p) := by
  intro db
  obtain ⟨table, htable⟩ := TermDatabase.exists_table?_afterChanges htable changes
  have hlaidOut := DocumentType.isLaidOut_of_build hbuild
  have hsid : t.sid ∈ registry.sids := Registry.mem_sids_iff.mpr ⟨t, hregistered, rfl⟩
  have hbulk (e : Element) (he : e ∈ t.elements) :
      (db.dictionary p).forType t.sid e.path = table.contains e.path :=
    TermDatabase.forType_dictionary htable hlaidOut.sid (hlaidOut.inside e he)
  have hlists (e : Element) (he : e ∈ t.elements) :
      Dictionary.hasTerm (table.termsOfAll registry.sids) e.path = table.contains e.path := by
    funext term
    exact TermTable.hasTerm_termsOfAll hsid hlaidOut.sid (hlaidOut.inside e he)
  refine ⟨.ofLists (table.termsOfAll registry.sids),
    CommandLine.loadDictionary_eq_ok htable path registry, ?_, ?_, ?_⟩
  · apply validate_congr
    intro e he
    rw [hbulk e he]
    exact TermDatabase.forType_perTerm_dictionary htable
  · apply validate_congr
    intro e he
    rw [hbulk e he, ← hlists e he]
    exact Dictionary.forType_ofLists (hlaidOut.inside e he)
  · apply validate_congr
    intro e he
    rw [hbulk e he, ← hlists e he]
    exact Dictionary.forType_perTerm_ofLists

/-- Kinds of records are put in, one of another type is added and one is taken out again; the last
change cannot be made. -/
def changesOfKinds : List TermChange := [
  .seed (.ok [.ofLists [("SI.CD.TSK", [.plain "SI", .plain "RA"])]]),
  .add "SIX.CD.TSK" "SIX" none,
  .remove "SI.CD.TSK" "RA",
  .add "TSK" "SI" none]

/-- The registry of sites. -/
def siteRegistry : Registry := Registry.empty.insert siteType

/-- The site can be saved, and it can with what is read from the database. -/
theorem siteRecord_validate_agrees :
    DocumentType.build siteDefinition = .ok siteType ∧ siteType ∈ siteRegistry.types ∧
      createdDatabase.table? catalogPrefix = some .empty ∧
      ∃ loaded, CommandLine.loadDictionary
          ⟨"terms.db", createdDatabase.afterChanges catalogPrefix changesOfKinds, "cat_"⟩
          siteRegistry = .ok loaded ∧
        (siteRecord.validate siteType loaded).canBeSaved = true ∧
        (siteRecord.validate siteType loaded.perTerm).canBeSaved = true := by
  have hregistered : siteType ∈ siteRegistry.types := List.mem_singleton.mpr rfl
  have htable : createdDatabase.table? catalogPrefix = some .empty := by rfl
  obtain ⟨loaded, hloaded, hasked, hbulk, hperTerm⟩ := validate_agrees_among_routes
    build_siteDefinition hregistered htable changesOfKinds "terms.db" siteRecord
  have hsaved : (siteRecord.validate siteType ((createdDatabase.afterChanges catalogPrefix
      changesOfKinds).dictionary catalogPrefix).perTerm).canBeSaved = true := by decide +kernel
  rw [hasked] at hsaved
  refine ⟨build_siteDefinition, hregistered, htable, loaded, hloaded, ?_, ?_⟩
  · rw [hbulk]
    exact hsaved
  · rw [hperTerm]
    exact hsaved

end Document

end CatalogRecords
