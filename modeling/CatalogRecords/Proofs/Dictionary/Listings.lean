import CatalogRecords.Proofs.Dictionary.TermMap

/-!
# Listing terms

The terms of a field are listed by sorting its rows, those that begin with a text by a pattern that
is made of the text, and the terms of a document type by sorting all its rows and joining
neighbours. Each listing is what the map of the table has there: no row comes twice, so that the
order leaves no choice, and a document type is what the paths of its fields begin with.
-/

namespace CatalogRecords

/-! Patterns for the beginnings of texts. -/

namespace Wildcard

/-- Any text has the empty one as an end. -/
theorem nil_mem_suffixes : (cs : List Char) → [] ∈ suffixes cs
  | [] => List.mem_singleton_self _
  | _ :: cs => List.mem_cons_of_mem _ (nil_mem_suffixes cs)

/-- Escaped characters with a percent sign behind them match what begins with them. -/
theorem matchesChars_escapeChars (start cs : List Char) :
    matchesChars (escapeChars start ++ ['%']) cs = startsAlike start cs := by
  induction start generalizing cs with
  | nil =>
    change (suffixes cs).any (matchesChars []) = true
    exact List.any_eq_true.mpr ⟨[], nil_mem_suffixes cs, rfl⟩
  | cons c start ih =>
    have hrest : matchesChars (escapeChars start ++ ['%']) = startsAlike start := funext ih
    rw [escapeChars, startsAlike]
    split_ifs with hspecial
    · rw [List.cons_append, List.cons_append, matchesChars, hrest]
    · rw [isSpecial, Bool.or_eq_true, Bool.or_eq_true, beq_iff_eq, beq_iff_eq, beq_iff_eq, not_or,
        not_or] at hspecial
      obtain ⟨⟨hpercent, hunderscore⟩, hbackslash⟩ := hspecial
      rw [List.cons_append, matchesChars, if_neg hpercent, if_neg hunderscore, hrest]
      · rintro rfl
        exact absurd rfl hbackslash
      · rintro _ _ rfl
        exact absurd rfl hbackslash

/-- The pattern of a text matches the texts that begin with it, whatever its characters mean in
patterns. -/
theorem matchesChars_beginning (start : String) (cs : List Char) :
    matchesChars (beginning start) cs = startsAlike start.toList cs :=
  matchesChars_escapeChars start.toList cs

end Wildcard

namespace TermTable

variable {t : TermTable} {rows : List TermRow} {path type : String} {start : Option String}

/-! The terms of a field. -/

/-- Whether a row is listed for a field and the beginning of a term. -/
def isListed (path : String) (start : Option String) (row : TermRow) : Bool :=
  row.path == path && start.all fun s => Wildcard.startsAlike s.toList row.term.toList

/-- Rows of one field that are in order and not twice there have their terms in strict order. -/
theorem pairwise_term (hsorted : rows.Pairwise fun a b => TermRow.le a b = true)
    (hdistinct : (rows.map TermRow.key).Nodup) (hpath : ∀ row ∈ rows, row.path = path) :
    (rows.map TermRow.term).Pairwise (· < ·) := by
  rw [List.pairwise_map]
  have hboth := hsorted.and (List.pairwise_map.mp hdistinct)
  refine hboth.imp_of_mem fun {a b} ha hb hab => ?_
  have hsame : a.path = b.path := (hpath a ha).trans (hpath b hb).symm
  rcases TermRow.le_iff.mp hab.1 with hlt | ⟨-, hle⟩
  · exact absurd hsame (ne_of_lt hlt)
  · refine lt_of_le_of_ne hle fun hterm => hab.2 ?_
    rw [TermRow.key, TermRow.key, hsame, hterm]

/-- The rows that are listed for a field, in order, have the terms of the map. -/
theorem map_term_eq (hsorted : rows.Pairwise fun a b => TermRow.le a b = true)
    (hperm : rows.Perm (t.rows.filter (isListed path start))) :
    rows.map TermRow.term = t.toMap.terms path start := by
  have hmem (row : TermRow) : row ∈ rows ↔ row ∈ t.rows ∧ row.path = path ∧
      start.all (fun s => Wildcard.startsAlike s.toList row.term.toList) = true := by
    rw [hperm.mem_iff, List.mem_filter, isListed, Bool.and_eq_true, beq_iff_eq]
  have hdistinct : (rows.map TermRow.key).Nodup :=
    (hperm.map TermRow.key).nodup_iff.mpr (t.distinct.sublist (List.filter_sublist.map _))
  have hpath (row : TermRow) (hrow : row ∈ rows) : row.path = path := ((hmem row).mp hrow).2.1
  refine eq_sort_of_pairwise (pairwise_term hsorted hdistinct hpath) fun term => ?_
  rw [List.mem_map, Finset.mem_image]
  simp only [Finset.mem_filter, mem_keys_toMap, hmem]
  constructor
  · rintro ⟨row, ⟨hrow, hlisted⟩, rfl⟩
    exact ⟨row.key, ⟨⟨row, hrow, rfl⟩, hlisted⟩, rfl⟩
  · rintro ⟨_, ⟨⟨row, hrow, rfl⟩, hlisted⟩, rfl⟩
    exact ⟨row, ⟨hrow, hlisted⟩, rfl⟩

/-- They have the references of the map as well. -/
theorem map_entry_eq (hsorted : rows.Pairwise fun a b => TermRow.le a b = true)
    (hperm : rows.Perm (t.rows.filter (isListed path start))) :
    rows.map TermRow.entry = t.toMap.entries path start := by
  rw [TermMap.entries, ← map_term_eq hsorted hperm, List.map_map]
  refine List.map_congr_left fun row hrow => ?_
  obtain ⟨hrow, hlisted⟩ := List.mem_filter.mp (hperm.mem_iff.mp hrow)
  rw [isListed, Bool.and_eq_true, beq_iff_eq] at hlisted
  rw [Function.comp_apply, ← hlisted.1]
  exact congrArg (TermEntry.mk row.term) (url_toMap hrow).symm

/-- The terms of a field, or those that begin with a text, are those of the map. -/
theorem entries_eq (t : TermTable) (path : String) (start : Option String) :
    t.entries path start = t.toMap.entries path start := by
  have hrows : t.entries path start =
      ((t.rows.filter (isListed path start)).mergeSort TermRow.le).map TermRow.entry := by
    cases start with
    | none =>
      rw [entries, entriesOf]
      congr 3
      funext row
      exact (Bool.and_true _).symm
    | some start =>
      rw [entries, entriesMatching]
      congr 3
      funext row
      rw [Wildcard.matchesChars_beginning]
      rfl
  rw [hrows]
  exact map_entry_eq (List.pairwise_mergeSort TermRow.le_trans TermRow.le_total _)
    (List.mergeSort_perm _ _)

/-- The entries listed for a field are its terms in the map, in their order. -/
theorem map_term_entries (t : TermTable) (path : String) (start : Option String) :
    (t.entries path start).map TermEntry.term = t.toMap.terms path start := by
  rw [entries_eq, TermMap.entries, List.map_map]
  exact List.map_id _

/-! The terms of a document type. -/

/-- There is a group for each path of a row. -/
theorem mem_map_fst_grouped :
    path ∈ (grouped rows).map Prod.fst ↔ ∃ row ∈ rows, row.path = path := by
  induction rows with
  | nil => simp [grouped]
  | cons row rows ih =>
    rw [List.exists_mem_cons_iff, ← ih, grouped]
    split
    · next first entries groups hgroups =>
      rw [hgroups]
      split_ifs with hpath
      · simp [hpath, eq_comm]
      · simp [eq_comm]
    · next hgroups =>
      rw [hgroups]
      simp [eq_comm]

/-- Of groups with different paths one is found again among all entries by its path. -/
theorem filter_flatMap_groups {groups : List (String × List TermEntry)} {entries : List TermEntry}
    (hdistinct : (groups.map Prod.fst).Nodup) (hmem : (path, entries) ∈ groups) :
    ((groups.flatMap fun (path, entries) => entries.map (path, ·)).filter
      fun pair => pair.1 == path).map Prod.snd = entries := by
  induction groups with
  | nil => cases hmem
  | cons group groups ih =>
    obtain ⟨first, firstEntries⟩ := group
    rw [List.map_cons, List.nodup_cons] at hdistinct
    rw [List.flatMap_cons, List.filter_append, List.map_append]
    rcases List.mem_cons.mp hmem with heq | hmem
    · cases heq
      have hothers : ((groups.flatMap fun (path, entries) => entries.map (path, ·)).filter
          fun pair => pair.1 == path) = [] := by
        refine List.filter_eq_nil_iff.mpr fun pair hpair hpath => hdistinct.1 ?_
        obtain ⟨group, hgroup, hpair⟩ := List.mem_flatMap.mp hpair
        obtain ⟨entry, -, rfl⟩ := List.mem_map.mp hpair
        exact List.mem_map.mpr ⟨group, hgroup, beq_iff_eq.mp hpath⟩
      rw [hothers, List.filter_eq_self.mpr (by simp)]
      simp
    · have hne : first ≠ path := fun heq => hdistinct.1 (List.mem_map.mpr ⟨_, hmem, heq.symm⟩)
      rw [ih hdistinct.2 hmem, List.filter_eq_nil_iff.mpr (by simp [hne])]
      rfl

/-- The group of a path in rows that are in order holds the entries of the rows with that path. -/
theorem entries_of_mem_grouped {entries : List TermEntry}
    (hrows : rows.Pairwise fun a b => a.path ≤ b.path) (hmem : (path, entries) ∈ grouped rows) :
    entries = (rows.filter fun row => row.path == path).map TermRow.entry := by
  have hdistinct : ((grouped rows).map Prod.fst).Nodup := (pairwise_grouped hrows).imp ne_of_lt
  rw [← filter_flatMap_groups hdistinct hmem, flatMap_grouped, List.filter_map, List.map_map]
  rfl

/-- The terms of a document type by fields are those of the map. -/
theorem fieldsOf_eq (t : TermTable) (type : String) :
    t.fieldsOf type =
      (t.toMap.fieldsIn type).map fun path => (path, t.toMap.entries path none) := by
  set rows := (t.rows.filter fun row => row.documentType == type).mergeSort TermRow.le with hrows
  have hsorted : rows.Pairwise fun a b => TermRow.le a b = true :=
    List.pairwise_mergeSort TermRow.le_trans TermRow.le_total _
  have hpaths : rows.Pairwise fun a b => a.path ≤ b.path := hsorted.imp TermRow.path_le_of_le
  have hmem (row : TermRow) : row ∈ rows ↔ row ∈ t.rows ∧ firstSegment row.path = type := by
    rw [hrows, List.mem_mergeSort, List.mem_filter, beq_iff_eq, documentType_eq_firstSegment]
  have hfields : (grouped rows).map Prod.fst = t.toMap.fieldsIn type := by
    refine eq_sort_of_pairwise (pairwise_grouped hpaths) fun path => ?_
    rw [mem_map_fst_grouped, Finset.mem_filter, fields_toMap, List.mem_toFinset, List.mem_map]
    simp only [hmem]
    constructor
    · rintro ⟨row, ⟨hrow, htype⟩, rfl⟩
      exact ⟨⟨row, hrow, rfl⟩, htype⟩
    · rintro ⟨⟨row, hrow, rfl⟩, htype⟩
      exact ⟨row, ⟨hrow, htype⟩, rfl⟩
  have hentries (path : String) (htype : firstSegment path = type) :
      (rows.filter fun row => row.path == path).map TermRow.entry =
        t.toMap.entries path none := by
    refine map_entry_eq (hsorted.sublist List.filter_sublist) ?_
    have hperm := (List.mergeSort_perm (t.rows.filter fun row => row.documentType == type)
      TermRow.le).filter fun row => row.path == path
    rw [← hrows, List.filter_filter] at hperm
    refine hperm.trans (List.Perm.of_eq (List.filter_congr fun row _ => ?_))
    rw [isListed, Option.all_none, documentType_eq_firstSegment, Bool.eq_iff_iff, Bool.and_eq_true,
      Bool.and_true, beq_iff_eq, beq_iff_eq, and_iff_left_iff_imp]
    rintro rfl
    exact htype
  rw [fieldsOf, ← hrows, ← hfields, List.map_map]
  refine (List.map_id _).symm.trans (List.map_congr_left fun group hgroup => ?_)
  have htype := List.mem_map_of_mem (f := Prod.fst) hgroup
  rw [hfields, TermMap.fieldsIn, Finset.mem_sort, Finset.mem_filter] at htype
  rw [Function.comp_apply, ← hentries group.1 htype.2, ← entries_of_mem_grouped hpaths hgroup]
  rfl

/-- The fields of a type are listed in their order, each with its terms. -/
theorem termsOf_eq (t : TermTable) (type : String) :
    t.termsOf type = (t.toMap.fieldsIn type).map fun path => (path, t.toMap.terms path none) := by
  rw [termsOf, fieldsOf_eq, List.map_map]
  refine List.map_congr_left fun path _ => ?_
  rw [Function.comp_apply, ← map_term_entries, entries_eq]

end TermTable

end CatalogRecords
