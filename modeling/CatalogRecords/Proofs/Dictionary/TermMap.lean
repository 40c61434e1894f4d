import CatalogRecords.Proofs.Dictionary.Terms
import Mathlib.Data.Finset.Sort

/-!
# Tables of terms as maps

What a table of terms stands for is a finite map: its keys are fields with a term, and some keys
have a reference. A row holds more than that, the document type beside the path, and rows have an
order in the table. Neither is seen from outside. Whatever is done to a table does the same to its
map, and whatever a table is asked, its map has the answer.
-/

namespace CatalogRecords

/-! Lists and sets. -/

/-- No member is left twice when repetitions are erased. -/
theorem nodup_eraseDups {α : Type} [BEq α] [LawfulBEq α] : (xs : List α) → xs.eraseDups.Nodup
  | [] => List.nodup_nil
  | x :: xs => by
    rw [List.eraseDups_cons, List.nodup_cons]
    refine ⟨fun hmem => ?_, nodup_eraseDups (xs.filter fun y => !y == x)⟩
    have hne := (List.mem_filter.mp (List.mem_eraseDups.mp hmem)).2
    simp at hne
termination_by xs => xs.length
decreasing_by exact Nat.lt_succ_of_le (List.length_filter_le _ _)

/-- There are as many members without repetitions as there are in the set of them. -/
theorem length_eraseDups {α : Type} [DecidableEq α] (xs : List α) :
    xs.eraseDups.length = xs.toFinset.card := by
  have hset : xs.eraseDups.toFinset = xs.toFinset := by
    ext x
    rw [List.mem_toFinset, List.mem_toFinset, List.mem_eraseDups]
  rw [← hset, List.toFinset_card_of_nodup (nodup_eraseDups xs)]

/-- A list in strict order is the sorted list of its members. -/
theorem eq_sort_of_pairwise {xs : List String} {s : Finset String}
    (hsorted : xs.Pairwise (· < ·)) (hmem : ∀ x, x ∈ xs ↔ x ∈ s) : xs = s.sort := by
  have hset : xs.toFinset = s := by
    ext x
    rw [List.mem_toFinset, hmem]
  rw [← hset]
  exact ((List.toFinset_sort _ (hsorted.imp ne_of_lt)).mpr (hsorted.imp le_of_lt)).symm

/-! Maps. -/

/-- The first segment of a path. -/
def firstSegment (path : String) : String := (segments path).head (segments_ne_nil path)

/-- A finite map from terms of fields to references, which a term need not have. -/
@[ext]
structure TermMap where
  keys : Finset (String × String)
  url : String × String → Option String
  url_eq_none : ∀ key ∉ keys, url key = none

namespace TermMap

/-- The map without terms. -/
def empty : TermMap := ⟨∅, fun _ => none, fun _ _ => rfl⟩

/-- Adds a key with its reference. A key that is there keeps the reference it has. -/
def insert (m : TermMap) (key : String × String) (url : Option String) : TermMap :=
  if key ∈ m.keys then m
  else {
    keys := Insert.insert key m.keys
    url := Function.update m.url key url
    url_eq_none := fun other hother => by
      rw [Finset.mem_insert, not_or] at hother
      rw [Function.update_of_ne hother.1, m.url_eq_none other hother.2] }

/-- The keys that `keep` holds of, with their references. -/
def filter (m : TermMap) (keep : String × String → Bool) : TermMap where
  keys := m.keys.filter fun key => keep key = true
  url key := if keep key then m.url key else none
  url_eq_none key hkey := by
    split_ifs with hkeep
    · exact m.url_eq_none key fun hmem => hkey (Finset.mem_filter.mpr ⟨hmem, hkeep⟩)
    · rfl

/-- The number of keys. -/
def size (m : TermMap) : Nat := m.keys.card

/-- The fields with terms. -/
def fields (m : TermMap) : Finset String := m.keys.image Prod.fst

/-- The first segments of the fields. -/
def types (m : TermMap) : Finset String := m.fields.image firstSegment

/-- The terms of a field in order, or those of them that begin with a text, whatever the case of
Latin letters. -/
def terms (m : TermMap) (path : String) (start : Option String) : List String :=
  ((m.keys.filter fun key => key.1 = path ∧
    start.all (fun s => Wildcard.startsAlike s.toList key.2.toList) = true).image Prod.snd).sort

/-- The same terms with their references. -/
def entries (m : TermMap) (path : String) (start : Option String) : List TermEntry :=
  (m.terms path start).map fun term => ⟨term, m.url (path, term)⟩

/-- The fields of a document type in order. -/
def fieldsIn (m : TermMap) (type : String) : List String :=
  (m.fields.filter fun path => firstSegment path = type).sort

end TermMap

/-! What a table stands for. -/

namespace TermTable

variable {t : TermTable} {row : TermRow} {path term : String}

/-- The row that is found for a term is the one with its key. -/
theorem find?_eq_some_iff :
    t.find? path term = some row ↔ row ∈ t.rows ∧ row.key = (path, term) := by
  constructor
  · intro h
    exact ⟨List.mem_of_find?_eq_some h, by simpa using List.find?_some h⟩
  · rintro ⟨hrow, hkey⟩
    obtain ⟨found, hfound⟩ : ∃ found, t.find? path term = some found :=
      Option.isSome_iff_exists.mp (List.find?_isSome.mpr ⟨row, hrow, by simpa using hkey⟩)
    have hsame : found.key = row.key := by
      have hfound := List.find?_some hfound
      rw [hkey]
      simpa using hfound
    rw [hfound, List.inj_on_of_nodup_map t.distinct (List.mem_of_find?_eq_some hfound) hrow hsame]

/-- No row is found for a term that has none. -/
theorem find?_eq_none_iff : t.find? path term = none ↔ (path, term) ∉ t.rows.map TermRow.key := by
  rw [find?, List.find?_eq_none, List.mem_map]
  simp

/-- The map that a table stands for. -/
def toMap (t : TermTable) : TermMap where
  keys := (t.rows.map TermRow.key).toFinset
  url key := t.url? key.1 key.2
  url_eq_none key hkey := by
    rw [List.mem_toFinset] at hkey
    rw [url?, find?_eq_none_iff.mpr hkey, Option.bind_none]

/-- The keys of the map are those of the rows. -/
theorem mem_keys_toMap {key : String × String} :
    key ∈ t.toMap.keys ↔ ∃ row ∈ t.rows, row.key = key := by
  rw [toMap, List.mem_toFinset, List.mem_map]

/-- A row has the reference of its key. -/
theorem url_toMap (hrow : row ∈ t.rows) : t.toMap.url row.key = row.url := by
  change (t.find? row.path row.term).bind TermRow.url = row.url
  rw [find?_eq_some_iff.mpr ⟨hrow, rfl⟩, Option.bind_some]

/-- The document type of a row is the first segment of its path. -/
theorem documentType_eq_firstSegment (row : TermRow) :
    row.documentType = firstSegment row.path := by
  obtain ⟨hdotFree, hinside⟩ := isInside_of_typeOfPath? row.type_of_path
  obtain ⟨rest, -, hsegments⟩ := isInside_iff.mp hinside
  rw [segments_of_isDotFree hdotFree] at hsegments
  simp only [firstSegment, hsegments, List.singleton_append, List.head_cons]

/-! What is done to a table. -/

/-- Two tables stand for the same map if their keys are the same, and the references of these. -/
theorem toMap_eq_iff {m : TermMap} :
    t.toMap = m ↔ (∀ key, key ∈ m.keys ↔ ∃ row ∈ t.rows, row.key = key) ∧
      ∀ row ∈ t.rows, m.url row.key = row.url := by
  constructor
  · rintro rfl
    exact ⟨fun key => mem_keys_toMap, fun row hrow => url_toMap hrow⟩
  · rintro ⟨hkeys, hurls⟩
    have hsame : t.toMap.keys = m.keys := by
      ext key
      rw [mem_keys_toMap, hkeys]
    refine TermMap.ext hsame (funext fun key => ?_)
    by_cases hkey : key ∈ m.keys
    · obtain ⟨row, hrow, rfl⟩ := (hkeys key).mp hkey
      rw [url_toMap hrow, hurls row hrow]
    · rw [m.url_eq_none key hkey, t.toMap.url_eq_none key (hsame ▸ hkey)]

/-- The empty table stands for the empty map. -/
theorem toMap_empty : empty.toMap = .empty := by
  rw [toMap_eq_iff]
  exact ⟨fun key => by simp [TermMap.empty, empty], fun row hrow => absurd hrow List.not_mem_nil⟩

/-- Adding a row adds its key. -/
theorem toMap_insert (t : TermTable) (row : TermRow) :
    (t.insert row).toMap = t.toMap.insert row.key row.url := by
  have hiff : row.key ∈ t.rows.map TermRow.key ↔ row.key ∈ t.toMap.keys := by
    rw [toMap, List.mem_toFinset]
  rw [insert, TermMap.insert]
  by_cases hkey : row.key ∈ t.rows.map TermRow.key
  · rw [dif_pos hkey, if_pos (hiff.mp hkey)]
  · rw [dif_neg hkey, if_neg (mt hiff.mpr hkey), toMap_eq_iff]
    dsimp only
    constructor
    · intro key
      rw [Finset.mem_insert, mem_keys_toMap]
      simp [or_comm, eq_comm]
    · intro other hother
      rcases List.mem_append.mp hother with hother | hother
      · have hne : other.key ≠ row.key := fun heq => hkey (heq ▸ List.mem_map_of_mem hother)
        rw [Function.update_of_ne hne, url_toMap hother]
      · rw [List.mem_singleton.mp hother, Function.update_self]

/-- Selecting rows by their keys selects these keys. -/
theorem toMap_filter {keep : TermRow → Bool} {keepKey : String × String → Bool}
    (hkeep : ∀ row, keep row = keepKey row.key) :
    (t.filter keep).toMap = t.toMap.filter keepKey := by
  rw [toMap_eq_iff, filter, TermMap.filter]
  dsimp only
  constructor
  · intro key
    rw [Finset.mem_filter, mem_keys_toMap]
    simp only [List.mem_filter, hkeep]
    constructor
    · rintro ⟨⟨row, hrow, rfl⟩, hkey⟩
      exact ⟨row, ⟨hrow, hkey⟩, rfl⟩
    · rintro ⟨row, ⟨hrow, hkey⟩, rfl⟩
      exact ⟨⟨row, hrow, rfl⟩, hkey⟩
  · intro row hrow
    rw [List.mem_filter, hkeep] at hrow
    rw [if_pos hrow.2, url_toMap hrow.1]

/-! What a table is asked. -/

/-- The table contains what the map has a key for. -/
theorem contains_eq : t.contains path term = decide ((path, term) ∈ t.toMap.keys) := by
  rw [Bool.eq_iff_iff, contains_iff, decide_eq_true_eq, mem_keys_toMap]
  simp only [TermRow.key, Prod.mk.injEq]

/-- The table has as many rows as the map has keys. -/
theorem size_eq : t.size = t.toMap.size := by
  rw [TermMap.size, toMap, List.toFinset_card_of_nodup t.distinct, List.length_map, size]

/-- The fields of the map are the paths of the rows. -/
theorem fields_toMap : t.toMap.fields = (t.rows.map TermRow.path).toFinset := by
  ext path
  rw [TermMap.fields, Finset.mem_image, List.mem_toFinset, List.mem_map]
  simp only [mem_keys_toMap]
  simp [TermRow.key]

/-- The fields are counted as those of the map. -/
theorem fieldCount_eq : t.fieldCount = t.toMap.fields.card := by
  rw [fieldCount, length_eraseDups, fields_toMap]

/-- The types of document are counted as those of the map. -/
theorem typeCount_eq : t.typeCount = t.toMap.types.card := by
  have hset : (t.rows.map TermRow.documentType).toFinset = t.toMap.types := by
    ext type
    rw [TermMap.types, fields_toMap, Finset.mem_image, List.mem_toFinset, List.mem_map]
    simp [documentType_eq_firstSegment]
  rw [typeCount, length_eraseDups, hset]

end TermTable

end CatalogRecords
