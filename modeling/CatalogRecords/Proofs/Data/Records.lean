import CatalogRecords.Data.Record
import Mathlib.Data.List.Nodup

/-!
# Records that are written and read again

A record is written as the map of its fields in their declared order, where a field without a value
is left out. Reading it with the same names finds each field with its value, and none that was left
out; so a field is read as what was written if its value is, and if what is left out is what the
reader puts in its place. What is asked of a list is asked of its items.
-/

namespace CatalogRecords.Data

variable {α : Type} {dialect : Dialect} {names : List String} {name : String}

/-- The entries of fields that are written if they have a value. -/
def written (fields : List (String × Option Data)) : List (String × Data) :=
  fields.flatMap fun field => entryIfSome field.1 field.2

/-- An entry that is shown on a condition is one with a value on that condition. -/
theorem entryIf_eq (shown : Bool) (name : String) (value : Data) :
    entryIf shown name value = entryIfSome name (if shown then some value else none) := by
  cases shown <;> rfl

/-- Fields are written one after the other. -/
theorem written_cons (name : String) (value? : Option Data)
    (fields : List (String × Option Data)) :
    written ((name, value?) :: fields) = entryIfSome name value? ++ written fields := rfl

/-- The names that are written are among those of the fields, in their order. -/
theorem map_fst_written_sublist (fields : List (String × Option Data)) :
    ((written fields).map Prod.fst).Sublist (fields.map Prod.fst) := by
  induction fields with
  | nil => exact List.Sublist.refl _
  | cons field fields ih =>
    obtain ⟨name, value?⟩ := field
    rw [written_cons, List.map_append, List.map_cons]
    cases value? with
    | none => exact ih.cons _
    | some value => exact ih.cons_cons _

/-- Each field is found with its value. -/
theorem lookup_written {fields : List (String × Option Data)}
    (hnodup : (fields.map Prod.fst).Nodup) {value? : Option Data} (h : (name, value?) ∈ fields) :
    (written fields).lookup name = value? := by
  induction fields with
  | nil => cases h
  | cons field fields ih =>
    obtain ⟨first, first?⟩ := field
    rw [List.map_cons, List.nodup_cons] at hnodup
    rw [written_cons, List.lookup_append]
    rcases List.mem_cons.mp h with heq | h
    · cases heq
      cases value? with
      | none =>
        have hrest : (written fields).lookup name = none := by
          rw [List.lookup_eq_none_iff]
          intro entry hentry
          have hmem := (map_fst_written_sublist fields).subset (List.mem_map_of_mem hentry)
          refine bne_iff_ne.mpr fun heq => hnodup.1 ?_
          rwa [← heq] at hmem
        rw [entryIfSome, List.lookup_nil, Option.none_or, hrest]
      | some value => rw [entryIfSome, List.lookup_cons_self, Option.some_or]
    · have hmem : name ∈ fields.map Prod.fst := List.mem_map_of_mem h
      have hne : (name == first) = false :=
        beq_eq_false_iff_ne.mpr fun heq => hnodup.1 (heq ▸ hmem)
      have hskip : (entryIfSome first first?).lookup name = none := by
        cases first? with
        | none => rfl
        | some value => rw [entryIfSome, List.lookup_cons, hne, List.lookup_nil]
      rw [hskip, Option.none_or, ih hnodup.2 h]

/-- Different names do not come twice. -/
theorem hasTwice_eq_false_of_nodup {found : List String} (h : found.Nodup) :
    hasTwice names found = false := by
  induction found with
  | nil => rfl
  | cons name rest ih =>
    rw [List.nodup_cons] at h
    rw [hasTwice, ih h.2, Bool.or_false, Bool.and_eq_false_imp]
    exact fun _ => Bool.eq_false_iff.mpr fun hmem => h.1 (List.contains_iff_mem.mp hmem)

/-- If none of the names comes twice, an entry with one of them is the one that is found. -/
theorem lookup_of_hasTwice_eq_false {entries : List (String × Data)} {value : Data}
    (h : hasTwice names (entries.map Prod.fst) = false) (hname : name ∈ names)
    (hentry : (name, value) ∈ entries) : entries.lookup name = some value := by
  induction entries with
  | nil => cases hentry
  | cons entry entries ih =>
    rw [List.map_cons, hasTwice, Bool.or_eq_false_iff, Bool.and_eq_false_imp] at h
    rw [List.lookup_cons]
    rcases List.mem_cons.mp hentry with rfl | hentry
    · rw [beq_self_eq_true]
    · have hmem : name ∈ entries.map Prod.fst := List.mem_map_of_mem hentry
      have hne : (name == entry.1) = false := by
        refine beq_eq_false_iff_ne.mpr fun heq => ?_
        rw [← heq] at h
        exact Bool.eq_false_iff.mp (h.1 (List.contains_iff_mem.mpr hname))
          (List.contains_iff_mem.mpr hmem)
      rw [hne]
      exact ih h.2 hentry

/-- The parts of a map are its entries. -/
theorem map_val_mapParts (entries : List (String × Data)) :
    (mapParts entries).map (Prod.map id Subtype.val) = entries := by
  rw [mapParts, List.map_map]
  exact List.attach_map_subtype_val entries

/-- The parts of a list are its items. -/
theorem map_val_listParts (items : List Data) : (listParts items).map Subtype.val = items := by
  rw [listParts, List.map_map]
  exact List.attach_map_subtype_val items

/-- A list that is decoded item by item. -/
theorem listWith?_list (items : List Data) (decode : Data → Option α) :
    (Data.list items).listWith? dialect (fun item => decode item.1) = items.mapM decode := by
  rw [listWith?]
  exact (List.mapM_map (f := Subtype.val) (g := decode) (l := listParts items)).symm.trans
    (congrArg _ (map_val_listParts items))

/-- A list is read item by item, and fails where one of them does. -/
theorem list?_list (items : List Data) (decode : Data → Option α) :
    (Data.list items).list? dialect decode = items.mapM decode :=
  listWith?_list items decode

/-- A list with an item that is not read is not read. -/
theorem mapM_eq_none {items : List Data} {decode : Data → Option α} {item : Data}
    (hitem : item ∈ items) (h : decode item = none) : items.mapM decode = none := by
  induction items with
  | nil => cases hitem
  | cons first items ih =>
    rw [List.mapM_cons]
    rcases List.mem_cons.mp hitem with rfl | hitem
    · rw [h]
      rfl
    · rw [ih hitem]
      cases decode first <;> rfl

/-- Items that were written one by one are read one by one. -/
theorem mapM_map_eq_some {encode : α → Data} {decode : Data → Option α} {as : List α}
    (h : ∀ a ∈ as, decode (encode a) = some a) : (as.map encode).mapM decode = some as := by
  induction as with
  | nil => rfl
  | cons a as ih =>
    rw [List.forall_mem_cons] at h
    rw [List.map_cons, List.mapM_cons, h.1, ih h.2]
    rfl

namespace Record

variable {whole : Data} {r : Record whole} {entries : List (String × Data)}
  {fields : List (String × Option Data)}

/-- A value that is looked up among values with something attached to each. -/
theorem lookup_map_snd {β γ : Type} (f : β → γ) (pairs : List (String × β)) (name : String) :
    (pairs.map (Prod.map id f)).lookup name = (pairs.lookup name).map f := by
  induction pairs with
  | nil => rfl
  | cons pair pairs ih =>
    rw [List.map_cons, List.lookup_cons, List.lookup_cons, ih]
    cases h : name == pair.1 <;> simp [Prod.map, h]

/-- A record has given fields, with their values or without one. -/
def Holds (r : Record whole) (fields : List (String × Option Data)) : Prop :=
  ∀ name value?, (name, value?) ∈ fields → (r.get? name).map Subtype.val = value?

/-- A required field is read as its value is. -/
theorem Holds.required (h : r.Holds fields) (decode : Data → Option α) {value : Data}
    (hfield : (name, some value) ∈ fields) :
    r.required name (fun part => decode part.1) = decode value := by
  obtain ⟨part, hpart, rfl⟩ := Option.map_eq_some_iff.mp (h _ _ hfield)
  rw [Record.required, hpart]
  rfl

/-- A field with a default is read as its value is. -/
theorem Holds.defaulted (h : r.Holds fields) (decode : Data → Option α) {value : Data}
    {default : α} (hfield : (name, some value) ∈ fields) :
    r.defaulted name default (fun part => decode part.1) = decode value := by
  obtain ⟨part, hpart, rfl⟩ := Option.map_eq_some_iff.mp (h _ _ hfield)
  rw [Record.defaulted, hpart]

/-- A field that is left out if it has its default is read as what it was written for. -/
theorem Holds.defaulted_if (h : r.Holds fields) (decode : Data → Option α) {shown : Bool}
    {value : Data} {default a : α} (hfield : (name, if shown then some value else none) ∈ fields)
    (hread : decode value = some a) (hdefault : shown = false → default = a) :
    r.defaulted name default (fun part => decode part.1) = some a := by
  cases shown with
  | true => rw [h.defaulted decode hfield, hread]
  | false =>
    rw [Record.defaulted, Option.map_eq_none_iff.mp (h _ _ hfield), hdefault rfl]

/-- A field that may be absent is read as its value is, unless this stands for none. -/
theorem Holds.optionalDefault_some (h : r.Holds fields) (decode : Data → Option α) {value : Data}
    (hfield : (name, some value) ∈ fields) (hpresent : value.isAbsent = false) :
    r.optionalDefault name (fun part => decode part.1) = (decode value).map some := by
  obtain ⟨part, hpart, rfl⟩ := Option.map_eq_some_iff.mp (h _ _ hfield)
  rw [Record.optionalDefault, hpart]
  exact if_neg (Bool.eq_false_iff.mp hpresent)

/-- A field that may be absent is read as what it was written for. -/
theorem Holds.optionalDefault (h : r.Holds fields) (decode : Data → Option α) (encode : α → Data)
    {a? : Option α} (hfield : (name, a?.map encode) ∈ fields)
    (hread : ∀ a, a? = some a → decode (encode a) = some a ∧ (encode a).isAbsent = false) :
    r.optionalDefault name (fun part => decode part.1) = some a? := by
  cases a? with
  | none => rw [Record.optionalDefault, Option.map_eq_none_iff.mp (h _ _ hfield)]
  | some a =>
    rw [h.optionalDefault_some decode hfield (hread a rfl).2, (hread a rfl).1, Option.map_some]

/-! The kinds of fields that records have. -/

/-- A text that was written is read where a text is required. -/
theorem Holds.required_text (h : r.Holds fields) {text : String}
    (hfield : (name, some (.text text)) ∈ fields) :
    r.required name (fun part => part.1.text?) = some text :=
  h.required Data.text? hfield

/-- A word that was written is read for what it stands for, where one is required. -/
theorem Holds.required_word (h : r.Holds fields) {words : List (String × α)} {word : String}
    {a : α} (hfield : (name, some (.text word)) ∈ fields) (hword : words.lookup word = some a) :
    r.required name (fun part => part.1.word? dialect words) = some a :=
  (h.required (fun value => value.word? dialect words) hfield).trans hword

/-- A word that was written is read for what it stands for, and not for the default. -/
theorem Holds.defaulted_word (h : r.Holds fields) {words : List (String × α)} {word : String}
    {default a : α} (hfield : (name, some (.text word)) ∈ fields)
    (hword : words.lookup word = some a) :
    r.defaulted name default (fun part => part.1.word? dialect words) = some a :=
  (h.defaulted (fun value => value.word? dialect words) hfield).trans hword

/-- A truth value that is left out if it is false. -/
theorem Holds.defaulted_false (h : r.Holds fields) {b : Bool}
    (hfield : (name, if b then some (.bool b) else none) ∈ fields) :
    r.defaulted name false (fun part => part.1.bool?) = some b :=
  h.defaulted_if bool? hfield rfl fun hfalse => hfalse.symm

/-- A list that was written is read item by item, and not for the default. -/
theorem Holds.defaulted_list (h : r.Holds fields) {items : List Data} {decode : Data → Option α}
    {default as : List α} (hfield : (name, some (.list items)) ∈ fields)
    (hitems : items.mapM decode = some as) :
    r.defaulted name default (fun part => part.1.list? dialect decode) = some as :=
  (h.defaulted (fun value => value.list? dialect decode) hfield).trans
    ((list?_list items decode).trans hitems)

/-- A text that may be missing is read as it was written, and as missing where it was left out. -/
theorem Holds.optional_text (h : r.Holds fields) {text? : Option String}
    (hfield : (name, text?.map Data.text) ∈ fields) :
    r.optionalDefault name (fun part => part.1.text?) = some text? :=
  h.optionalDefault Data.text? Data.text hfield fun _ _ => ⟨rfl, rfl⟩

end Record

/-! What a record has is told by its entries, or by its items in the order of the names. -/

/-- The fields of a value that is read as a record with given names. -/
def namedFields (names : List String) : Data → List (String × Data)
  | .map entries => entries
  | .list items => names.zip items
  | _ => []

/-- Names given to items in order are names of the record, in its order. -/
theorem map_fst_zip_sublist (names : List String) (items : List Data) :
    ((names.zip items).map Prod.fst).Sublist names := by
  induction names generalizing items with
  | nil => exact List.Sublist.refl _
  | cons name names ih =>
    cases items with
    | nil => exact List.nil_sublist _
    | cons item items => exact (ih items).cons_cons _

/-- The fields of a record are those of the value that is read. -/
theorem map_entries_record? {value : Data} {r : Record value}
    (h : value.record? dialect names = some r) :
    r.entries.map (Prod.map id Subtype.val) = value.namedFields names := by
  cases value with
  | map entries =>
    rw [record?] at h
    split_ifs at h
    cases h
    exact map_val_mapParts entries
  | list items =>
    rw [record?] at h
    split_ifs at h
    cases h
    rw [namedFields, ← List.zip_map_right, map_val_listParts]
  | plain word | null =>
    rw [record?] at h
    split_ifs at h
    cases h
    rfl
  | _ => cases h

/-- A field with one of the names is found in the record. -/
theorem holds_of_mem_namedFields {value field : Data} {r : Record value}
    (h : value.record? dialect names = some r) (hnames : names.Nodup) (hname : name ∈ names)
    (hfield : (name, field) ∈ value.namedFields names) : r.Holds [(name, some field)] := by
  intro name value? heq
  cases List.mem_singleton.mp heq
  rw [Record.get?, ← Record.lookup_map_snd, map_entries_record? h]
  apply lookup_of_hasTwice_eq_false _ hname hfield
  cases value with
  | map entries =>
    rw [record?] at h
    split_ifs at h with htwice
    exact Bool.eq_false_iff.mpr htwice
  | list items =>
    exact hasTwice_eq_false_of_nodup (hnames.sublist (map_fst_zip_sublist names items))
  | _ => cases hfield

/-- A closed record is one whose fields all have one of the names. -/
theorem closedRecord?_eq_some_iff {value : Data} {r : Record value} :
    value.closedRecord? dialect names = some r ↔
      value.record? dialect names = some r ∧
        ∀ field ∈ value.namedFields names, field.1 ∈ names := by
  rw [closedRecord?, Option.bind_eq_bind, Option.bind_eq_some_iff]
  constructor
  · rintro ⟨found, hfound, h⟩
    split_ifs at h with hall
    cases h
    refine ⟨hfound, fun field hfield => ?_⟩
    rw [← map_entries_record? hfound] at hfield
    obtain ⟨entry, hentry, rfl⟩ := List.mem_map.mp hfield
    exact List.contains_iff_mem.mp (List.all_eq_true.mp hall entry hentry)
  · rintro ⟨hfound, hnames⟩
    refine ⟨r, hfound, if_pos (List.all_eq_true.mpr fun entry hentry => ?_)⟩
    refine List.contains_iff_mem.mpr (hnames (entry.1, entry.2.1) ?_)
    rw [← map_entries_record? hfound]
    exact List.mem_map_of_mem hentry

/-- A value with a field of another name is no closed record. -/
theorem closedRecord?_eq_none_of_mem {value field : Data}
    (hfield : (name, field) ∈ value.namedFields names) (hname : name ∉ names) :
    value.closedRecord? dialect names = none :=
  Option.eq_none_iff_forall_ne_some.mpr fun _ hr =>
    hname ((closedRecord?_eq_some_iff.mp hr).2 _ hfield)

/-- A record that was written is read with all its fields. -/
theorem exists_record?_of_written (dialect : Dialect) (names : List String) {value : Data}
    {fields : List (String × Option Data)} (hvalue : value = .map (written fields))
    (hnames : fields.map Prod.fst = names) (hnodup : names.Nodup) :
    ∃ r, value.record? dialect names = some r ∧ r.Holds fields := by
  subst hvalue hnames
  have hwritten := hnodup.sublist (map_fst_written_sublist fields)
  refine ⟨⟨mapParts (written fields), false⟩, ?_, fun name value? hfield => ?_⟩
  · rw [record?, hasTwice_eq_false_of_nodup hwritten]
    rfl
  · rw [Record.get?, ← Record.lookup_map_snd, map_val_mapParts, lookup_written hnodup hfield]

/-- A record that was written has no other fields than the declared ones. -/
theorem exists_closedRecord?_of_written (dialect : Dialect) (names : List String) {value : Data}
    {fields : List (String × Option Data)} (hvalue : value = .map (written fields))
    (hnames : fields.map Prod.fst = names) (hnodup : names.Nodup) :
    ∃ r, value.closedRecord? dialect names = some r ∧ r.Holds fields := by
  obtain ⟨r, hr, hholds⟩ := exists_record?_of_written dialect names hvalue hnames hnodup
  refine ⟨r, closedRecord?_eq_some_iff.mpr ⟨hr, fun field hfield => ?_⟩, hholds⟩
  rw [hvalue, namedFields] at hfield
  exact hnames ▸ (map_fst_written_sublist fields).subset (List.mem_map_of_mem hfield)

end CatalogRecords.Data
