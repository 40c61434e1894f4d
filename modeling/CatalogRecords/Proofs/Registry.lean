import CatalogRecords.Proofs.Schema.Elements
import CatalogRecords.Registry
import Mathlib.Data.List.Forall2
import Mathlib.Data.List.TakeWhile
import Mathlib.Tactic.SplitIfs

/-!
# What is found in a registry

A registry looks for the document type that the first segment of a path names, and for the element
in that type alone. No element is missed in this way: identifiers hold no dot, and the paths of a
type begin with its identifier, so that no other type can have the path. Document types come into a
registry by definition, when all definitions can be built and no identifier comes twice, or one by
one, when the last type with an identifier takes the place of those before it.
-/

namespace CatalogRecords

variable {t : DocumentType}

/-! What comes before the first dot. -/

/-- The text before the first dot holds no dot, and is all of the path or has a dot behind it. -/
theorem beforeFirst_eq_iff {path sid : String} :
    Text.beforeFirst '.' path = sid ↔
      IsDotFree sid ∧ (path = sid ∨ isInside path sid = true) := by
  rw [← String.toList_inj, Text.beforeFirst, String.toList_ofList]
  constructor
  · intro h
    have hsplit := List.takeWhile_append_dropWhile (p := (· != '.')) (l := path.toList)
    rw [h] at hsplit
    refine ⟨fun hdot => ?_, ?_⟩
    · rw [← h] at hdot
      exact absurd (List.mem_takeWhile_imp hdot) (by decide)
    · cases hrest : path.toList.dropWhile (· != '.') with
      | nil =>
        rw [hrest, List.append_nil] at hsplit
        exact Or.inl (String.toList_inj.mp hsplit).symm
      | cons c rest =>
        have hc : c = '.' := by
          have hhead := List.head?_dropWhile_not (· != '.') path.toList
          rw [hrest] at hhead
          simpa using hhead
        refine Or.inr (isInside_iff_exists_childPath.mpr ⟨String.ofList rest, ?_⟩)
        rw [← String.toList_inj, toList_childPath, String.toList_ofList, ← hsplit, hrest, hc]
  · rintro ⟨hdotFree, hpath⟩
    have hall : ∀ c ∈ sid.toList, (c != '.') = true := fun c hc => by
      rw [bne_iff_ne]
      rintro rfl
      exact hdotFree hc
    rcases hpath with rfl | hinside
    · exact List.takeWhile_eq_self_iff.mpr hall
    · obtain ⟨rest, rfl⟩ := isInside_iff_exists_childPath.mp hinside
      rw [toList_childPath, List.takeWhile_append_of_pos hall]
      simp

/-- A document type that was built has the identifier of its definition. -/
theorem DocumentType.sid_of_build {d : DocumentTypeDefinition} (h : build d = .ok t) :
    t.sid = d.sid := by
  obtain ⟨_, -, h⟩ := bind_eq_ok_iff.mp h
  obtain ⟨_, -, h⟩ := bind_eq_ok_iff.mp h
  cases h
  rfl

namespace Registry

variable {r r' : Registry} {sid : String}

/-! Identifiers. -/

/-- An identifier finds the document type that has it. -/
theorem get?_eq_some_iff : r.get? sid = some t ↔ t ∈ r.types ∧ t.sid = sid := by
  constructor
  · intro h
    exact ⟨List.mem_of_find?_eq_some h, by simpa using List.find?_some h⟩
  · rintro ⟨hmem, rfl⟩
    have hfound : (r.get? t.sid).isSome := List.find?_isSome.mpr ⟨t, hmem, beq_self_eq_true _⟩
    obtain ⟨other, hother⟩ := Option.isSome_iff_exists.mp hfound
    have hsid : other.sid = t.sid := by simpa using List.find?_some hother
    rw [hother, List.inj_on_of_nodup_map r.distinct (List.mem_of_find?_eq_some hother) hmem hsid]

/-- The registry contains the identifiers of its types. -/
theorem contains_iff : r.contains sid = true ↔ ∃ t ∈ r.types, t.sid = sid := by
  rw [contains, Option.isSome_iff_exists]
  exact exists_congr fun t => get?_eq_some_iff

/-- A document type that is inserted is found, and those with other identifiers as before. -/
theorem get?_insert (r : Registry) (t : DocumentType) (sid : String) :
    (r.insert t).get? sid = if t.sid = sid then some t else r.get? sid := by
  split_ifs with hsid
  · exact get?_eq_some_iff.mpr ⟨List.mem_append_right _ (List.mem_singleton.mpr rfl), hsid⟩
  · ext other
    rw [get?_eq_some_iff, get?_eq_some_iff, insert, List.mem_append, List.mem_singleton,
      List.mem_filter, bne_iff_ne]
    constructor
    · rintro ⟨⟨hmem, -⟩ | rfl, hother⟩
      · exact ⟨hmem, hother⟩
      · exact absurd hother hsid
    · rintro ⟨hmem, rfl⟩
      exact ⟨Or.inl ⟨hmem, fun heq => hsid heq.symm⟩, rfl⟩

/-- Inserts document types one after the other. -/
def insertAll (r : Registry) (inserted : List DocumentType) : Registry := inserted.foldl insert r

/-- Of the document types with an identifier the last one that was inserted is found. -/
theorem get?_insertAll (r : Registry) (inserted : List DocumentType) (sid : String) :
    (r.insertAll inserted).get? sid =
      (inserted.reverse.find? fun t => t.sid == sid).or (r.get? sid) := by
  induction inserted generalizing r with
  | nil => rfl
  | cons t inserted ih =>
    have hstep : r.insertAll (t :: inserted) = (r.insert t).insertAll inserted := rfl
    rw [hstep, ih, get?_insert, List.reverse_cons, List.find?_append, Option.or_assoc,
      List.find?_singleton]
    by_cases hsid : t.sid = sid
    · simp [hsid]
    · simp [hsid]

/-! Paths. -/

/-- Lookups by identifier and by path agree with the document types that are held. -/
structure IsCoherent (r : Registry) : Prop where
  types : ∀ sid t, r.get? sid = some t ↔ t ∈ r.types ∧ t.sid = sid
  elements : ∀ path e, r.element? path = some e ↔ ∃ t ∈ r.types, e ∈ t.elements ∧ e.path = path
  unique : ∀ t ∈ r.types, ∀ other ∈ r.types, ∀ e ∈ t.elements, ∀ f ∈ other.elements,
    e.path = f.path → t = other ∧ e = f
  owner : ∀ path sid, (r.typeOf? path).map DocumentType.sid = some sid ↔
    (∃ t ∈ r.types, t.sid = sid) ∧ IsDotFree sid ∧ (path = sid ∨ isInside path sid = true)

/-- A path belongs to the document type that it lies inside. -/
theorem typeOf?_of_isInside {path : String} (ht : t ∈ r.types) (hlaidOut : t.IsLaidOut)
    (hinside : isInside path t.sid = true) : r.typeOf? path = some t := by
  rw [typeOf?, beforeFirst_eq_iff.mpr ⟨hlaidOut.sid, Or.inr hinside⟩, get?_eq_some_iff]
  exact ⟨ht, rfl⟩

/-- A registry of document types that are laid out is coherent. -/
theorem isCoherent_of_isLaidOut (h : ∀ t ∈ r.types, t.IsLaidOut) : r.IsCoherent where
  types _ _ := get?_eq_some_iff
  elements path e := by
    constructor
    · intro hfound
      obtain ⟨t, htype, helement⟩ := Option.bind_eq_some_iff.mp hfound
      have ht := (get?_eq_some_iff.mp htype).1
      exact ⟨t, ht, (h t ht).element?_eq_some_iff.mp helement⟩
    · rintro ⟨t, ht, he, rfl⟩
      rw [element?, typeOf?_of_isInside ht (h t ht) ((h t ht).inside e he), Option.bind_some]
      exact (h t ht).element?_path he
  unique t ht other hother e he f hf hpath := by
    have htype := typeOf?_of_isInside ht (h t ht) ((h t ht).inside e he)
    rw [hpath, typeOf?_of_isInside hother (h other hother) ((h other hother).inside f hf)] at htype
    cases htype
    exact ⟨rfl, (h t ht).eq_of_path_eq he hf hpath⟩
  owner path sid := by
    rw [typeOf?, Option.map_eq_some_iff]
    constructor
    · rintro ⟨t, htype, rfl⟩
      obtain ⟨ht, hsid⟩ := get?_eq_some_iff.mp htype
      exact ⟨⟨t, ht, rfl⟩, beforeFirst_eq_iff.mp hsid.symm⟩
    · rintro ⟨⟨t, ht, rfl⟩, hsid⟩
      rw [beforeFirst_eq_iff.mpr hsid]
      exact ⟨t, get?_eq_some_iff.mpr ⟨ht, rfl⟩, rfl⟩

/-- Inserting keeps what all document types have in common. -/
theorem forall_mem_types_insertAll {P : DocumentType → Prop} {inserted : List DocumentType}
    (hinserted : ∀ t ∈ inserted, P t) (h : ∀ t ∈ r.types, P t) :
    ∀ t ∈ (r.insertAll inserted).types, P t := by
  induction inserted generalizing r with
  | nil => exact h
  | cons t inserted ih =>
    rw [List.forall_mem_cons] at hinserted
    refine ih hinserted.2 fun other hother => ?_
    rcases List.mem_append.mp hother with hother | hother
    · exact h other (List.mem_filter.mp hother).1
    · rw [List.mem_singleton.mp hother]
      exact hinserted.1

/-! Definitions. -/

variable {d : DocumentTypeDefinition} {ds : List DocumentTypeDefinition} {error : LoadError}

/-- Why a definition cannot be added where other identifiers are taken. -/
inductive IsRefused (taken : List String) (d : DocumentTypeDefinition) : LoadError → Prop
  | repeated (htaken : d.sid ∈ taken) : IsRefused taken d (.duplicateType d.sid)
  | unbuilt {reason : SchemaError} (hnew : d.sid ∉ taken)
      (hbuild : DocumentType.build d = .error reason) :
      IsRefused taken d (.invalidDefinition d.sid reason)

/-- Definitions that can be built and have different identifiers. -/
structure AreDefinable (ds : List DocumentTypeDefinition) : Prop where
  builds : ∀ d ∈ ds, ∃ t, DocumentType.build d = .ok t
  distinct : (ds.map DocumentTypeDefinition.sid).Nodup

/-- The document types of definitions, one for each and in the same order. -/
def AreBuilt : List DocumentTypeDefinition → List DocumentType → Prop :=
  List.Forall₂ fun d t => DocumentType.build d = .ok t

/-- Types built from definitions have the identifiers of these. -/
theorem AreBuilt.map_sid {ts : List DocumentType} (h : AreBuilt ds ts) :
    ts.map DocumentType.sid = ds.map DocumentTypeDefinition.sid := by
  induction h with
  | nil => rfl
  | cons hbuild _ ih => rw [List.map_cons, List.map_cons, DocumentType.sid_of_build hbuild, ih]

/-- Each of the types is built from one of the definitions. -/
theorem AreBuilt.exists_build {ts : List DocumentType} (h : AreBuilt ds ts) :
    ∀ t ∈ ts, ∃ d, DocumentType.build d = .ok t := by
  induction h with
  | nil => exact fun _ ht => absurd ht List.not_mem_nil
  | cons hbuild _ ih => exact List.forall_mem_cons.mpr ⟨⟨_, hbuild⟩, ih⟩

/-- A definition is added if its identifier is new and it can be built. -/
theorem define_eq_ok (h : r.define d = .ok r') :
    d.sid ∉ r.types.map DocumentType.sid ∧ ∃ t, DocumentType.build d = .ok t ∧ r' = r.insert t := by
  rw [define] at h
  split_ifs at h with hcontains
  refine ⟨fun hmem => hcontains (contains_iff.mpr (List.mem_map.mp hmem)), ?_⟩
  split at h
  · next t hbuild =>
    cases h
    exact ⟨t, hbuild, rfl⟩
  · cases h

/-- A definition is turned down with the error for which it is refused after the types there are. -/
theorem define_eq_error_iff :
    r.define d = .error error ↔ IsRefused (r.types.map DocumentType.sid) d error := by
  have hcontains : r.contains d.sid = true ↔ d.sid ∈ r.types.map DocumentType.sid :=
    contains_iff.trans List.mem_map.symm
  rw [define]
  constructor
  · intro h
    split_ifs at h with htaken
    · cases h
      exact .repeated (hcontains.mp htaken)
    · split at h
      · cases h
      · next reason hbuild =>
        cases h
        exact .unbuilt (fun hmem => htaken (hcontains.mpr hmem)) hbuild
  · rintro (htaken | ⟨hnew, hbuild⟩)
    · rw [if_pos (hcontains.mpr htaken)]
    · rw [if_neg (fun htaken => hnew (hcontains.mp htaken)), hbuild]

/-- A document type with a new identifier comes last. -/
theorem types_insert (hnew : t.sid ∉ r.types.map DocumentType.sid) :
    (r.insert t).types = r.types ++ [t] := by
  refine congrArg (· ++ [t]) (List.filter_eq_self.mpr fun other hother => bne_iff_ne.mpr ?_)
  intro hsid
  exact hnew (hsid ▸ List.mem_map_of_mem hother)

/-- Definitions in two runs are defined one run after the other. -/
theorem ofDefinitions_append (ds ds' : List DocumentTypeDefinition) :
    ofDefinitions (ds ++ ds') = ofDefinitions ds >>= fun r => ds'.foldlM define r :=
  List.foldlM_append

/-- The last of the definitions is defined on the registry of those before it. -/
theorem ofDefinitions_concat (ds : List DocumentTypeDefinition) (d : DocumentTypeDefinition) :
    ofDefinitions (ds ++ [d]) = ofDefinitions ds >>= fun r => r.define d := by
  simp [ofDefinitions_append]

/-- A registry that was made from definitions holds their document types, which have different
identifiers. -/
theorem areBuilt_of_ofDefinitions (h : ofDefinitions ds = .ok r) :
    AreBuilt ds r.types ∧ AreDefinable ds := by
  induction ds using List.reverseRecOn generalizing r with
  | nil =>
    cases h
    exact ⟨.nil, fun _ hd => absurd hd List.not_mem_nil, List.nodup_nil⟩
  | append_singleton ds d ih =>
    rw [ofDefinitions_concat] at h
    obtain ⟨before, hbefore, hdefine⟩ := bind_eq_ok_iff.mp h
    obtain ⟨hbuilt, hdefinable⟩ := ih hbefore
    obtain ⟨hnew, t, hbuild, rfl⟩ := define_eq_ok hdefine
    have hsid := DocumentType.sid_of_build hbuild
    rw [types_insert (hsid ▸ hnew)]
    refine ⟨List.rel_append hbuilt (.cons hbuild .nil), ?_, ?_⟩
    · exact List.forall_mem_append.mpr
        ⟨hdefinable.builds, List.forall_mem_singleton.mpr ⟨t, hbuild⟩⟩
    · rw [List.map_append, List.map_singleton, ← List.concat_eq_append]
      exact hdefinable.distinct.concat (hbuilt.map_sid ▸ hnew)

/-- A registry can be made from definitions exactly if all can be built and no identifier comes
twice. -/
theorem exists_ofDefinitions_iff : (∃ r, ofDefinitions ds = .ok r) ↔ AreDefinable ds := by
  refine ⟨fun ⟨r, h⟩ => (areBuilt_of_ofDefinitions h).2, fun h => ?_⟩
  induction ds using List.reverseRecOn with
  | nil => exact ⟨empty, rfl⟩
  | append_singleton ds d ih =>
    obtain ⟨hbuilds, hdistinct⟩ := h
    rw [List.forall_mem_append] at hbuilds
    rw [List.map_append, List.nodup_append] at hdistinct
    obtain ⟨r, hr⟩ := ih ⟨hbuilds.1, hdistinct.1⟩
    rw [ofDefinitions_concat, hr]
    cases hdefine : r.define d with
    | ok r' => exact ⟨r', hdefine⟩
    | error reason =>
      rw [define_eq_error_iff, (areBuilt_of_ofDefinitions hr).1.map_sid] at hdefine
      exfalso
      cases hdefine with
      | repeated htaken =>
        exact hdistinct.2.2 _ htaken _ (List.mem_map_of_mem List.mem_cons_self) rfl
      | unbuilt _ hbuild =>
        obtain ⟨t, ht⟩ := hbuilds.2 d List.mem_cons_self
        rw [ht] at hbuild
        cases hbuild

/-- The error of definitions is that of the first one that cannot be added to those before it. -/
theorem ofDefinitions_eq_error_iff :
    ofDefinitions ds = .error error ↔ ∃ before d after, ds = before ++ d :: after ∧
      AreDefinable before ∧ IsRefused (before.map DocumentTypeDefinition.sid) d error := by
  constructor
  · intro h
    induction ds using List.reverseRecOn with
    | nil => cases h
    | append_singleton ds d ih =>
      rw [ofDefinitions_concat] at h
      rcases bind_eq_error_iff.mp h with hbefore | ⟨r, hr, hdefine⟩
      · obtain ⟨before, other, after, rfl, hrest⟩ := ih hbefore
        exact ⟨before, other, after ++ [d], by simp, hrest⟩
      · obtain ⟨hbuilt, hdefinable⟩ := areBuilt_of_ofDefinitions hr
        rw [define_eq_error_iff, hbuilt.map_sid] at hdefine
        exact ⟨ds, d, [], rfl, hdefinable, hdefine⟩
  · rintro ⟨before, d, after, rfl, hdefinable, hrefused⟩
    obtain ⟨r, hr⟩ := exists_ofDefinitions_iff.mpr hdefinable
    rw [← (areBuilt_of_ofDefinitions hr).1.map_sid, ← define_eq_error_iff] at hrefused
    rw [ofDefinitions_append, hr]
    refine bind_eq_error_iff.mpr (Or.inr ⟨r, rfl, ?_⟩)
    rw [List.foldlM_cons, hrefused]
    rfl

/-! Registries. -/

/-- A registry that was made from definitions, with document types inserted afterwards, is coherent
and holds of each identifier the last document type with it. It can be made exactly if all
definitions can be built and no identifier comes twice; else the error is that of the first
definition that repeats an identifier or cannot be built. -/
theorem lookups_agree_with_types (ds : List DocumentTypeDefinition) :
    (∀ r, ofDefinitions ds = .ok r → AreBuilt ds r.types ∧
      ∀ inserted, (∀ t ∈ inserted, ∃ d, DocumentType.build d = .ok t) →
        (r.insertAll inserted).IsCoherent ∧
          ∀ sid, (r.insertAll inserted).get? sid =
            (inserted.reverse.find? fun t => t.sid == sid).or (r.get? sid)) ∧
      ((∃ r, ofDefinitions ds = .ok r) ↔ AreDefinable ds) ∧
      ∀ error, ofDefinitions ds = .error error ↔ ∃ before d after, ds = before ++ d :: after ∧
        AreDefinable before ∧ IsRefused (before.map DocumentTypeDefinition.sid) d error := by
  refine ⟨fun r hr => ?_, exists_ofDefinitions_iff, fun error => ofDefinitions_eq_error_iff⟩
  have hbuilt := (areBuilt_of_ofDefinitions hr).1
  refine ⟨hbuilt, fun inserted hinserted => ⟨?_, r.get?_insertAll inserted⟩⟩
  refine isCoherent_of_isLaidOut fun t ht => ?_
  obtain ⟨d, hbuild⟩ := forall_mem_types_insertAll hinserted hbuilt.exists_build t ht
  exact DocumentType.isLaidOut_of_build hbuild

/-- Another definition of sites, with relations that have no fields. -/
def briefDefinition : DocumentTypeDefinition where
  sid := "SI"
  paragraphs := [.leaf { sid := "RV" }]

/-- The document type of the other definition. -/
def briefType : DocumentType where
  sid := "SI"
  label := ""
  compliant := true
  author := none
  version := none
  standardVersion := none
  publicByDefault := false
  elements := layoutAll ⟨none, "SI", false, 0⟩ briefDefinition.paragraphs

/-- When the type of sites is replaced, its paths are those of the one in its place. -/
theorem element?_insertAll_briefType :
    ofDefinitions [siteDefinition] = .ok (empty.insert siteType) ∧
      DocumentType.build briefDefinition = .ok briefType ∧
      ((empty.insert siteType).insertAll [briefType]).get? "SI" = some briefType ∧
      ∀ path e, ((empty.insert siteType).insertAll [briefType]).element? path = some e ↔
        e ∈ briefType.elements ∧ e.path = path := by
  have hdefined : ofDefinitions [siteDefinition] = .ok (empty.insert siteType) := by rfl
  have hbuild : DocumentType.build briefDefinition = .ok briefType := by rfl
  obtain ⟨hcoherent, hlast⟩ := ((lookups_agree_with_types [siteDefinition]).1 _ hdefined).2
    [briefType] (List.forall_mem_singleton.mpr ⟨briefDefinition, hbuild⟩)
  refine ⟨hdefined, hbuild, hlast "SI", fun path e => (hcoherent.elements path e).trans ?_⟩
  have htypes : ((empty.insert siteType).insertAll [briefType]).types = [briefType] := by rfl
  rw [htypes]
  simp only [List.mem_singleton, exists_eq_left]

/-- Of two things that are wrong with a definition its repeated identifier is reported. -/
example : ofDefinitions [briefDefinition, { sid := "RA" }, { sid := "SI", paragraphs := [
    .leaf { sid := "" }] }, { sid := "." }] = .error (.duplicateType "SI") := by
  rfl

end Registry

end CatalogRecords
