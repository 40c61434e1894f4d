import CatalogRecords.Proofs.Schema.Children
import CatalogRecords.Proofs.Schema.Resolution

/-!
# What partial paths stand for

The segments of a complete path are the identifiers from the document type down to the element, so
that a partial path stands for the elements whose identifiers it ends, whole ones and in a row.
Paths are compared as texts and never taken apart; that this comes to the same rests on identifiers
having no dots in them and the document type being no element.
-/

namespace CatalogRecords.DocumentType

variable {t : DocumentType} {e : Element} {partialPath path : String}

/-- The identifiers from the document type down to an element. -/
def chain (t : DocumentType) (e : Element) : List String :=
  t.sid :: ((e :: t.ancestors e).map Element.sid).reverse

/-- The complete paths of the elements whose identifiers end with the segments of a partial path, in
canonical order, and the document type if the partial path is its identifier. -/
def pathsEndingWith (t : DocumentType) (partialPath : String) : List String :=
  (t.elements.filter fun e => segments partialPath <:+ t.chain e).map Element.path ++
    if partialPath = t.sid then [t.sid] else []

namespace IsLaidOut

/-- The segments of an element's path are the identifiers down to it. -/
theorem segments_path_eq_chain (h : t.IsLaidOut) (he : e ∈ t.elements) :
    segments e.path = t.chain e := by
  refine h.induction (P := fun e => segments e.path = t.chain e) ?_ ?_ e he
  · intro e he hat
    rw [hat.path, segments_childPath_of_isDotFree (h.isDotFree he), top,
      segments_of_isDotFree h.sid, chain, ancestors_of_isAt_top hat]
    rfl
  · intro e he p hp _ hlt hat ih
    have hparent : segments e.inner.parentPath = segments e.path := rfl
    rw [hat.path, segments_childPath_of_isDotFree (h.isDotFree he), chain,
      h.ancestors_of_isAt_inner hp hlt hat, List.map_cons, List.reverse_cons]
    exact congrArg (· ++ [e.sid]) ih

/-- A partial path stands for the paths that its segments end. -/
theorem resolveAll_eq (h : t.IsLaidOut) (partialPath : String) :
    t.resolveAll partialPath = t.pathsEndingWith partialPath := by
  have hmatches (e : Element) (he : e ∈ t.elements) :
      matchesPath partialPath e.path = decide (segments partialPath <:+ t.chain e) := by
    rw [Bool.eq_iff_iff, decide_eq_true_eq, matchesPath_iff, h.segments_path_eq_chain he]
  rw [resolveAll, pathsEndingWith, List.filter_map]
  congr 1
  · exact congrArg _ (List.filter_congr hmatches)
  · simp only [beq_iff_eq, eq_comm (a := t.sid)]

/-- Each identifier in a chain is that of the document type or of an element. -/
theorem mem_of_mem_chain (h : t.IsLaidOut) (he : e ∈ t.elements) {sid : String}
    (hsid : sid ∈ t.chain e) : sid ∈ t.sid :: t.elements.map Element.sid := by
  rw [chain, List.mem_cons, List.mem_reverse] at hsid
  rcases hsid with rfl | hsid
  · exact List.mem_cons_self
  · obtain ⟨a, ha, rfl⟩ := List.mem_map.mp hsid
    refine List.mem_cons_of_mem _ (List.mem_map_of_mem ?_)
    rcases List.mem_cons.mp ha with rfl | ha
    · exact he
    · exact ((h.mem_ancestors_iff he).mp ha).1

/-- A partial path that stands for something is made of whole identifiers. -/
theorem mem_segments (h : t.IsLaidOut) (hpath : path ∈ t.pathsEndingWith partialPath)
    {piece : String} (hpiece : piece ∈ segments partialPath) :
    piece ∈ t.sid :: t.elements.map Element.sid := by
  rcases List.mem_append.mp hpath with hpath | hpath
  · obtain ⟨e, he, -⟩ := List.mem_map.mp hpath
    obtain ⟨he, hends⟩ := List.mem_filter.mp he
    exact h.mem_of_mem_chain he ((of_decide_eq_true hends).subset hpiece)
  · split_ifs at hpath with hroot
    · rw [hroot, segments_of_isDotFree h.sid, List.mem_singleton] at hpiece
      rw [hpiece]
      exact List.mem_cons_self
    · cases hpath

end IsLaidOut

/-- How a path that has to be unique resolves is told by the number of paths that it stands for. -/
theorem resolve_unique_of_length (t : DocumentType) (partialPath : String) :
    ((t.resolveAll partialPath).length = 0 →
      t.resolve partialPath true = .error (.notDefined partialPath)) ∧
    ((t.resolveAll partialPath).length = 1 →
      t.resolve partialPath true = .ok (t.resolveAll partialPath)) ∧
    (1 < (t.resolveAll partialPath).length →
      t.resolve partialPath true = .error (.ambiguous partialPath (t.resolveAll partialPath))) := by
  rw [resolve, if_pos rfl, resolveUnique]
  cases t.resolveAll partialPath with
  | nil => simp [Except.map]
  | cons first rest =>
    cases rest with
    | nil => simp [Except.map]
    | cons second rest => simp [Except.map]

/-- Partial paths resolve by whole segments: to the elements whose identifiers, from the document
type on, end with the segments of the path, in canonical order, and then to the document type if the
path is its identifier. A path that has to be unique resolves if that is one, and else the error has
the path and all that it stands for. What resolves at all is made of identifiers, so that nothing is
found by a part of an identifier or through an empty segment. -/
theorem resolve_by_segments {definition : DocumentTypeDefinition}
    (hbuild : build definition = .ok t) (partialPath : String) :
    t.resolve partialPath false = .ok (t.pathsEndingWith partialPath) ∧
    (t.pathsEndingWith partialPath = [] →
      t.resolve partialPath true = .error (.notDefined partialPath)) ∧
    ((t.pathsEndingWith partialPath).length = 1 →
      t.resolve partialPath true = .ok (t.pathsEndingWith partialPath)) ∧
    (1 < (t.pathsEndingWith partialPath).length → t.resolve partialPath true =
      .error (.ambiguous partialPath (t.pathsEndingWith partialPath))) ∧
    (t.pathsEndingWith partialPath ≠ [] → ∀ piece ∈ segments partialPath,
      isSid piece = true ∧ piece ∈ t.sid :: t.elements.map Element.sid) := by
  have h := isLaidOut_of_build hbuild
  obtain ⟨hnone, hone, hmany⟩ := t.resolve_unique_of_length partialPath
  rw [h.resolveAll_eq] at hnone hone hmany
  refine ⟨congrArg Except.ok (h.resolveAll_eq partialPath),
    fun hnil => hnone (List.length_eq_zero_iff.mpr hnil), hone, hmany, fun hsome piece hpiece => ?_⟩
  obtain ⟨path, hpath⟩ := List.exists_mem_of_ne_nil _ hsome
  have hmem := h.mem_segments hpath hpiece
  refine ⟨?_, hmem⟩
  rcases List.mem_cons.mp hmem with rfl | hsid
  · obtain ⟨u, hsid, -⟩ := bind_eq_ok_iff.mp hbuild
    rw [(elements_of_build hbuild).1]
    exact checkSid_eq_ok hsid
  · obtain ⟨a, ha, rfl⟩ := List.mem_map.mp hsid
    exact (h.sound a ha).sid

/-- The definition of records with codes at two depths, one of whose identifiers ends like
theirs. -/
def codesDefinition : DocumentTypeDefinition where
  sid := "SI"
  paragraphs := [
    .group { sid := "CD" } [.leaf { sid := "TSK" }, .leaf { sid := "ATSK" },
      .group { sid := "NCT" } [.leaf { sid := "TSK" }]]]

/-- The document type of records with codes at two depths. -/
def codesType : DocumentType where
  sid := "SI"
  label := ""
  compliant := true
  author := none
  version := none
  standardVersion := none
  publicByDefault := false
  elements := layoutAll ⟨none, "SI", false, 0⟩ codesDefinition.paragraphs

/-- An identifier stands for both of its elements and for none that only ends like it, and with the
one above it for one of them. -/
theorem codesType_resolve :
    build codesDefinition = .ok codesType ∧
      codesType.resolve "TSK" false = .ok ["SI.CD.TSK", "SI.CD.NCT.TSK"] ∧
      codesType.resolve "TSK" true =
        .error (.ambiguous "TSK" ["SI.CD.TSK", "SI.CD.NCT.TSK"]) ∧
      codesType.resolve "NCT.TSK" true = .ok ["SI.CD.NCT.TSK"] ∧
      codesType.resolve "SK" true = .error (.notDefined "SK") := by
  have hbuild : build codesDefinition = .ok codesType := rfl
  have hboth : codesType.pathsEndingWith "TSK" = ["SI.CD.TSK", "SI.CD.NCT.TSK"] := by
    decide +kernel
  have hone : codesType.pathsEndingWith "NCT.TSK" = ["SI.CD.NCT.TSK"] := by decide +kernel
  have hnone : codesType.pathsEndingWith "SK" = [] := by decide +kernel
  obtain ⟨hall, -, -, hmany, -⟩ := resolve_by_segments hbuild "TSK"
  obtain ⟨-, -, hunique, -⟩ := resolve_by_segments hbuild "NCT.TSK"
  rw [hboth] at hall hmany
  rw [hone] at hunique
  exact ⟨hbuild, hall, hmany (by decide), hunique rfl,
    (resolve_by_segments hbuild "SK").2.1 hnone⟩

end CatalogRecords.DocumentType
