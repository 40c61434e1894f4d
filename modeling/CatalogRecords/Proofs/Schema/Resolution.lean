import CatalogRecords.Proofs.Schema.Elements

/-!
# Resolving partial paths

A partial path stands for the complete paths that its segments end. A complete path thus stands for
itself, but also for the path of any element that is reached by the same identifiers from further
down. That takes an element with the identifier of the document type, so that all complete paths
resolve to themselves exactly if there is none.
-/

namespace CatalogRecords.DocumentType

variable {t : DocumentType} {e : Element} {partialPath path other : String}

/-- The complete paths that partial paths can stand for: those of the elements in canonical order,
then that of the document type. -/
def completePaths (t : DocumentType) : List String := t.elements.map Element.path ++ [t.sid]

/-- A path ends with a dot and another path exactly if it leads to that one from somewhere. -/
theorem endsWith_iff_exists_childPath :
    Text.endsWith path ("." ++ partialPath) = true ↔
      ∃ outer, path = childPath outer partialPath := by
  rw [Text.endsWith, List.isSuffixOf_iff_suffix, String.toList_append]
  constructor
  · rintro ⟨outer, houter⟩
    refine ⟨String.ofList outer, String.toList_inj.mp ?_⟩
    rw [toList_childPath, String.toList_ofList, ← houter]
    rfl
  · rintro ⟨outer, rfl⟩
    rw [toList_childPath]
    exact List.suffix_append _ _

/-- A partial path stands for a complete one exactly if its segments end that one. -/
theorem matchesPath_iff :
    matchesPath partialPath path = true ↔ segments partialPath <:+ segments path := by
  rw [matchesPath, Bool.or_eq_true, beq_iff_eq, endsWith_iff_exists_childPath]
  constructor
  · rintro (rfl | ⟨outer, rfl⟩)
    · exact List.suffix_rfl
    · rw [segments_childPath]
      exact List.suffix_append _ _
  · rintro ⟨before, hbefore⟩
    by_cases hnil : before = []
    · left
      rw [hnil, List.nil_append] at hbefore
      exact (segments_inj.mp hbefore).symm
    · right
      refine ⟨ofSegments before, ?_⟩
      rw [← ofSegments_segments path, ← hbefore, ofSegments_append hnil (segments_ne_nil _),
        ofSegments_segments]

/-- A path is resolved to one if it is all that there is to resolve it to. -/
theorem resolve_eq_ok_singleton_iff :
    t.resolve partialPath true = .ok [path] ↔ t.resolveAll partialPath = [path] := by
  rw [resolve, if_pos rfl, map_eq_ok_iff, resolveUnique]
  cases t.resolveAll partialPath with
  | nil => simp
  | cons first rest => cases rest <;> simp

namespace IsLaidOut

/-- What a partial path stands for are the complete paths that its segments end. -/
theorem resolveAll_eq_filter (h : t.IsLaidOut) (partialPath : String) :
    t.resolveAll partialPath = t.completePaths.filter (matchesPath partialPath) := by
  have hroot : matchesPath partialPath t.sid = (t.sid == partialPath) := by
    rw [Bool.eq_iff_iff, matchesPath_iff, beq_iff_eq, segments_of_isDotFree h.sid]
    constructor
    · intro hsuffix
      have hlength := List.length_pos_iff.mpr (segments_ne_nil partialPath)
      have heq := hsuffix.eq_of_length_le hlength
      rw [← segments_inj, segments_of_isDotFree h.sid, heq]
    · rintro rfl
      rw [segments_of_isDotFree h.sid]
  rw [resolveAll, completePaths, List.filter_append, List.filter_singleton, hroot,
    cond_eq_ite]

/-- No complete path comes twice. -/
theorem nodup_completePaths (h : t.IsLaidOut) : t.completePaths.Nodup := by
  refine List.nodup_append.mpr ⟨h.nodup, List.nodup_singleton _, ?_⟩
  intro path hpath root hroot heq
  obtain ⟨e, he, rfl⟩ := List.mem_map.mp hpath
  have hinside := h.inside e he
  rw [heq, List.mem_singleton.mp hroot] at hinside
  exact not_isInside_self t.sid hinside

/-- A complete path resolves to itself exactly if it ends no other one. -/
theorem resolve_self_iff (h : t.IsLaidOut) (hpath : path ∈ t.completePaths) :
    t.resolve path true = .ok [path] ↔
      ∀ other ∈ t.completePaths, segments path <:+ segments other → other = path := by
  rw [resolve_eq_ok_singleton_iff, h.resolveAll_eq_filter, ← List.perm_singleton,
    List.perm_ext_iff_of_nodup (h.nodup_completePaths.filter _) (List.nodup_singleton _)]
  constructor
  · intro hsame other hother hsuffix
    have hmem : other ∈ t.completePaths.filter (matchesPath path) :=
      List.mem_filter.mpr ⟨hother, matchesPath_iff.mpr hsuffix⟩
    exact List.mem_singleton.mp ((hsame other).mp hmem)
  · intro halone other
    rw [List.mem_filter, matchesPath_iff, List.mem_singleton]
    constructor
    · rintro ⟨hother, hsuffix⟩
      exact halone other hother hsuffix
    · rintro rfl
      exact ⟨hpath, List.suffix_rfl⟩

/-! What the segments of a complete path are. -/

/-- The segments of an element's path begin with the document type, and each one after it is the
identifier of an element. -/
theorem segments_path (h : t.IsLaidOut) (he : e ∈ t.elements) :
    ∃ sids, segments e.path = t.sid :: sids ∧ ∀ sid ∈ sids, ∃ a ∈ t.elements, a.sid = sid := by
  refine h.induction (P := fun e => ∃ sids, segments e.path = t.sid :: sids ∧
    ∀ sid ∈ sids, ∃ a ∈ t.elements, a.sid = sid) ?_ ?_ e he
  · intro e he hat
    refine ⟨[e.sid], ?_, ?_⟩
    · rw [hat.path, segments_childPath_of_isDotFree (h.isDotFree he), top,
        segments_of_isDotFree h.sid, List.singleton_append]
    · intro sid hsid
      exact ⟨e, he, (List.mem_singleton.mp hsid).symm⟩
  · rintro e he p hp - - hat ⟨sids, hsegments, hsids⟩
    refine ⟨sids ++ [e.sid], ?_, ?_⟩
    · rw [hat.path, segments_childPath_of_isDotFree (h.isDotFree he)]
      exact congrArg (· ++ [e.sid]) hsegments
    · intro sid hsid
      rcases List.mem_append.mp hsid with hsid | hsid
      · exact hsids sid hsid
      · exact ⟨e, he, (List.mem_singleton.mp hsid).symm⟩

/-- A complete path is made of the identifier of the type and those of its elements. -/
theorem segments_of_mem_completePaths (h : t.IsLaidOut) (hpath : path ∈ t.completePaths) :
    ∃ sids, segments path = t.sid :: sids ∧ ∀ sid ∈ sids, ∃ a ∈ t.elements, a.sid = sid := by
  rcases List.mem_append.mp hpath with hpath | hpath
  · obtain ⟨e, he, rfl⟩ := List.mem_map.mp hpath
    exact h.segments_path he
  · rw [List.mem_singleton.mp hpath, segments_of_isDotFree h.sid]
    exact ⟨[], rfl, List.forall_mem_nil _⟩

/-- The path of an element ends with its identifier. -/
theorem sid_suffix_path (h : t.IsLaidOut) (he : e ∈ t.elements) :
    [e.sid] <:+ segments e.path := by
  have hpath : ∃ outer, e.path = childPath outer e.sid := by
    rcases h.placed e he with hat | ⟨p, -, -, -, hat⟩
    · exact ⟨_, hat.path⟩
    · exact ⟨_, hat.path⟩
  obtain ⟨outer, hpath⟩ := hpath
  rw [hpath, segments_childPath_of_isDotFree (h.isDotFree he)]
  exact List.suffix_append _ _

/-- Where no element has the identifier of the document type, a complete path ends no other one. -/
theorem eq_of_suffix (h : t.IsLaidOut) (hfresh : ∀ e ∈ t.elements, e.sid ≠ t.sid)
    (hpath : path ∈ t.completePaths) (hother : other ∈ t.completePaths)
    (hsuffix : segments path <:+ segments other) : other = path := by
  obtain ⟨sids, hsegments, -⟩ := h.segments_of_mem_completePaths hpath
  obtain ⟨others, hsegments', hothers⟩ := h.segments_of_mem_completePaths hother
  obtain ⟨before, hbefore⟩ := hsuffix
  cases before with
  | nil => exact (segments_inj.mp hbefore).symm
  | cons first rest =>
    -- The document type would come again where it begins the shorter path.
    rw [hsegments, hsegments', List.cons_append, List.cons.injEq] at hbefore
    obtain ⟨a, ha, hsid⟩ := hothers t.sid (hbefore.2 ▸ by simp)
    exact absurd hsid (hfresh a ha)

end IsLaidOut

/-- All complete paths resolve to themselves exactly if no element has the identifier of the
document type; a single one does exactly if it ends no other one. -/
theorem complete_paths_resolve_iff {definition : DocumentTypeDefinition} {t : DocumentType}
    (hbuild : build definition = .ok t) :
    (((∀ e ∈ t.elements, t.resolve e.path true = .ok [e.path]) ∧
      t.resolve t.sid true = .ok [t.sid]) ↔ ∀ e ∈ t.elements, e.sid ≠ t.sid) ∧
    ∀ path ∈ t.completePaths, (t.resolve path true = .ok [path] ↔
      ∀ other ∈ t.completePaths, segments path <:+ segments other → other = path) := by
  have h := isLaidOut_of_build hbuild
  have hroot : t.sid ∈ t.completePaths := List.mem_append_right _ (List.mem_singleton_self _)
  have hmem (e : Element) (he : e ∈ t.elements) : e.path ∈ t.completePaths :=
    List.mem_append_left _ (List.mem_map_of_mem he)
  refine ⟨⟨?_, fun hfresh => ?_⟩, fun path hpath => h.resolve_self_iff hpath⟩
  · rintro ⟨-, hresolves⟩ e he hsid
    have hsuffix : segments t.sid <:+ segments e.path := by
      rw [segments_of_isDotFree h.sid, ← hsid]
      exact h.sid_suffix_path he
    have heq := (h.resolve_self_iff hroot).mp hresolves e.path (hmem e he) hsuffix
    exact not_isInside_self t.sid (heq ▸ h.inside e he)
  · have hself (path : String) (hpath : path ∈ t.completePaths) :
        t.resolve path true = .ok [path] :=
      (h.resolve_self_iff hpath).mpr fun other hother => h.eq_of_suffix hfresh hpath hother
    exact ⟨fun e he => hself e.path (hmem e he), hself t.sid hroot⟩

/-- In the type of sites every complete path resolves to itself. -/
theorem siteType_paths_resolve :
    build siteDefinition = .ok siteType ∧
      (∀ e ∈ siteType.elements, siteType.resolve e.path true = .ok [e.path]) ∧
      siteType.resolve "SI" true = .ok ["SI"] := by
  refine ⟨build_siteDefinition, (complete_paths_resolve_iff build_siteDefinition).1.mpr ?_⟩
  decide +kernel

/-- The definition of sites with parts that are sites again. -/
def nestedSiteDefinition : DocumentTypeDefinition where
  sid := "SI"
  paragraphs := [.group { sid := "PA" } [.group { sid := "SI" } [.leaf { sid := "PA" }]]]

/-- The document type of sites with parts that are sites again. -/
def nestedSiteType : DocumentType where
  sid := "SI"
  label := ""
  compliant := true
  author := none
  version := none
  standardVersion := none
  publicByDefault := false
  elements := layoutAll ⟨none, "SI", false, 0⟩ nestedSiteDefinition.paragraphs

/-- The path of the parts and that of the document type come again further down, and do not
resolve. -/
theorem reused_sid_is_ambiguous :
    build nestedSiteDefinition = .ok nestedSiteType ∧
      nestedSiteType.contains "SI.PA" = true ∧
      nestedSiteType.resolve "SI.PA" true =
        .error (.ambiguous "SI.PA" ["SI.PA", "SI.PA.SI.PA"]) ∧
      nestedSiteType.resolve "SI" true = .error (.ambiguous "SI" ["SI.PA.SI", "SI"]) ∧
      ¬((∀ e ∈ nestedSiteType.elements,
          nestedSiteType.resolve e.path true = .ok [e.path]) ∧
        nestedSiteType.resolve nestedSiteType.sid true = .ok [nestedSiteType.sid]) := by
  have hroot : nestedSiteType.resolve "SI" true =
      .error (.ambiguous "SI" ["SI.PA.SI", "SI"]) := by rfl
  refine ⟨rfl, rfl, rfl, hroot, ?_⟩
  rintro ⟨-, hresolves⟩
  rw [show nestedSiteType.sid = "SI" from rfl, hroot] at hresolves
  cases hresolves

end CatalogRecords.DocumentType
