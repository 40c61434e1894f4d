import CatalogRecords.Proofs.Document.Lookup
import CatalogRecords.Proofs.Document.Verdict

/-!
# The paths that are present

A path is present in a document if some node has it. Where no identifier holds a dot, going down
the path finds what the nodes with that path hold, one for each node and in document order, so that
something is found exactly at the paths that are present. Nothing is found outside of the document
type or at the document type itself.
-/

namespace CatalogRecords.Document

variable {d : Document} {path : String}

/-- A path is present if a node has it. -/
theorem mem_presentPaths_iff :
    path ∈ d.presentPaths ↔ ∃ entry ∈ d.flatten, entry.path = path := by
  rw [presentPaths, List.mem_eraseDups, List.mem_mergeSort, List.mem_map]

/-- All paths that are present lie inside the document type. -/
theorem isInside_of_mem_presentPaths (hpath : path ∈ d.presentPaths) :
    isInside path d.documentType = true := by
  obtain ⟨entry, hentry, rfl⟩ := mem_presentPaths_iff.mp hpath
  exact isInside_of_mem_flattenAll d.content hentry

/-- Where no identifier holds a dot, going down a path finds what the nodes with that path hold.
So the paths at which something is found are those that are present, and they lie inside the
document type. -/
theorem contentsAt_agrees_with_flatten (htype : IsDotFree d.documentType)
    (hdotFree : ∀ entry ∈ d.flatten, IsDotFree entry.sid) :
    (∀ path, d.contentsAt path =
      (d.flatten.filter fun entry => entry.path == path).map FlatEntry.content) ∧
    (∀ path, path ∈ d.presentPaths ↔ d.contentsAt path ≠ []) ∧
    d.contentsAt d.documentType = [] ∧
    ∀ path, ¬isInside path d.documentType = true → d.contentsAt path = [] := by
  have hcontents := contentsAt_eq_map_filter htype hdotFree
  have hpresent (path : String) : path ∈ d.presentPaths ↔ d.contentsAt path ≠ [] := by
    rw [hcontents, mem_presentPaths_iff, ne_eq, List.map_eq_nil_iff, List.filter_eq_nil_iff]
    simp only [beq_iff_eq, not_forall, not_not, exists_prop]
  have houtside (path : String) (hpath : ¬isInside path d.documentType = true) :
      d.contentsAt path = [] := by
    by_contra hne
    exact hpath (isInside_of_mem_presentPaths ((hpresent path).mpr hne))
  exact ⟨hcontents, hpresent, houtside _ (not_isInside_self _), houtside⟩

/-- The site has three codes of relations in two rounds, and none outside of relations. -/
theorem siteRecord_contentsAt :
    IsDotFree siteRecord.documentType ∧ (∀ entry ∈ siteRecord.flatten, IsDotFree entry.sid) ∧
      siteRecord.textsAt "SI.RV.RSE.RSEC" = ["1", "2", "3"] ∧
      "SI.RV.RSE.RSEC" ∈ siteRecord.presentPaths ∧
      siteRecord.contentsAt "RA.CD.TSK" = [] := by
  have htype : IsDotFree siteRecord.documentType := by decide +kernel
  have hdotFree : ∀ entry ∈ siteRecord.flatten, IsDotFree entry.sid := by decide +kernel
  obtain ⟨hcontents, hpresent, -, houtside⟩ := contentsAt_agrees_with_flatten htype hdotFree
  have htexts : siteRecord.textsAt "SI.RV.RSE.RSEC" = ["1", "2", "3"] := by
    rw [textsAt, hcontents]
    decide +kernel
  refine ⟨htype, hdotFree, htexts, (hpresent _).mpr fun hnil => ?_, houtside _ (by decide +kernel)⟩
  rw [textsAt, hnil] at htexts
  cases htexts

end CatalogRecords.Document
