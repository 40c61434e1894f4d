import CatalogRecords.Proofs.Document.Lookup
import CatalogRecords.Proofs.Document.Verdict

/-!
# Documents as images of their types

Validation knows nodes by their paths. For the content to have the same shape as the type, every
node has to stand for an element that lies in the one its own group stands for. A document that can
be saved has that shape exactly if no identifier in it holds a dot: one that does is taken for the
way through several elements.
-/

namespace CatalogRecords

variable {t : DocumentType} {parent : Option Element}

/-- A node stands for an element: a text for a simple field, a group for a container whose elements
the nodes in it stand for. The element lies in the given one, or at the top if there is none. -/
inductive Node.Mirrors (t : DocumentType) : Option Element → Node → Prop
  | text {e : Element} {value : String} (he : e ∈ t.elements) (hfield : e.isContainer = false) :
      Mirrors t (t.parent? e) (.text e.sid value)
  | group {e : Element} {nodes : List Node} (he : e ∈ t.elements)
      (hcontainer : e.isContainer = true) (hnodes : ∀ n ∈ nodes, Mirrors t (some e) n) :
      Mirrors t (t.parent? e) (.group e.sid nodes)

/-- A document whose nodes stand for elements, and in which each value of a field is found at the
path of that field. -/
structure Document.Mirrors (d : Document) (t : DocumentType) : Prop where
  nodes : ∀ n ∈ d.content, n.Mirrors t none
  texts : ∀ entry ∈ d.flatten, ∀ field value, t.field? entry.path = some field →
    entry.content = .text value → value ∈ d.textsAt entry.path

/-- An entry that validation can make something of, and that has an identifier of its own. -/
structure FlatEntry.Fits (entry : FlatEntry) (t : DocumentType) : Prop where
  dotFree : IsDotFree entry.sid
  holds : ∃ e, t.element? entry.path = some e ∧ e.Holds entry.content

open DocumentType

mutual

/-- A node mirrors the type under its parent if each entry it is flattened to fits the type. -/
theorem Node.mirrors_of_fits (h : t.IsLaidOut) {parent : Option Element}
    (hparent : ∀ p ∈ parent, p ∈ t.elements) : (n : Node) →
    (∀ entry ∈ n.flatten (t.pathOf parent), entry.Fits t) → n.Mirrors t parent
  | .text sid value, hfits => by
    rw [Node.flatten_eq, List.forall_mem_cons] at hfits
    obtain ⟨hdotFree, e, hfound, hholds⟩ := hfits.1
    obtain ⟨he, hpath⟩ := h.element?_eq_some_iff.mp hfound
    obtain ⟨rfl, rfl⟩ := h.parent?_of_path he hparent hdotFree hpath
    exact .text he hholds
  | .group sid nodes, hfits => by
    rw [Node.flatten_eq, List.forall_mem_cons] at hfits
    obtain ⟨hdotFree, e, hfound, hholds⟩ := hfits.1
    obtain ⟨he, hpath⟩ := h.element?_eq_some_iff.mp hfound
    obtain ⟨rfl, rfl⟩ := h.parent?_of_path he hparent hdotFree hpath
    refine .group he hholds (mirrors_of_fits h (fun p hp => ?_) nodes fun entry hentry => ?_)
    · exact Option.mem_some.mp hp ▸ he
    · rw [pathOf, hpath] at hentry
      exact hfits.2 entry hentry

/-- Nodes that validation can make something of stand for elements, if identifiers hold no dot. -/
theorem mirrors_of_fits (h : t.IsLaidOut) {parent : Option Element}
    (hparent : ∀ p ∈ parent, p ∈ t.elements) : (nodes : List Node) →
    (∀ entry ∈ flattenAll (t.pathOf parent) nodes, entry.Fits t) →
    ∀ n ∈ nodes, n.Mirrors t parent
  | [], _ => List.forall_mem_nil _
  | n :: nodes, hfits => by
    rw [flattenAll, List.forall_mem_append] at hfits
    exact List.forall_mem_cons.mpr
      ⟨n.mirrors_of_fits h hparent hfits.1, mirrors_of_fits h hparent nodes hfits.2⟩

end

/-- A node that stands for an element has its identifier, and that holds no dot. -/
theorem Node.Mirrors.isDotFree (h : t.IsLaidOut) {n : Node} (hn : n.Mirrors t parent) :
    ∀ outer, ∀ entry ∈ n.flatten outer, IsDotFree entry.sid := by
  induction hn with
  | text he hfield =>
    intro outer entry hentry
    rw [flatten, List.mem_singleton] at hentry
    rw [hentry]
    exact h.isDotFree he
  | group he hcontainer hnodes ih =>
    intro outer entry hentry
    rw [flatten] at hentry
    rcases List.mem_cons.mp hentry with rfl | hentry
    · exact h.isDotFree he
    · obtain ⟨n, hn, hentry⟩ := mem_flattenAll.mp hentry
      exact ih n hn _ entry hentry

namespace Document

/-- A document that can be saved is an image of its type, in which all values are found where they
belong, exactly if no identifier in it holds a dot. -/
theorem savable_mirrors_iff_dotFree {definition : DocumentTypeDefinition} {t : DocumentType}
    (hbuild : DocumentType.build definition = .ok t) (d : Document) (dictionary : Dictionary)
    (htype : d.documentType = t.sid)
    (hsaved : (d.validate t dictionary).canBeSaved = true) :
    d.Mirrors t ↔ ∀ entry ∈ d.flatten, IsDotFree entry.sid := by
  have h := isLaidOut_of_build hbuild
  have hconforms := (forall_isFatal_eq_false_iff_conforms h).mp (canBeSaved_iff.mp hsaved)
  constructor
  · intro hmirrors entry hentry
    obtain ⟨n, hn, hentry⟩ := mem_flattenAll.mp hentry
    exact (hmirrors.nodes n hn).isDotFree h _ entry hentry
  · intro hdotFree
    have hfits : ∀ entry ∈ d.flatten, entry.Fits t := by
      intro entry hentry
      obtain ⟨e, he⟩ := Option.isSome_iff_exists.mp (hconforms.declared entry hentry)
      exact ⟨hdotFree entry hentry, e, he, hconforms.holds entry hentry e he⟩
    rw [flatten, htype] at hfits
    refine ⟨mirrors_of_fits h (fun p hp => absurd hp (Option.not_mem_none p)) d.content hfits, ?_⟩
    intro entry hentry field value _ hcontent
    exact (mem_textsAt_iff (htype ▸ h.sid) hdotFree).mpr ⟨entry, hentry, rfl, hcontent⟩

/-- The site with two rounds of relations is an image of its type. -/
theorem siteRecord_mirrors :
    (siteRecord.validate siteType kindsOfRecords).canBeSaved = true ∧
      siteRecord.Mirrors siteType := by
  have hsaved : (siteRecord.validate siteType kindsOfRecords).canBeSaved = true := by
    decide +kernel
  refine ⟨hsaved, ?_⟩
  rw [savable_mirrors_iff_dotFree build_siteDefinition siteRecord kindsOfRecords rfl hsaved]
  decide +kernel

/-- A site with a text beside its codes that is named as if it were in a relation. -/
def dottedRecord : Document where
  documentType := "SI"
  content := [.group "CD" [.text "TSK" "SI"], .text "RV.RVEL" "1"]

/-- The text with a dot in its name is checked as a value of a field of relations and the site can
be saved, but there is no relation in it, and the value is not found at the path of the field. -/
theorem dotted_sid_is_overlooked :
    DocumentType.build siteDefinition = .ok siteType ∧
      dottedRecord.documentType = siteType.sid ∧
      (dottedRecord.validate siteType kindsOfRecords).canBeSaved = true ∧
      dottedRecord.textsAt "SI.RV.RVEL" = [] ∧
      ¬dottedRecord.Mirrors siteType := by
  refine ⟨build_siteDefinition, rfl, ?_, ?_, fun hmirrors => ?_⟩
  · decide +kernel
  · decide +kernel
  · obtain ⟨field, hfield⟩ : ∃ field, siteType.field? "SI.RV.RVEL" = some field := ⟨_, rfl⟩
    have hentry : ⟨"SI.RV.RVEL", "RV.RVEL", .text "1"⟩ ∈ dottedRecord.flatten :=
      .tail _ (.tail _ (.head _))
    have htext := hmirrors.texts _ hentry field "1" hfield rfl
    revert htext
    decide +kernel

end Document

end CatalogRecords
