import CatalogRecords.Proofs.Except
import CatalogRecords.Proofs.Schema.Layout
import Mathlib.Data.List.Nodup

/-!
# What building a document type guarantees

Building checks the definitions and lays their elements out. A document type that was built is laid
out in canonical order: indices are positions, complete paths are distinct and made of the
identifiers down to the element, an element is in one that comes before it, and what lies inside it
comes directly after it.
-/

namespace CatalogRecords

variable {place : Place} {e : Element}

/-- An identifier that is accepted has no dot. -/
theorem isDotFree_of_isSid {sid : String} (h : isSid sid = true) : IsDotFree sid := by
  rw [isSid, Bool.and_eq_true, Bool.not_eq_true', Bool.not_eq_true'] at h
  intro hdot
  rw [← List.contains_iff_mem, h.2] at hdot
  exact Bool.false_ne_true hdot

/-- The check of an identifier succeeds on identifiers only. -/
theorem checkSid_eq_ok {sid : String} {u : Unit} (h : checkSid sid = .ok u) :
    isSid sid = true := by
  by_contra hsid
  rw [checkSid, if_neg hsid] at h
  cases h

/-! What is checked of an element. -/

/-- A simple field that is accepted with a fixed length has one. -/
theorem length_pos_of_checkField {a : ElementAttributes} {path : String} {u : Unit}
    (h : checkField a path = .ok u) (hfixed : a.fixedLength = true) : 0 < a.length := by
  by_contra hlength
  rw [checkField, if_pos ⟨hfixed, Nat.eq_zero_of_not_pos hlength⟩] at h
  cases h

/-- An element that passes has an identifier and a path of its own, which is added to those seen,
and if it holds a text its fixed length is not zero. -/
theorem checkElement_eq_ok {parentPath : String} {isContainer : Bool} {a : ElementAttributes}
    {seen seen' : List String} (h : checkElement parentPath isContainer a seen = .ok seen') :
    isSid a.sid = true ∧ childPath parentPath a.sid ∉ seen ∧
      seen' = childPath parentPath a.sid :: seen ∧
        (isContainer = false → a.fixedLength = true → 0 < a.length) := by
  obtain ⟨u, hsid, h⟩ := bind_eq_ok_iff.mp h
  have hcontains : seen.contains (childPath parentPath a.sid) = false := by
    by_contra hcontains
    rw [if_pos (Bool.not_eq_false _ ▸ hcontains)] at h
    cases h
  have hnew : childPath parentPath a.sid ∉ seen := by
    rwa [← List.contains_iff_mem, Bool.not_eq_true]
  rw [if_neg (Bool.eq_false_iff.mp hcontains)] at h
  refine ⟨checkSid_eq_ok hsid, hnew, ?_⟩
  cases isContainer with
  | true =>
    obtain ⟨v, -, h⟩ := bind_eq_ok_iff.mp h
    cases h
    exact ⟨rfl, fun hfield => by cases hfield⟩
  | false =>
    obtain ⟨v, hfield, h⟩ := bind_eq_ok_iff.mp h
    cases h
    exact ⟨rfl, fun _ => length_pos_of_checkField hfield⟩

/-- What holds of each element whose definition was checked. -/
structure Element.IsSound (e : Element) : Prop where
  sid : isSid e.sid = true
  length : ∀ field, e.field? = some field → field.fixedLength = true → 0 < field.length

/-- A check of the definitions of elements added their paths to those seen. -/
structure Adds (es : List Element) (seen seen' : List String) : Prop where
  paths : seen' = (es.map Element.path).reverse ++ seen
  nodup : seen.Nodup → seen'.Nodup
  sound : ∀ e ∈ es, e.IsSound

namespace Adds

/-- No elements add no identifiers. -/
theorem nil (seen : List String) : Adds [] seen seen :=
  ⟨rfl, id, fun _ h => absurd h List.not_mem_nil⟩

/-- What two runs of elements add, one after the other, their sequence adds. -/
theorem append {es fs : List Element} {first second third : List String}
    (h : Adds es first second) (h' : Adds fs second third) : Adds (es ++ fs) first third where
  paths := by
    rw [h'.paths, h.paths, List.map_append, List.reverse_append, List.append_assoc]
  nodup := h'.nodup ∘ h.nodup
  sound := List.forall_mem_append.mpr ⟨h.sound, h'.sound⟩

end Adds

/-- The element of a definition that passes is added. -/
theorem adds_of_checkElement {d : ElementDefinition} {seen seen' : List String}
    (h : checkElement place.parentPath (place.parent.isNone || d.isGroup) d.attributes seen =
      .ok seen') : Adds [d.element place] seen seen' := by
  obtain ⟨hsid, hnew, rfl, hlength⟩ := checkElement_eq_ok h
  refine ⟨rfl, List.Nodup.cons hnew, fun e he => ?_⟩
  rw [List.mem_singleton] at he
  subst he
  refine ⟨hsid, fun field hfield => ?_⟩
  cases d with
  | group a fields =>
    have hcontainer := isContainer_element_group place a fields
    rw [Element.isContainer, hfield] at hcontainer
    cases hcontainer
  | leaf a =>
    unfold Element.field? ElementDefinition.element ElementDefinition.kind at hfield
    cases hparent : place.parent with
    | none =>
      rw [hparent] at hfield
      cases hfield
    | some p =>
      rw [hparent] at hfield hlength
      cases hfield
      exact hlength rfl

mutual

/-- A definition that is accepted adds its elements, with identifiers that are new where they
stand. -/
theorem adds_of_check (place : Place) {seen seen' : List String} : (d : ElementDefinition) →
    d.check place.parentPath place.parent.isNone seen = .ok seen' →
    Adds (d.layout place) seen seen'
  | .leaf a, h => by
    rw [ElementDefinition.check] at h
    rw [ElementDefinition.layout]
    exact adds_of_checkElement (by rwa [ElementDefinition.isGroup, Bool.or_false])
  | .group a fields, h => by
    rw [ElementDefinition.check] at h
    obtain ⟨next, helement, hfields⟩ := bind_eq_ok_iff.mp h
    rw [ElementDefinition.layout]
    refine (adds_of_checkElement (d := .group a fields) ?_).append
      (adds_of_checkAll _ fields hfields)
    rwa [ElementDefinition.isGroup, Bool.or_true]

/-- Checked definitions have sound elements with distinct paths. -/
theorem adds_of_checkAll (place : Place) {seen seen' : List String} :
    (ds : List ElementDefinition) →
    checkAll place.parentPath place.parent.isNone seen ds = .ok seen' →
    Adds (layoutAll place ds) seen seen'
  | [], h => by
    rw [checkAll] at h
    cases h
    exact Adds.nil seen
  | d :: ds, h => by
    rw [checkAll] at h
    obtain ⟨next, hd, hds⟩ := bind_eq_ok_iff.mp h
    rw [layoutAll]
    exact (adds_of_check place d hd).append
      (adds_of_checkAll { place with index := place.index + d.size } ds hds)

end

/-! What is known of a document type that was built. -/

namespace DocumentType

/-- The place of the elements at the top of a document type. -/
def top (t : DocumentType) : Place := ⟨none, t.sid, false, 0⟩

/-- A document type whose elements are laid out in canonical order. -/
structure IsLaidOut (t : DocumentType) : Prop where
  sid : IsDotFree t.sid
  indices : t.elements.map Element.index = List.range t.elements.length
  nodup : (t.elements.map Element.path).Nodup
  sound : ∀ e ∈ t.elements, e.IsSound
  placed : ∀ e ∈ t.elements, e.IsPlaced t.top t.elements
  inside : ∀ e ∈ t.elements, isInside e.path t.sid = true
  span : ∀ e ∈ t.elements, ∃ stop, HasSpan t.elements e stop

/-- A document type that was built is laid out in canonical order. -/
theorem isLaidOut_of_build {d : DocumentTypeDefinition} {t : DocumentType}
    (h : build d = .ok t) : t.IsLaidOut := by
  obtain ⟨u, hsid, h⟩ := bind_eq_ok_iff.mp h
  obtain ⟨seen, hcheck, h⟩ := bind_eq_ok_iff.mp h
  cases h
  have hadds := adds_of_checkAll ⟨none, d.sid, false, 0⟩ d.paragraphs hcheck
  have hnodup := hadds.nodup List.nodup_nil
  rw [hadds.paths, List.append_nil, List.nodup_reverse] at hnodup
  have hindices := indices_layoutAll ⟨none, d.sid, false, 0⟩ d.paragraphs
  have hinside (e : Element) (he : e ∈ layoutAll ⟨none, d.sid, false, 0⟩ d.paragraphs) :
      isInside e.path (Place.mk none d.sid false 0).parentPath = true :=
    isInside_of_mem_layoutAll he
  refine ⟨isDotFree_of_isSid (checkSid_eq_ok hsid), ?_, hnodup, hadds.sound,
    fun e he => isPlaced_of_mem_layoutAll d.paragraphs he, hinside, fun e he => ?_⟩
  · have hlength := congrArg List.length hindices
    rw [List.length_map, List.length_range'] at hlength
    rw [hindices, hlength, List.range_eq_range']
  · obtain ⟨stop, -, hspan⟩ := exists_span_of_mem_layoutAll d.paragraphs
      (fun x hx => isDotFree_of_isSid (hadds.sound x hx).sid) hnodup he
    exact ⟨stop, hspan⟩

end DocumentType

/-- The definition of sites: codes, and relations that can be repeated, with the codes in them and
pictures of those. -/
def siteDefinition : DocumentTypeDefinition where
  sid := "SI"
  paragraphs := [
    .group { sid := "CD" } [
      .leaf { sid := "TSK", length := 4, dictionary := .closed, requiredForSaving := true },
      .group { sid := "NCT" } [
        .leaf { sid := "NCTR" },
        .leaf {
          sid := "NCTN", length := 8, fixedLength := true, validationPattern := some "[0-9]+" }]],
    .group { sid := "RV", repeatable := true } [
      .leaf { sid := "RVEL" },
      .group { sid := "RSE" } [
        .leaf { sid := "RSER" },
        .leaf { sid := "RSEC", repeatable := true, media := .picture }]]]

/-- The document type of sites. -/
def siteType : DocumentType where
  sid := "SI"
  label := ""
  compliant := true
  author := none
  version := none
  standardVersion := none
  publicByDefault := false
  elements := layoutAll ⟨none, "SI", false, 0⟩ siteDefinition.paragraphs

/-- The definition of sites is accepted. -/
theorem build_siteDefinition : DocumentType.build siteDefinition = .ok siteType := by rfl

end CatalogRecords
