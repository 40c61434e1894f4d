import CatalogRecords.Proofs.Schema.Elements

/-!
# Parents and children

An element names the element that it is in, and that one names its children, both by indices. The
two are written down apart: the parent is handed down while the elements are laid out, and the
indices of the children are counted out beforehand from the sizes of their definitions. They agree:
the children of an element are the elements that name it as their parent, in canonical order.
-/

namespace CatalogRecords

open ElementDefinition

variable {place : Place} {e : Element}

/-- What a place is in comes before it. -/
def Place.IsAfterParent (place : Place) : Prop := ∀ i ∈ place.parent, i < place.index

namespace Place.IsAfterParent

/-- What is inside an element comes after it. -/
theorem inner (e : Element) : e.inner.IsAfterParent := by
  intro i hi
  have hindex : e.index = i := Option.mem_some.mp hi
  rw [← hindex]
  exact Nat.lt_succ_self e.index

/-- No place from here on is that of the parent. -/
theorem parent_ne (h : place.IsAfterParent) {i : Nat} (hi : place.index ≤ i) :
    place.parent ≠ some i := fun hparent => Nat.not_lt_of_le hi (h i hparent)

/-- A place further on comes after the parent as well. -/
theorem skip (h : place.IsAfterParent) (n : Nat) :
    ({ place with index := place.index + n } : Place).IsAfterParent := fun i hi =>
  Nat.lt_add_right n (h i hi)

end Place.IsAfterParent

/-! The elements of a list that name a parent. -/

/-- The elements of a list that name a parent, or none. -/
def inParent (parent : Option Nat) (es : List Element) : List Element :=
  es.filter fun e => e.parent = parent

variable {parent : Option Nat} {es : List Element}

/-- The elements with a parent are found in each part of a list. -/
theorem inParent_append (parent : Option Nat) (es fs : List Element) :
    inParent parent (es ++ fs) = inParent parent es ++ inParent parent fs :=
  List.filter_append _ _

/-- An element with the parent is kept. -/
theorem inParent_cons_of_eq (h : e.parent = parent) :
    inParent parent (e :: es) = e :: inParent parent es :=
  List.filter_cons_of_pos (decide_eq_true h)

/-- An element with another parent is passed over. -/
theorem inParent_cons_of_ne (h : e.parent ≠ parent) :
    inParent parent (e :: es) = inParent parent es :=
  List.filter_cons_of_neg (by simpa using h)

/-- Where no element has the parent none is found. -/
theorem inParent_eq_nil (h : ∀ e ∈ es, e.parent ≠ parent) : inParent parent es = [] :=
  List.filter_eq_nil_iff.mpr fun e he => by simpa using h e he

/-- An element of a list names what the place is in, or an element of the list. -/
theorem Element.IsPlaced.parent_eq (h : e.IsPlaced place es) :
    e.parent = place.parent ∨ ∃ p ∈ es, e.parent = some p.index := by
  cases h with
  | inl hat => exact Or.inl hat.parent
  | inr hinner =>
    obtain ⟨p, hp, -, -, hat⟩ := hinner
    exact Or.inr ⟨p, hp, hat.parent⟩

/-- No element of a list names what is neither in the list nor what the place is in. -/
theorem inParent_eq_nil_of_isPlaced {i : Nat} (hes : ∀ e ∈ es, e.IsPlaced place es)
    (hplace : place.parent ≠ some i) (hindex : ∀ p ∈ es, p.index ≠ i) :
    inParent (some i) es = [] := by
  refine inParent_eq_nil fun e he hparent => ?_
  cases (hes e he).parent_eq with
  | inl hat => exact hplace (hat.symm.trans hparent)
  | inr hinner =>
    obtain ⟨p, hp, hinner⟩ := hinner
    exact hindex p hp (Option.some.inj (hinner.symm.trans hparent))

/-! The elements directly at a place. -/

/-- What is laid out inside an element names it, or something after it. -/
theorem exists_parent_of_mem_layoutAll_inner {x : Element} {fields : List ElementDefinition}
    (hx : x ∈ layoutAll e.inner fields) : ∃ i, x.parent = some i ∧ e.index ≤ i := by
  cases (isPlaced_of_mem_layoutAll fields hx).parent_eq with
  | inl hat => exact ⟨e.index, hat, Nat.le_refl _⟩
  | inr hinner =>
    obtain ⟨p, hp, hparent⟩ := hinner
    exact ⟨p.index, hparent, Nat.le_of_succ_le (index_of_mem_layoutAll hp).1⟩

/-- Of what is laid out for a definition only its own element is directly at the place. -/
theorem inParent_layout (hplace : place.IsAfterParent) (d : ElementDefinition) :
    inParent place.parent (d.layout place) = [d.element place] := by
  cases d with
  | leaf a =>
    rw [layout, inParent_cons_of_eq (isAt_element place _).parent]
    rfl
  | group a fields =>
    rw [layout, inParent_cons_of_eq (isAt_element place _).parent, inParent_eq_nil]
    intro x hx hparent
    obtain ⟨i, hi, hle⟩ := exists_parent_of_mem_layoutAll_inner hx
    exact hplace.parent_ne hle (hparent.symm.trans hi)

/-- The elements directly at a place have the indices that are counted out for them. -/
theorem map_index_inParent_layoutAll (hplace : place.IsAfterParent) (ds : List ElementDefinition) :
    (inParent place.parent (layoutAll place ds)).map Element.index =
      indicesFrom place.index ds := by
  induction ds generalizing place with
  | nil => rfl
  | cons d ds ih =>
    rw [layoutAll, inParent_append, inParent_layout hplace, List.map_append, indicesFrom]
    exact congrArg (place.index :: ·) (ih (hplace.skip d.size))

/-! The children of each element. -/

mutual

/-- The children an element keeps are the places of those elements that have it for their parent. -/
theorem children_of_mem_layout {place : Place} {e : Element} (hplace : place.IsAfterParent)
    {d : ElementDefinition} (he : e ∈ d.layout place) :
    e.children = (inParent (some e.index) (d.layout place)).map Element.index := by
  cases d with
  | leaf a =>
    rw [layout, List.mem_singleton] at he
    have hparent : e.parent ≠ some e.index := by
      rw [he]
      exact hplace.parent_ne (Nat.le_refl _)
    rw [layout, ← he, inParent_cons_of_ne hparent, he]
    rfl
  | group a fields =>
    rw [layout] at he ⊢
    generalize hhead : (ElementDefinition.group a fields).element place = head at *
    have hindex : head.index = place.index := by rw [← hhead]; rfl
    have hparent {i : Nat} (hi : place.index ≤ i) : head.parent ≠ some i := by
      rw [← hhead]
      exact hplace.parent_ne hi
    rcases List.mem_cons.mp he with rfl | he
    · rw [inParent_cons_of_ne (hparent hindex.ge)]
      have hchildren := map_index_inParent_layoutAll (.inner e) fields
      rw [← hhead] at hchildren ⊢
      exact hchildren.symm
    · have hstart : head.inner.index = place.index + 1 := by rw [← hhead]; rfl
      have he' := (index_of_mem_layoutAll he).1
      rw [inParent_cons_of_ne (hparent (by omega))]
      exact children_of_mem_layoutAll (.inner head) he

/-- The children of an element have the indices of the elements that name it as their parent. -/
theorem children_of_mem_layoutAll {place : Place} {e : Element} (hplace : place.IsAfterParent)
    {ds : List ElementDefinition} (he : e ∈ layoutAll place ds) :
    e.children = (inParent (some e.index) (layoutAll place ds)).map Element.index := by
  cases ds with
  | nil => exact absurd he List.not_mem_nil
  | cons d ds =>
    rw [layoutAll] at he ⊢
    have hrest := hplace.skip d.size
    have hnext : ({ place with index := place.index + d.size } : Place).index =
        place.index + d.size := rfl
    -- neither part names an element of the other as a parent
    rcases List.mem_append.mp he with he | he
    · have he' := index_of_mem_layout he
      have hnone : inParent (some e.index)
          (layoutAll { place with index := place.index + d.size } ds) = [] := by
        refine inParent_eq_nil_of_isPlaced (fun x hx => isPlaced_of_mem_layoutAll ds hx)
          (hplace.parent_ne he'.1) fun p hp => ?_
        have hp' := (index_of_mem_layoutAll hp).1
        omega
      rw [inParent_append, hnone, List.append_nil]
      exact children_of_mem_layout hplace he
    · have he' := (index_of_mem_layoutAll he).1
      have hnone : inParent (some e.index) (d.layout place) = [] := by
        refine inParent_eq_nil_of_isPlaced (fun x hx => isPlaced_of_mem_layout d hx)
          (hrest.parent_ne he') fun p hp => ?_
        have hp' := (index_of_mem_layout hp).2
        omega
      rw [inParent_append, hnone, List.nil_append]
      exact children_of_mem_layoutAll hrest he

end

namespace DocumentType

variable {t : DocumentType} {p : Element}

/-- A document type whose elements name their children as these name them. -/
def NamesChildren (t : DocumentType) : Prop :=
  ∀ e ∈ t.elements, e.children = (inParent (some e.index) t.elements).map Element.index

namespace IsLaidOut

/-- The element with an index is the one that has it. -/
theorem elementAt?_eq_some_iff (h : t.IsLaidOut) {i : Nat} :
    t.elementAt? i = some e ↔ e ∈ t.elements ∧ e.index = i := by
  constructor
  · intro hfound
    have he := List.mem_of_getElem? hfound
    have hindex := h.elementAt?_index he
    have hlength := (List.getElem?_eq_some_iff.mp hfound).1
    have hindices : (t.elements.map Element.index)[i]? = some e.index := by
      rw [List.getElem?_map]
      exact congrArg _ hfound
    rw [h.indices, List.getElem?_range hlength, Option.some.injEq] at hindices
    exact ⟨he, hindices.symm⟩
  · intro ⟨he, hindex⟩
    rw [← hindex]
    exact h.elementAt?_index he

/-- An element is in the one that it names. -/
theorem parent?_eq_some_iff (h : t.IsLaidOut) :
    t.parent? e = some p ↔ p ∈ t.elements ∧ e.parent = some p.index := by
  rw [parent?, Option.bind_eq_some_iff]
  constructor
  · intro hparent
    obtain ⟨i, hparent, hfound⟩ := hparent
    obtain ⟨hp, hindex⟩ := h.elementAt?_eq_some_iff.mp hfound
    exact ⟨hp, hindex ▸ hparent⟩
  · intro hparent
    exact ⟨p.index, hparent.2, h.elementAt?_index hparent.1⟩

/-- The children of an element are the elements that name it, in canonical order. -/
theorem children_eq (h : t.IsLaidOut) (hchildren : t.NamesChildren) (hp : p ∈ t.elements) :
    t.children p = inParent (some p.index) t.elements := by
  have hfound : ∀ e ∈ inParent (some p.index) t.elements, t.elementAt? e.index = some e :=
    fun e he => h.elementAt?_index (List.mem_filter.mp he).1
  rw [children, hchildren p hp, List.filterMap_map]
  exact (List.filterMap_eq_map_iff_forall_eq_some.mpr hfound).trans (List.map_id _)

/-- The children of an element have the indices that it names, which increase. -/
theorem map_index_children (h : t.IsLaidOut) (hchildren : t.NamesChildren) (hp : p ∈ t.elements) :
    (t.children p).map Element.index = p.children ∧ p.children.Pairwise (· < ·) := by
  rw [h.children_eq hchildren hp, hchildren p hp]
  refine ⟨rfl, ?_⟩
  have hsublist : ((inParent (some p.index) t.elements).map Element.index).Sublist
      (t.elements.map Element.index) := List.filter_sublist.map Element.index
  rw [h.indices] at hsublist
  exact List.pairwise_lt_range.sublist hsublist

/-- An element is among the children of the one that it is in, and of no other. -/
theorem mem_children_iff (h : t.IsLaidOut) (hchildren : t.NamesChildren) (hp : p ∈ t.elements) :
    e ∈ t.children p ↔ e ∈ t.elements ∧ t.parent? e = some p := by
  rw [h.children_eq hchildren hp, inParent, List.mem_filter, decide_eq_true_iff,
    h.parent?_eq_some_iff]
  exact and_congr_right fun _ => (and_iff_right hp).symm

end IsLaidOut

/-- A document type that was built holds the elements of its definition, laid out from the top. -/
theorem elements_of_build [PatternEngine] {d : DocumentTypeDefinition} (h : build d = .ok t) :
    t.sid = d.sid ∧ t.elements = layoutAll t.top d.paragraphs := by
  obtain ⟨-, -, h⟩ := bind_eq_ok_iff.mp h
  obtain ⟨-, -, h⟩ := bind_eq_ok_iff.mp h
  cases h
  exact ⟨rfl, rfl⟩

/-- In a document type that was built elements name their children as these name them. -/
theorem namesChildren_of_build {d : DocumentTypeDefinition} (h : build d = .ok t) :
    t.NamesChildren := by
  have htop : t.top.IsAfterParent := fun i hi => by cases hi
  rw [NamesChildren, (elements_of_build h).2]
  exact fun e he => children_of_mem_layoutAll htop he

end DocumentType

end CatalogRecords
