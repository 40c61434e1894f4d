import CatalogRecords.Proofs.Schema.Paths
import CatalogRecords.Schema.Build

/-!
# How elements are laid out

The elements that definitions stand for are numbered one after the other from the index of their
place on. Each is either at that place itself or in one that was laid out before it, and what lies
inside an element takes up the numbers directly after it. That the paths tell different elements
apart is assumed here; checking the definitions provides it.
-/

namespace CatalogRecords

open ElementDefinition

variable {place : Place} {e : Element}

/-! Indices. -/

mutual

/-- The elements of a definition are numbered through from the first free index. -/
theorem indices_layout (place : Place) : (d : ElementDefinition) →
    (d.layout place).map Element.index = List.range' place.index d.size
  | .leaf a => by
    rw [layout, size]
    rfl
  | .group a fields => by
    rw [layout, size, List.map_cons, indices_layoutAll _ fields, Nat.add_comm, List.range'_succ]
    rfl

/-- Elements are numbered one after the other. -/
theorem indices_layoutAll (place : Place) : (ds : List ElementDefinition) →
    (layoutAll place ds).map Element.index = List.range' place.index (sizeAll ds)
  | [] => rfl
  | d :: ds => by
    rw [layoutAll, sizeAll, List.map_append, indices_layout place d,
      indices_layoutAll { place with index := place.index + d.size } ds, List.range'_append_1]

end

/-- The index of an element is one of those that its definition takes up. -/
theorem index_of_mem_layout {d : ElementDefinition} (he : e ∈ d.layout place) :
    place.index ≤ e.index ∧ e.index < place.index + d.size := by
  have hindex := List.mem_map_of_mem (f := Element.index) he
  rwa [indices_layout, List.mem_range'_1] at hindex

/-- The index of an element is one of those that the definitions take up. -/
theorem index_of_mem_layoutAll {ds : List ElementDefinition} (he : e ∈ layoutAll place ds) :
    place.index ≤ e.index ∧ e.index < place.index + sizeAll ds := by
  have hindex := List.mem_map_of_mem (f := Element.index) he
  rwa [indices_layoutAll, List.mem_range'_1] at hindex

/-! What elements are in. -/

/-- An element is directly at a place. -/
structure Element.IsAt (e : Element) (place : Place) : Prop where
  parent : e.parent = place.parent
  path : e.path = childPath place.parentPath e.sid
  canBeRepeated : e.canBeRepeated = (e.repeatable || place.repeated)

/-- Where elements are numbered from does not matter for what they are in. -/
theorem Element.IsAt.ofIndex {index : Nat} (h : e.IsAt { place with index := index }) :
    e.IsAt place :=
  ⟨h.parent, h.path, h.canBeRepeated⟩

/-- The element of a definition is where it was laid out. -/
theorem isAt_element (place : Place) (d : ElementDefinition) :
    (d.element place).IsAt place := ⟨rfl, rfl, rfl⟩

/-- The element of a definition comes first. -/
theorem element_mem_layout (place : Place) (d : ElementDefinition) :
    d.element place ∈ d.layout place := by
  cases d with
  | leaf a => simp [layout]
  | group a fields => simp [layout]

/-- An element of a list is at a place, or in a container that comes before it in the list. -/
def Element.IsPlaced (place : Place) (es : List Element) (e : Element) : Prop :=
  e.IsAt place ∨ ∃ p ∈ es, p.isContainer = true ∧ p.index < e.index ∧ e.IsAt p.inner

/-- An element that has its place among some elements has it among more. -/
theorem Element.IsPlaced.mono {es fs : List Element} (h : e.IsPlaced place es) (hsub : es ⊆ fs) :
    e.IsPlaced place fs :=
  h.imp_right fun ⟨p, hp, hrest⟩ => ⟨p, hsub hp, hrest⟩

/-- What an element is in does not depend on the index that was free first. -/
theorem Element.IsPlaced.ofIndex {es : List Element} {index : Nat}
    (h : e.IsPlaced { place with index := index } es) : e.IsPlaced place es :=
  h.imp_left Element.IsAt.ofIndex

/-- The element of a definition with fields holds others. -/
theorem isContainer_element_group (place : Place) (a : ElementAttributes)
    (fields : List ElementDefinition) :
    ((ElementDefinition.group a fields).element place).isContainer = true := by
  unfold Element.isContainer Element.field? ElementDefinition.element ElementDefinition.kind
  cases place.parent <;> rfl

mutual

/-- An element of a definition is where that was laid out or in an element before it. -/
theorem isPlaced_of_mem_layout {place : Place} {e : Element} : (d : ElementDefinition) →
    e ∈ d.layout place → e.IsPlaced place (d.layout place)
  | .leaf a, he => by
    rw [layout, List.mem_singleton] at he
    exact Or.inl (he ▸ isAt_element place _)
  | .group a fields, he => by
    rw [layout] at he ⊢
    rcases List.mem_cons.mp he with rfl | he
    · exact Or.inl (isAt_element place _)
    · have hindex := (index_of_mem_layoutAll he).1
      rcases isPlaced_of_mem_layoutAll fields he with hat | ⟨p, hp, hrest⟩
      · exact Or.inr ⟨_, List.mem_cons_self, isContainer_element_group place a fields,
          hindex, hat⟩
      · exact Or.inr ⟨p, List.mem_cons_of_mem _ hp, hrest⟩

/-- Each element is at the place or in one before it. -/
theorem isPlaced_of_mem_layoutAll {place : Place} {e : Element} : (ds : List ElementDefinition) →
    e ∈ layoutAll place ds → e.IsPlaced place (layoutAll place ds)
  | d :: ds, he => by
    rw [layoutAll] at he ⊢
    rcases List.mem_append.mp he with he | he
    · exact (isPlaced_of_mem_layout d he).mono (List.subset_append_left _ _)
    · exact (isPlaced_of_mem_layoutAll ds he).ofIndex.mono (List.subset_append_right _ _)

end

/-! Paths. -/

mutual

/-- All elements of a definition are its element or lie inside it. -/
theorem prefix_of_mem_layout {place : Place} {e : Element} : (d : ElementDefinition) →
    e ∈ d.layout place → segments (d.element place).path <+: segments e.path
  | .leaf a, he => by
    rw [layout, List.mem_singleton] at he
    rw [he]
  | .group a fields, he => by
    rw [layout] at he
    rcases List.mem_cons.mp he with rfl | he
    · exact List.prefix_rfl
    · obtain ⟨r, -, hr, hbegins⟩ := exists_top_of_mem_layoutAll fields he
      rw [hr.path] at hbegins
      exact (isInside_iff_continues.mp (isInside_of_prefix_childPath hbegins)).1

/-- Each element is one of those at the place, or lies inside one. -/
theorem exists_top_of_mem_layoutAll {place : Place} {e : Element} :
    (ds : List ElementDefinition) → e ∈ layoutAll place ds →
      ∃ r ∈ layoutAll place ds, r.IsAt place ∧ segments r.path <+: segments e.path
  | d :: ds, he => by
    rw [layoutAll] at he ⊢
    rcases List.mem_append.mp he with he | he
    · exact ⟨_, List.mem_append_left _ (element_mem_layout place d), isAt_element place d,
        prefix_of_mem_layout d he⟩
    · obtain ⟨r, hr, hat, hbegins⟩ := exists_top_of_mem_layoutAll ds he
      exact ⟨r, List.mem_append_right _ hr, hat.ofIndex, hbegins⟩

end

/-- All elements lie inside the path of the place. -/
theorem isInside_of_mem_layoutAll {ds : List ElementDefinition} (he : e ∈ layoutAll place ds) :
    isInside e.path place.parentPath = true := by
  obtain ⟨r, -, hr, hbegins⟩ := exists_top_of_mem_layoutAll ds he
  rw [hr.path] at hbegins
  exact isInside_of_prefix_childPath hbegins

/-- Nothing lies inside two different elements at the same place. -/
theorem eq_of_isAt {r s : Element} {path : String} (hr : r.IsAt place) (hs : s.IsAt place)
    (hrsid : IsDotFree r.sid) (hssid : IsDotFree s.sid) (hrpath : segments r.path <+: segments path)
    (hspath : segments s.path <+: segments path) : r.path = s.path := by
  rw [hr.path] at hrpath ⊢
  rw [hs.path] at hspath ⊢
  rw [eq_of_prefix_childPath hrsid hssid hrpath hspath]

/-! What lies inside an element comes directly after it. -/

/-- In a list of elements, those inside a given one are the ones after it up to some index. -/
def HasSpan (es : List Element) (e : Element) (stop : Nat) : Prop :=
  ∀ x ∈ es, isInside x.path e.path = true ↔ e.index < x.index ∧ x.index < stop

/-- A span that is right for some elements and for others is right for all of them. -/
theorem HasSpan.append {es fs : List Element} {stop : Nat} (hes : HasSpan es e stop)
    (hfs : HasSpan fs e stop) : HasSpan (es ++ fs) e stop :=
  List.forall_mem_append.mpr ⟨hes, hfs⟩

/-- A span that is right for an element and for others is right for all of them. -/
theorem HasSpan.cons {es : List Element} {f : Element} {stop : Nat}
    (hf : isInside f.path e.path = true ↔ e.index < f.index ∧ f.index < stop)
    (hes : HasSpan es e stop) : HasSpan (f :: es) e stop :=
  List.forall_mem_cons.mpr ⟨hf, hes⟩

/-- No path is inside itself. -/
theorem not_isInside_self (path : String) : ¬isInside path path = true := fun h =>
  Nat.lt_irrefl _ (isInside_iff_continues.mp h).2

/-- Of two paths at most one is inside the other. -/
theorem not_isInside_of_isInside {path other : String} (h : isInside path other = true) :
    ¬isInside other path = true := fun hother => not_isInside_self path (isInside_trans h hother)

/-- Nothing lies both inside what is laid out for a definition and for one after it. -/
theorem not_prefix_of_disjoint {d : ElementDefinition} {ds : List ElementDefinition}
    {e f : Element} {index : Nat}
    (hdots : ∀ x ∈ d.layout place ++ layoutAll { place with index := index } ds, IsDotFree x.sid)
    (hnodup : ((d.layout place ++ layoutAll { place with index := index } ds).map
      Element.path).Nodup)
    (he : e ∈ d.layout place) (hf : f ∈ layoutAll { place with index := index } ds)
    (path : String) (hepath : segments e.path <+: segments path) :
    ¬segments f.path <+: segments path := by
  intro hfpath
  obtain ⟨s, hs, hat, hbegins⟩ := exists_top_of_mem_layoutAll ds hf
  have hhead := element_mem_layout place d
  have hpath := eq_of_isAt (isAt_element place d) hat.ofIndex
    (hdots _ (List.mem_append_left _ hhead)) (hdots _ (List.mem_append_right _ hs))
    ((prefix_of_mem_layout d he).trans hepath) (hbegins.trans hfpath)
  rw [List.map_append, List.nodup_append] at hnodup
  exact hnodup.2.2 _ (List.mem_map_of_mem hhead) _ (List.mem_map_of_mem hs) hpath

mutual

/-- The elements inside an element of a definition have the indices directly after its own. -/
theorem exists_span_of_mem_layout {place : Place} {e : Element} : (d : ElementDefinition) →
    (∀ x ∈ d.layout place, IsDotFree x.sid) → ((d.layout place).map Element.path).Nodup →
    e ∈ d.layout place → ∃ stop ≤ place.index + d.size, HasSpan (d.layout place) e stop
  | .leaf a, _, _, he => by
    refine ⟨place.index + size (.leaf a), Nat.le_refl _, fun x hx => ?_⟩
    rw [layout, List.mem_singleton] at he hx
    rw [he, hx]
    exact iff_of_false (not_isInside_self _) (fun h => Nat.lt_irrefl _ h.1)
  | .group a fields, hdots, hnodup, he => by
    have hsize : size (.group a fields) = 1 + sizeAll fields := by rw [size]
    rw [layout] at hdots hnodup he ⊢
    generalize hhead : (ElementDefinition.group a fields).element place = head at *
    have hstart : head.inner.index = place.index + 1 := by rw [← hhead]; rfl
    have hindex : head.index = place.index := by rw [← hhead]; rfl
    rcases List.mem_cons.mp he with rfl | he
    · refine ⟨_, Nat.le_refl _, HasSpan.cons ?_ fun x hx => ?_⟩
      · exact iff_of_false (not_isInside_self _) (fun h => Nat.lt_irrefl _ h.1)
      · have hx' := index_of_mem_layoutAll hx
        have hinside : isInside x.path e.inner.parentPath = true := isInside_of_mem_layoutAll hx
        exact iff_of_true hinside ⟨by omega, by omega⟩
    · have he' := index_of_mem_layoutAll he
      obtain ⟨stop, hstop, hspan⟩ := exists_span_of_mem_layoutAll fields
        (fun x hx => hdots x (List.mem_cons_of_mem _ hx)) (List.nodup_cons.mp hnodup).2 he
      have hinside : isInside e.path head.inner.parentPath = true := isInside_of_mem_layoutAll he
      refine ⟨stop, by omega, HasSpan.cons (iff_of_false ?_ (by omega)) hspan⟩
      exact not_isInside_of_isInside hinside

/-- What lies inside an element comes directly after it, up to some index. -/
theorem exists_span_of_mem_layoutAll {place : Place} {e : Element} :
    (ds : List ElementDefinition) → (∀ x ∈ layoutAll place ds, IsDotFree x.sid) →
    ((layoutAll place ds).map Element.path).Nodup → e ∈ layoutAll place ds →
    ∃ stop ≤ place.index + sizeAll ds, HasSpan (layoutAll place ds) e stop
  | d :: ds, hdots, hnodup, he => by
    have hsize : sizeAll (d :: ds) = d.size + sizeAll ds := by rw [sizeAll]
    have hnext : ({ place with index := place.index + d.size } : Place).index =
        place.index + d.size := rfl
    rw [layoutAll] at hdots hnodup he ⊢
    have hdisjoint {x y : Element} (hx : x ∈ d.layout place)
        (hy : y ∈ layoutAll { place with index := place.index + d.size } ds) :=
      not_prefix_of_disjoint hdots hnodup hx hy
    have hmap := hnodup
    rw [List.map_append, List.nodup_append] at hmap
    rcases List.mem_append.mp he with he | he
    · obtain ⟨stop, hstop, hspan⟩ := exists_span_of_mem_layout d
        (fun x hx => hdots x (List.mem_append_left _ hx)) hmap.1 he
      refine ⟨stop, by omega, hspan.append fun x hx => iff_of_false (fun h => ?_) ?_⟩
      · exact hdisjoint he hx _ (isInside_iff_continues.mp h).1 List.prefix_rfl
      · have hx' := (index_of_mem_layoutAll hx).1
        omega
    · obtain ⟨stop, hstop, hspan⟩ := exists_span_of_mem_layoutAll ds
        (fun x hx => hdots x (List.mem_append_right _ hx)) hmap.2.1 he
      have he' := (index_of_mem_layoutAll he).1
      refine ⟨stop, by omega, HasSpan.append (fun x hx => iff_of_false (fun h => ?_) ?_) hspan⟩
      · exact hdisjoint hx he _ List.prefix_rfl (isInside_iff_continues.mp h).1
      · have hx' := (index_of_mem_layout hx).2
        omega

end

end CatalogRecords
