import CatalogRecords.Proofs.Schema.Children

/-!
# The canonical order

What a document type holds after it was built is one list of elements with indices, paths and
handles between them. Here it is compared with the tree of its definition: the list is that tree in
preorder, the paths are the chains of identifiers, and everything that can be asked of an element,
what it is in, what it holds, what lies inside it, whether it can be repeated, follows from the
tree. Nothing is assumed but that the definition was accepted.
-/

namespace CatalogRecords

open ElementDefinition

variable {place : Place} {e : Element}

/-! The tree in preorder. -/

mutual

/-- A definition and all definitions inside it, each before those that it holds. -/
def ElementDefinition.preorder : ElementDefinition → List ElementDefinition
  | .leaf a => [.leaf a]
  | .group a fields => .group a fields :: preorderAll fields

/-- Several definitions, each with all definitions inside it. -/
def preorderAll : List ElementDefinition → List ElementDefinition
  | [] => []
  | d :: ds => d.preorder ++ preorderAll ds

end

/-- An element is what a definition says: it has the attributes, is of the kind that these make it,
and has as many children as there are fields. -/
structure Element.Represents [PatternEngine] (e : Element) (d : ElementDefinition) : Prop where
  sid : e.sid = d.attributes.sid
  label : e.label = d.attributes.label
  compliant : e.compliant = d.attributes.compliant
  repeatable : e.repeatable = d.attributes.repeatable
  level : e.level = d.attributes.level
  kind : e.kind = d.kind e.parent.isNone
  children : e.children.length = d.fields.length

/-- Each definition of a list gets one place. -/
theorem length_indicesFrom (index : Nat) (ds : List ElementDefinition) :
    (indicesFrom index ds).length = ds.length := by
  induction ds generalizing index with
  | nil => rfl
  | cons d ds ih => rw [indicesFrom, List.length_cons, List.length_cons, ih]

/-- The element laid out for a definition represents it. -/
theorem represents_element [PatternEngine] (place : Place) (d : ElementDefinition) :
    (d.element place).Represents d :=
  ⟨rfl, rfl, rfl, rfl, rfl, rfl, length_indicesFrom _ _⟩

mutual

/-- The elements laid out for a definition represent it and what is inside it, in preorder. -/
theorem represents_layout [PatternEngine] (place : Place) : (d : ElementDefinition) →
    List.Forall₂ Element.Represents (d.layout place) d.preorder
  | .leaf a => by
    rw [layout, preorder]
    exact .cons (represents_element place _) .nil
  | .group a fields => by
    rw [layout, preorder]
    exact .cons (represents_element place _) (represents_layoutAll _ fields)

/-- The elements that are laid out are what the definitions say, in preorder. -/
theorem represents_layoutAll [PatternEngine] (place : Place) : (ds : List ElementDefinition) →
    List.Forall₂ Element.Represents (layoutAll place ds) (preorderAll ds)
  | [] => .nil
  | d :: ds => by
    rw [layoutAll, preorderAll]
    exact List.rel_append (represents_layout place d) (represents_layoutAll _ ds)

end

/-! The beginnings of a path. -/

/-- The paths that a path lies inside, the nearest first: its beginnings by whole segments, neither
empty nor the path itself. -/
def properPrefixes (path : String) : List String :=
  ((segments path).inits.tail.dropLast.map ofSegments).reverse

/-- The beginnings of a list with one more at its end are those of the list, and the whole. -/
theorem tail_inits_concat {α : Type} (l : List α) (a : α) :
    (l ++ [a]).inits.tail = l.inits.tail ++ [l ++ [a]] := by
  have hne : l.inits ≠ [] := List.ne_nil_of_mem ((List.mem_inits l l).mpr List.prefix_rfl)
  rw [List.inits_append, List.tail_append_of_ne_nil hne]
  rfl

/-- A path of one segment has no proper prefix. -/
theorem properPrefixes_of_isDotFree {sid : String} (h : IsDotFree sid) :
    properPrefixes sid = [] := by
  rw [properPrefixes, segments_of_isDotFree h]
  rfl

/-- What is directly inside a path begins with that path and with what begins it. -/
theorem properPrefixes_childPath {path sid : String} (h : IsDotFree sid) :
    properPrefixes (childPath path sid) = path :: properPrefixes path := by
  obtain ⟨before, last, hlast⟩ : ∃ before last, segments path = before ++ [last] :=
    ⟨_, _, (List.dropLast_append_getLast (segments_ne_nil path)).symm⟩
  rw [properPrefixes, properPrefixes, segments_childPath_of_isDotFree h, tail_inits_concat,
    List.dropLast_concat, hlast, tail_inits_concat, List.dropLast_concat, ← hlast, List.map_append,
    List.reverse_append, List.map_singleton, ofSegments_segments]
  rfl

example : properPrefixes "SI.CD.NCT.NCTN" = ["SI.CD.NCT", "SI.CD", "SI"] := by rfl

namespace DocumentType

variable {t : DocumentType} {a p : Element}

namespace IsLaidOut

/-! What an element is in. -/

/-- The path of an element is that of what it is in, with its identifier. -/
theorem path_eq (h : t.IsLaidOut) (he : e ∈ t.elements) :
    e.path = childPath (t.pathOf (t.parent? e)) e.sid := by
  rcases h.placed e he with hat | ⟨p, hp, -, -, hat⟩
  · rw [parent?_of_isAt_top hat]
    exact hat.path
  · rw [h.parent?_of_isAt_inner hp hat]
    exact hat.path

/-- What an element names as its parent is an element before it. -/
theorem exists_parent (h : t.IsLaidOut) (he : e ∈ t.elements) {i : Nat} (hi : e.parent = some i) :
    ∃ p, t.elementAt? i = some p ∧ i < e.index := by
  rcases h.placed e he with hat | ⟨p, hp, -, hlt, hat⟩
  · rw [hat.parent] at hi
    cases hi
  · rw [hat.parent] at hi
    cases hi
    exact ⟨p, h.elementAt?_index hp, hlt⟩

/-- The ancestors of an element are what it is in and the ancestors of that. -/
theorem ancestors_eq (h : t.IsLaidOut) (he : e ∈ t.elements) :
    t.ancestors e = (t.parent? e).elim [] fun p => p :: t.ancestors p := by
  rcases h.placed e he with hat | ⟨p, hp, -, hlt, hat⟩
  · rw [ancestors_of_isAt_top hat, parent?_of_isAt_top hat]
    rfl
  · rw [h.ancestors_of_isAt_inner hp hlt hat, h.parent?_of_isAt_inner hp hat]
    rfl

/-- The paths of the ancestors, and then the document type, are the beginnings of the path. -/
theorem map_path_ancestors (h : t.IsLaidOut) (he : e ∈ t.elements) :
    (t.ancestors e).map Element.path ++ [t.sid] = properPrefixes e.path := by
  refine h.induction (P := fun e =>
    (t.ancestors e).map Element.path ++ [t.sid] = properPrefixes e.path) ?_ ?_ e he
  · intro e he hat
    rw [ancestors_of_isAt_top hat, hat.path, properPrefixes_childPath (h.isDotFree he), top,
      properPrefixes_of_isDotFree h.sid]
    rfl
  · intro e he p hp _ hlt hat ih
    rw [h.ancestors_of_isAt_inner hp hlt hat, hat.path, properPrefixes_childPath (h.isDotFree he)]
    exact congrArg (p.path :: ·) ih

/-! What lies inside an element. -/

/-- What lies inside an element has the indices directly after its own, up to some index. -/
theorem exists_stop (h : t.IsLaidOut) (ha : a ∈ t.elements) :
    ∃ stop, a.index < stop ∧ stop ≤ t.elements.length ∧ HasSpan t.elements a stop := by
  have hbound (e : Element) (he : e ∈ t.elements) : e.index < t.elements.length := by
    have hindex := List.mem_map_of_mem (f := Element.index) he
    rwa [h.indices, List.mem_range] at hindex
  obtain ⟨stop, hspan⟩ := h.span a ha
  refine ⟨max (a.index + 1) (min stop t.elements.length), by omega, ?_, fun e he => ?_⟩
  · have ha' := hbound a ha
    omega
  · have he' := hbound e he
    rw [hspan e he]
    omega

/-! Finding indices. -/

/-- A path has an index if an element with that index has the path. -/
theorem index?_eq_some_iff (h : t.IsLaidOut) {path : String} {i : Nat} :
    t.index? path = some i ↔ ∃ e, t.elementAt? i = some e ∧ e.path = path := by
  rw [index?, Option.map_eq_some_iff]
  refine exists_congr fun e => ?_
  rw [h.element?_eq_some_iff, h.elementAt?_eq_some_iff, and_right_comm]

/-! What the document type is asked for. -/

/-- The paths that a level asks for come once each and in order. -/
theorem pairwise_requiredPaths (h : t.IsLaidOut) (level : Level) :
    (t.requiredPaths level).Pairwise (· < ·) := by
  have hsublist : ((t.elements.filter fun e => e.level = level).map Element.path).Sublist
      (t.elements.map Element.path) := List.filter_sublist.map Element.path
  have hnodup : (t.requiredPaths level).Nodup :=
    (List.mergeSort_perm _ _).nodup_iff.mpr (h.nodup.sublist hsublist)
  have hsorted : (t.requiredPaths level).Pairwise fun a b => decide (a ≤ b) = true := by
    refine List.pairwise_mergeSort (fun a b c hab hbc => ?_) (fun a b => ?_) _
    · exact decide_eq_true (String.le_trans (of_decide_eq_true hab) (of_decide_eq_true hbc))
    · simpa using String.le_total a b
  exact (hsorted.and hnodup).imp fun hab => Std.lt_of_le_of_ne (of_decide_eq_true hab.1) hab.2

end IsLaidOut

/-- The paths required at a level are those of the elements of that level. -/
theorem mem_requiredPaths_iff {level : Level} {path : String} :
    path ∈ t.requiredPaths level ↔ ∃ e ∈ t.elements, e.path = path ∧ e.level = level := by
  rw [requiredPaths, List.mem_mergeSort, List.mem_map]
  simp only [List.mem_filter, decide_eq_true_iff]
  constructor
  · intro ⟨e, ⟨he, hlevel⟩, hpath⟩
    exact ⟨e, he, hpath, hlevel⟩
  · intro ⟨e, he, hpath, hlevel⟩
    exact ⟨e, ⟨he, hlevel⟩, hpath⟩

end DocumentType

/-- What holds no others is a simple field. -/
theorem Element.isContainer_eq_false_iff :
    e.isContainer = false ↔ ∃ field, e.kind = .simpleField field := by
  unfold Element.isContainer Element.field?
  cases e.kind <;> simp

/-- Only a simple field takes media, and only where its kind of media is not none. -/
theorem Element.acceptsMedia_iff :
    e.acceptsMedia = true ↔ ∃ field, e.kind = .simpleField field ∧ field.media ≠ .none := by
  unfold Element.acceptsMedia Element.field?
  cases e.kind <;> simp

/-- Only a simple field can be required for saving. -/
theorem Element.isRequiredForSaving_iff : e.isRequiredForSaving = true ↔
    ∃ field, e.kind = .simpleField field ∧ field.requiredForSaving = true := by
  unfold Element.isRequiredForSaving Element.field?
  cases e.kind <;> simp

namespace DocumentType

variable {t : DocumentType}

/-- A document type is the tree of a definition in canonical order: the elements are the tree in
preorder, numbered through, paths and handles agree with the tree and with each other, and what can
be asked of the document type is answered from them. -/
structure IsInCanonicalOrder (t : DocumentType) (d : DocumentTypeDefinition) : Prop where
  sid : t.sid = d.sid
  indices : t.elements.map Element.index = List.range t.elements.length
  preorder : List.Forall₂ Element.Represents t.elements (preorderAll d.paragraphs)
  nodup : (t.elements.map Element.path).Nodup
  path : ∀ e ∈ t.elements, e.path = childPath (t.pathOf (t.parent? e)) e.sid
  element : ∀ path e, t.element? path = some e ↔ e ∈ t.elements ∧ e.path = path
  index : ∀ path i, t.index? path = some i ↔ ∃ e, t.elementAt? i = some e ∧ e.path = path
  /-- What an element names as its parent is an element before it. -/
  parent : ∀ e ∈ t.elements, ∀ i, e.parent = some i →
    ∃ p, t.elementAt? i = some p ∧ i < e.index
  children : ∀ p ∈ t.elements, ∀ e, e ∈ t.children p ↔ e ∈ t.elements ∧ t.parent? e = some p
  handles : ∀ p ∈ t.elements,
    (t.children p).map Element.index = p.children ∧ p.children.Pairwise (· < ·)
  /-- Whoever climbs as often as the index says has passed all ancestors. -/
  walk : ∀ e ∈ t.elements, ∀ steps, e.index ≤ steps → t.climb steps e = t.ancestors e
  ancestors : ∀ e ∈ t.elements,
    t.ancestors e = (t.parent? e).elim [] fun p => p :: t.ancestors p
  prefixes : ∀ e ∈ t.elements,
    (t.ancestors e).map Element.path ++ [t.sid] = properPrefixes e.path
  descendants : ∀ a ∈ t.elements, ∀ e ∈ t.elements,
    a ∈ t.ancestors e ↔ isInside e.path a.path = true
  /-- What lies inside an element has the indices directly after its own. -/
  span : ∀ a ∈ t.elements, ∃ stop, a.index < stop ∧ stop ≤ t.elements.length ∧
    ∀ e ∈ t.elements, a ∈ t.ancestors e ↔ a.index < e.index ∧ e.index < stop
  canBeRepeated : ∀ e ∈ t.elements,
    e.canBeRepeated = true ↔ e.repeatable = true ∨ ∃ a ∈ t.ancestors e, a.repeatable = true
  simpleFields : t.simpleFields.Sublist t.elements ∧ ∀ e ∈ t.elements,
    e ∈ t.simpleFields ↔ ∃ field, e.kind = .simpleField field
  multimediaFields : t.multimediaFields.Sublist t.elements ∧ ∀ e ∈ t.elements,
    e ∈ t.multimediaFields ↔ ∃ field, e.kind = .simpleField field ∧ field.media ≠ .none
  requiredFields : t.requiredFields.Sublist t.elements ∧ ∀ e ∈ t.elements,
    e ∈ t.requiredFields ↔ ∃ field, e.kind = .simpleField field ∧ field.requiredForSaving = true
  requiredPaths : ∀ level ∈ Level.strictestFirst, (t.requiredPaths level).Pairwise (· < ·) ∧
    ∀ path, path ∈ t.requiredPaths level ↔ ∃ e ∈ t.elements, e.path = path ∧ e.level = level

/-- A document type that was built is the tree of its definition in canonical order. -/
theorem isInCanonicalOrder_of_build {d : DocumentTypeDefinition} (h : build d = .ok t) :
    t.IsInCanonicalOrder d := by
  have hlaid := isLaidOut_of_build h
  have hchildren := namesChildren_of_build h
  obtain ⟨hsid, helements⟩ := elements_of_build h
  have hdescendants (a e : Element) (ha : a ∈ t.elements) (he : e ∈ t.elements) :
      a ∈ t.ancestors e ↔ isInside e.path a.path = true := by
    rw [hlaid.mem_ancestors_iff he, and_iff_right ha]
  refine {
    sid := hsid
    indices := hlaid.indices
    preorder := helements ▸ represents_layoutAll t.top d.paragraphs
    nodup := hlaid.nodup
    path := fun e he => hlaid.path_eq he
    element := fun path e => hlaid.element?_eq_some_iff
    index := fun path i => hlaid.index?_eq_some_iff
    parent := fun e he i hi => hlaid.exists_parent he hi
    children := fun p hp e => hlaid.mem_children_iff hchildren hp
    handles := fun p hp => hlaid.map_index_children hchildren hp
    walk := fun e he steps hsteps => hlaid.climb_eq_climb he hsteps (Nat.le_refl _)
    ancestors := fun e he => hlaid.ancestors_eq he
    prefixes := fun e he => hlaid.map_path_ancestors he
    descendants := fun a ha e he => hdescendants a e ha he
    span := fun a ha => ?_
    canBeRepeated := fun e he => ?_
    simpleFields := ⟨List.filter_sublist, fun e he => ?_⟩
    multimediaFields := ⟨List.filter_sublist, fun e he => ?_⟩
    requiredFields := ⟨List.filter_sublist, fun e he => ?_⟩
    requiredPaths := fun level _ =>
      ⟨hlaid.pairwise_requiredPaths level, fun path => mem_requiredPaths_iff⟩ }
  · obtain ⟨stop, hafter, hstop, hspan⟩ := hlaid.exists_stop ha
    exact ⟨stop, hafter, hstop, fun e he => (hdescendants a e ha he).trans (hspan e he)⟩
  · rw [hlaid.canBeRepeated_eq_any he, List.any_cons, Bool.or_eq_true, List.any_eq_true]
  · rw [simpleFields, List.mem_filter, and_iff_right he, Bool.not_eq_true',
      Element.isContainer_eq_false_iff]
  · rw [multimediaFields, List.mem_filter, and_iff_right he, Element.acceptsMedia_iff]
  · rw [requiredFields, List.mem_filter, and_iff_right he, Element.isRequiredForSaving_iff]

/-- The definition of sites is accepted, and the document type is its tree in canonical order. -/
theorem siteType_isInCanonicalOrder :
    build siteDefinition = .ok siteType ∧ siteType.IsInCanonicalOrder siteDefinition :=
  ⟨build_siteDefinition, isInCanonicalOrder_of_build build_siteDefinition⟩

end DocumentType

end CatalogRecords
