import CatalogRecords.Proofs.Schema.Built

/-!
# The elements of a document type

In a document type that is laid out in canonical order a path finds the element that has it, the
ancestors of an element are the elements that it lies inside, and the elements inside of one come
between it and whatever comes after it beside it. This says what entry may follow what other.
-/

namespace CatalogRecords.DocumentType

variable {t : DocumentType} {a e f p : Element} {path outer sid name : String}

/-- The elements that something directly inside a path is in, the nearest first. -/
def enclosing (t : DocumentType) (path : String) : List Element :=
  match t.element? path with
  | some p => p :: t.ancestors p
  | none => []

/-- The path of an element, or of the document type for what is in none. -/
def pathOf (t : DocumentType) (parent : Option Element) : String :=
  match parent with
  | some p => p.path
  | none => t.sid

/-- Whether what is directly inside a path is in something repeatable. -/
def isRepeated (t : DocumentType) (path : String) : Bool :=
  (t.enclosing path).any Element.repeatable

namespace IsLaidOut

/-- No identifier in a type that is laid out has a dot. -/
theorem isDotFree (h : t.IsLaidOut) (he : e ∈ t.elements) : IsDotFree e.sid :=
  isDotFree_of_isSid (h.sound e he).sid

/-! Finding elements. -/

/-- The element found at a path has that path. -/
theorem path_of_element? (hfound : t.element? path = some e) : e.path = path :=
  beq_iff_eq.mp (List.find?_some (p := fun e : Element => e.path == path) hfound)

/-- A type that is laid out has one element to a path. -/
theorem eq_of_path_eq (h : t.IsLaidOut) (he : e ∈ t.elements) (hf : f ∈ t.elements)
    (hpath : e.path = f.path) : e = f :=
  List.inj_on_of_nodup_map h.nodup he hf hpath

/-- A path finds the element that has it. -/
theorem element?_eq_some_iff (h : t.IsLaidOut) :
    t.element? path = some e ↔ e ∈ t.elements ∧ e.path = path := by
  constructor
  · intro hfound
    exact ⟨List.mem_of_find?_eq_some hfound, path_of_element? hfound⟩
  · rintro ⟨he, rfl⟩
    have hfound : (t.element? e.path).isSome := List.find?_isSome.mpr ⟨e, he, beq_self_eq_true _⟩
    obtain ⟨f, hf⟩ := Option.isSome_iff_exists.mp hfound
    rw [hf, h.eq_of_path_eq (List.mem_of_find?_eq_some hf) he (path_of_element? hf)]

/-- An element is found at its own path, since no other has it. -/
theorem element?_path (h : t.IsLaidOut) (he : e ∈ t.elements) : t.element? e.path = some e :=
  h.element?_eq_some_iff.mpr ⟨he, rfl⟩

/-- An index finds the element that has it. -/
theorem elementAt?_index (h : t.IsLaidOut) (he : e ∈ t.elements) :
    t.elementAt? e.index = some e := by
  obtain ⟨i, hi, rfl⟩ := List.mem_iff_getElem.mp he
  have hindex : (t.elements.map Element.index)[i]? = some i := by
    rw [h.indices, List.getElem?_range hi]
  rw [List.getElem?_map, List.getElem?_eq_getElem hi, Option.map_some,
    Option.some.injEq] at hindex
  rw [elementAt?, hindex, List.getElem?_eq_getElem hi]

/-- A type that is laid out has one element to a place of the order. -/
theorem eq_of_index_eq (h : t.IsLaidOut) (he : e ∈ t.elements) (hf : f ∈ t.elements)
    (hindex : e.index = f.index) : e = f := by
  have he' := h.elementAt?_index he
  rw [hindex, h.elementAt?_index hf, Option.some.injEq] at he'
  exact he'.symm

/-- The document type itself is none of its elements. -/
theorem element?_sid (h : t.IsLaidOut) : t.element? t.sid = none := by
  rw [Option.eq_none_iff_forall_not_mem]
  intro e he
  obtain ⟨he, hpath⟩ := h.element?_eq_some_iff.mp he
  exact not_isInside_self t.sid (hpath ▸ h.inside e he)

/-! Ancestors. -/

/-- An element at the top has no parent. -/
theorem parent?_of_isAt_top (he : e.IsAt t.top) : t.parent? e = none := by
  rw [parent?, he.parent]
  rfl

/-- An element inside another has that one for its parent. -/
theorem parent?_of_isAt_inner (h : t.IsLaidOut) (hp : p ∈ t.elements) (he : e.IsAt p.inner) :
    t.parent? e = some p := by
  rw [parent?, he.parent]
  exact h.elementAt?_index hp

/-- With as many steps as the index says one has climbed to the top. -/
theorem climb_eq_climb (h : t.IsLaidOut) {m n : Nat} (he : e ∈ t.elements) (hm : e.index ≤ m)
    (hn : e.index ≤ n) : t.climb m e = t.climb n e := by
  -- A parent has a smaller index, so either number of steps is still enough after one of them.
  induction m generalizing n e with
  | zero =>
    rcases h.placed e he with htop | ⟨p, hp, -, hlt, hinner⟩
    · cases n with
      | zero => rfl
      | succ n => rw [climb, climb, parent?_of_isAt_top htop]
    · omega
  | succ m ih =>
    rcases h.placed e he with htop | ⟨p, hp, -, hlt, hinner⟩
    · cases n with
      | zero => rw [climb, climb, parent?_of_isAt_top htop]
      | succ n => rw [climb, climb, parent?_of_isAt_top htop]
    · cases n with
      | zero => omega
      | succ n =>
        simp only [climb, h.parent?_of_isAt_inner hp hinner]
        rw [ih (n := n) hp (by omega) (by omega)]

/-- Nothing is around an element at the top. -/
theorem ancestors_of_isAt_top (he : e.IsAt t.top) : t.ancestors e = [] := by
  rw [ancestors]
  cases e.index with
  | zero => rfl
  | succ n => rw [climb, parent?_of_isAt_top he]

/-- Around an element are the one it is inside and what is around that. -/
theorem ancestors_of_isAt_inner (h : t.IsLaidOut) (hp : p ∈ t.elements) (hlt : p.index < e.index)
    (he : e.IsAt p.inner) : t.ancestors e = p :: t.ancestors p := by
  rw [ancestors, ancestors]
  cases hindex : e.index with
  | zero => omega
  | succ n =>
    simp only [climb, h.parent?_of_isAt_inner hp he]
    rw [h.climb_eq_climb hp (by omega) (Nat.le_refl _)]

/-- Every element is reached from the top: what holds at the top and passes on to what is inside
holds of all elements. -/
theorem induction (h : t.IsLaidOut) {P : Element → Prop}
    (htop : ∀ e ∈ t.elements, e.IsAt t.top → P e)
    (hinner : ∀ e ∈ t.elements, ∀ p ∈ t.elements, p.isContainer = true → p.index < e.index →
      e.IsAt p.inner → P p → P e) (e : Element) (he : e ∈ t.elements) : P e := by
  induction hindex : e.index using Nat.strong_induction_on generalizing e with
  | _ n ih =>
    rcases h.placed e he with hat | ⟨p, hp, hcontainer, hlt, hat⟩
    · exact htop e he hat
    · exact hinner e he p hp hcontainer hlt hat (ih p.index (hindex ▸ hlt) p hp rfl)

/-- The ancestors of an element are the elements that it lies inside. -/
theorem mem_ancestors_iff (h : t.IsLaidOut) (he : e ∈ t.elements) :
    a ∈ t.ancestors e ↔ a ∈ t.elements ∧ isInside e.path a.path = true := by
  refine h.induction (P := fun e => a ∈ t.ancestors e ↔
    a ∈ t.elements ∧ isInside e.path a.path = true) ?_ ?_ e he
  · intro e he hat
    rw [ancestors_of_isAt_top hat, hat.path, isInside_childPath_iff (h.isDotFree he)]
    refine iff_of_false List.not_mem_nil fun ⟨ha, hbegins⟩ => ?_
    have hsid := (isInside_iff_continues.mp (h.inside a ha)).2
    exact absurd hbegins.length_le (Nat.not_le_of_lt hsid)
  · intro e he p hp _ hlt hat ih
    rw [h.ancestors_of_isAt_inner hp hlt hat, List.mem_cons, ih, hat.path,
      isInside_childPath_iff (h.isDotFree he), segments_prefix_iff]
    constructor
    · rintro (rfl | ⟨ha, hinside⟩)
      · exact ⟨hp, Or.inl rfl⟩
      · exact ⟨ha, Or.inr hinside⟩
    · rintro ⟨ha, hpath | hinside⟩
      · exact Or.inl (h.eq_of_path_eq ha hp hpath.symm)
      · exact Or.inr ⟨ha, hinside⟩

/-- An element can be repeated if it or one that it is in is repeatable. -/
theorem canBeRepeated_eq_any (h : t.IsLaidOut) (he : e ∈ t.elements) :
    e.canBeRepeated = (e :: t.ancestors e).any Element.repeatable := by
  refine h.induction (P := fun e =>
    e.canBeRepeated = (e :: t.ancestors e).any Element.repeatable) ?_ ?_ e he
  · intro e _ hat
    rw [hat.canBeRepeated, ancestors_of_isAt_top hat]
    rfl
  · intro e _ p hp _ hlt hat ih
    rw [hat.canBeRepeated, h.ancestors_of_isAt_inner hp hlt hat, List.any_cons, ← ih]
    rfl

/-- An element with the path of something named inside another path has that name, and it is in
what encloses the inside of that path. -/
theorem ancestors_of_path (h : t.IsLaidOut) (he : e ∈ t.elements) (hsid : IsDotFree sid)
    (hpath : e.path = childPath outer sid) : e.sid = sid ∧ t.ancestors e = t.enclosing outer := by
  have hdot := h.isDotFree he
  rcases h.placed e he with hat | ⟨p, hp, -, hlt, hat⟩
  · obtain ⟨houter, hname⟩ := (childPath_inj hdot hsid).mp (hat.path.symm.trans hpath)
    have houter : t.sid = outer := houter
    rw [ancestors_of_isAt_top hat, enclosing, ← houter, h.element?_sid]
    exact ⟨hname, rfl⟩
  · obtain ⟨houter, hname⟩ := (childPath_inj hdot hsid).mp (hat.path.symm.trans hpath)
    have houter : p.path = outer := houter
    rw [h.ancestors_of_isAt_inner hp hlt hat, enclosing, ← houter, h.element?_path hp]
    exact ⟨hname, rfl⟩

/-- An element with the path of something named inside another element has that name, and it lies
in that element. -/
theorem parent?_of_path {parent : Option Element} (h : t.IsLaidOut) (he : e ∈ t.elements)
    (hparent : ∀ p ∈ parent, p ∈ t.elements) (hsid : IsDotFree sid)
    (hpath : e.path = childPath (t.pathOf parent) sid) : e.sid = sid ∧ t.parent? e = parent := by
  have hne (p : Element) (hp : p ∈ t.elements) : p.path ≠ t.sid := by
    intro heq
    exact not_isInside_self t.sid (heq ▸ h.inside p hp)
  rcases h.placed e he with hat | ⟨q, hq, -, -, hat⟩
  · obtain ⟨houter, hname⟩ := (childPath_inj (h.isDotFree he) hsid).mp (hat.path.symm.trans hpath)
    rw [parent?_of_isAt_top hat]
    cases parent with
    | none => exact ⟨hname, rfl⟩
    | some p => exact absurd houter.symm (hne p (hparent p rfl))
  · obtain ⟨houter, hname⟩ := (childPath_inj (h.isDotFree he) hsid).mp (hat.path.symm.trans hpath)
    rw [h.parent?_of_isAt_inner hq hat]
    cases parent with
    | none => exact absurd houter (hne q hq)
    | some p => exact ⟨hname, congrArg some (h.eq_of_path_eq hq (hparent p rfl) houter)⟩

/-- An element can be repeated if it is repeatable, or in something that is. -/
theorem canBeRepeated_eq_or (h : t.IsLaidOut) (he : e ∈ t.elements) (hsid : IsDotFree sid)
    (hpath : e.path = childPath outer sid) :
    e.canBeRepeated = (e.repeatable || t.isRepeated outer) := by
  rw [h.canBeRepeated_eq_any he, List.any_cons, (h.ancestors_of_path he hsid hpath).2]
  rfl

/-! The canonical order. -/

/-- What lies inside an element comes after it. -/
theorem index_lt_of_isInside (h : t.IsLaidOut) (he : e ∈ t.elements) (ha : a ∈ t.elements)
    (hinside : isInside e.path a.path = true) : a.index < e.index := by
  obtain ⟨stop, hspan⟩ := h.span a ha
  exact ((hspan e he).mp hinside).1

/-- Whatever belongs to an element comes before all that comes after it beside it. -/
theorem index_lt_of_beside (h : t.IsLaidOut) (he : e ∈ t.elements) (hf : f ∈ t.elements)
    (hp : p ∈ t.elements) (hsid : IsDotFree sid) (hname : IsDotFree name)
    (hepath : e.path = childPath outer sid) (hfpath : f.path = childPath outer name)
    (hlt : e.index < f.index) (hbegins : segments e.path <+: segments p.path) :
    p.index < f.index := by
  obtain ⟨stop, hspan⟩ := h.span e he
  have hstop : ¬f.index < stop := by
    intro hstop
    have hinside := (hspan f hf).mpr ⟨hlt, hstop⟩
    rw [hepath, hfpath] at hinside
    have hlength := (isInside_iff_continues.mp hinside).2
    rw [segments_childPath_of_isDotFree hsid, segments_childPath_of_isDotFree hname,
      List.length_append, List.length_append] at hlength
    exact Nat.lt_irrefl _ hlength
  rcases segments_prefix_iff.mp hbegins with hpath | hinside
  · rw [h.eq_of_path_eq hp he hpath]
    exact hlt
  · have hp' := ((hspan p hp).mp hinside).2
    omega

/-! What may follow what. -/

/-- It need not be asked of elements whether a path lies inside them if it lies inside all. -/
theorem any_repeatable_isInside {es : List Element}
    (hinside : ∀ a ∈ es, isInside path a.path = true) :
    (es.any fun a => a.repeatable && isInside path a.path) = es.any Element.repeatable := by
  rw [Bool.eq_iff_iff, List.any_eq_true, List.any_eq_true]
  refine exists_congr fun a => and_congr_right fun ha => ?_
  rw [hinside a ha, Bool.and_true]

/-- Whether one field may follow another is read off their places in the order: forwards it always
may, to itself if it is a simple field that repeats, and backwards if it is or lies inside something
that repeats and holds the field before it. -/
theorem canFollow_eq (h : t.IsLaidOut) (he : e ∈ t.elements) (hp : p ∈ t.elements) :
    t.canFollow e.path p.path =
      if p.index < e.index then true
      else if e.index = p.index then e.repeatable && !e.isContainer
      else (e :: t.ancestors e).any fun a => a.repeatable && isInside p.path a.path := by
  rw [canFollow, h.element?_path he, h.element?_path hp]

/-- A field may follow any that comes earlier in the order. -/
theorem canFollow_of_lt (h : t.IsLaidOut) (he : e ∈ t.elements) (hp : p ∈ t.elements)
    (hlt : p.index < e.index) : t.canFollow e.path p.path = true := by
  rw [h.canFollow_eq he hp, if_pos hlt]

/-- A field may follow itself if it is a simple field that repeats. -/
theorem canFollow_self (h : t.IsLaidOut) (he : e ∈ t.elements) :
    t.canFollow e.path e.path = (e.repeatable && !e.isContainer) := by
  rw [h.canFollow_eq he he, if_neg (Nat.lt_irrefl _), if_pos rfl]

/-- After something inside it an element may come if it can be repeated. -/
theorem canFollow_of_isInside (h : t.IsLaidOut) (he : e ∈ t.elements) (hp : p ∈ t.elements)
    (hinside : isInside p.path e.path = true) :
    t.canFollow e.path p.path = e.canBeRepeated := by
  have hlt := h.index_lt_of_isInside hp he hinside
  rw [h.canFollow_eq he hp, if_neg (by omega), if_neg (by omega), h.canBeRepeated_eq_any he]
  refine any_repeatable_isInside fun a ha => ?_
  rcases List.mem_cons.mp ha with rfl | ha
  · exact hinside
  · exact isInside_trans hinside ((h.mem_ancestors_iff he).mp ha).2

/-- After something later that it is not in an element may come if both are in something
repeatable. -/
theorem canFollow_of_beside (h : t.IsLaidOut) (he : e ∈ t.elements) (hp : p ∈ t.elements)
    (hsid : IsDotFree sid) (hpath : e.path = childPath outer sid)
    (houter : isInside p.path outer = true) (hinside : ¬isInside p.path e.path = true)
    (hlt : e.index < p.index) : t.canFollow e.path p.path = t.isRepeated outer := by
  rw [h.canFollow_eq he hp, if_neg (by omega), if_neg (by omega), List.any_cons,
    Bool.eq_false_iff.mpr hinside, Bool.and_false, Bool.false_or, isRepeated,
    ← (h.ancestors_of_path he hsid hpath).2]
  refine any_repeatable_isInside fun a ha => ?_
  have ha := ((h.mem_ancestors_iff he).mp ha).2
  rw [hpath, isInside_childPath_iff hsid, segments_prefix_iff] at ha
  rcases ha with rfl | ha
  · exact houter
  · exact isInside_trans houter ha

end IsLaidOut

end CatalogRecords.DocumentType
