import CatalogRecords.Proofs.Document.Flattening

/-!
# Looking up paths

What has a path can be found by going down its segments, or by taking the entries with that path
out of the flattened nodes. Where no identifier holds a dot both give the same, in the same order.
-/

namespace CatalogRecords

variable {outer path sid : String} {n : Node} {nodes : List Node} {sids : List String}

/-- Whether an entry is reached from a path by identifiers going down. -/
def FlatEntry.isReached (outer : String) (sids : List String) (entry : FlatEntry) : Bool :=
  segments entry.path == segments outer ++ sids

/-- What is found in a node by identifiers going down, or what it holds if there are none. -/
def Node.contentsAt (n : Node) : List String → List Content
  | [] => [n.content]
  | sid :: sids => contentsIn n.nodes (sid :: sids)

/-- Nothing is found where there are no nodes. -/
@[simp]
theorem contentsIn_nil (sid : String) (sids : List String) : contentsIn [] (sid :: sids) = [] := by
  cases sids <;> rfl

/-- Each node has its part in what is found by going down. -/
theorem contentsIn_cons (n : Node) (nodes : List Node) (sid : String) (sids : List String) :
    contentsIn (n :: nodes) (sid :: sids) =
      (if n.sid = sid then n.contentsAt sids else []) ++ contentsIn nodes (sid :: sids) := by
  by_cases hsid : n.sid = sid
  · rw [if_pos hsid]
    cases sids <;> simp [contentsIn, Node.contentsAt, hsid]
  · rw [if_neg hsid]
    cases sids <;> simp [contentsIn, hsid]

/-- Nothing inside of a path is at it. -/
theorem filter_isReached_nil (outer : String) (nodes : List Node) :
    (flattenAll outer nodes).filter (FlatEntry.isReached outer []) = [] := by
  rw [List.filter_eq_nil_iff]
  intro entry hentry hreached
  obtain ⟨rest, hrest, hsegments⟩ := isInside_iff.mp (isInside_of_mem_flattenAll nodes hentry)
  rw [FlatEntry.isReached, beq_iff_eq, hsegments] at hreached
  exact hrest (List.append_cancel_left hreached)

/-- Going down to a node and on from there. -/
theorem isReached_cons (hsid : IsDotFree n.sid) (outer : String) (sids : List String) :
    FlatEntry.isReached outer (n.sid :: sids) = FlatEntry.isReached (n.path outer) sids := by
  funext entry
  rw [FlatEntry.isReached, FlatEntry.isReached, Node.path, segments_childPath_of_isDotFree hsid,
    List.append_assoc, List.singleton_append]

/-- In a node nothing is reached by another identifier than its own. -/
theorem filter_isReached_of_ne (hsid : IsDotFree n.sid) (hne : n.sid ≠ sid) :
    (n.flatten outer).filter (FlatEntry.isReached outer (sid :: sids)) = [] := by
  rw [List.filter_eq_nil_iff]
  intro entry hentry hreached
  have hbegins : segments (n.path outer) <+: segments entry.path := by
    rw [n.flatten_eq] at hentry
    rcases List.mem_cons.mp hentry with rfl | hentry
    · exact List.prefix_rfl
    · exact (isInside_iff_continues.mp (isInside_of_mem_flattenAll n.nodes hentry)).1
  rw [FlatEntry.isReached, beq_iff_eq] at hreached
  rw [hreached, Node.path, segments_childPath_of_isDotFree hsid, List.prefix_append_right_inj,
    List.cons_prefix_cons] at hbegins
  exact hne hbegins.1

/-- If going down from a node finds what it should, so does going down to it and on. -/
theorem Node.map_content_filter_flatten (hsid : IsDotFree n.sid)
    (hnodes : ∀ sid sids, ((flattenAll (n.path outer) n.nodes).filter
      (FlatEntry.isReached (n.path outer) (sid :: sids))).map FlatEntry.content =
        contentsIn n.nodes (sid :: sids)) (sid : String) (sids : List String) :
    ((n.flatten outer).filter (FlatEntry.isReached outer (sid :: sids))).map FlatEntry.content =
      if n.sid = sid then n.contentsAt sids else [] := by
  split_ifs with heq
  · rw [← heq, isReached_cons hsid, n.flatten_eq]
    cases sids with
    | nil =>
      have hself : FlatEntry.isReached (n.path outer) []
          ⟨n.path outer, n.sid, n.content⟩ = true := by
        simp [FlatEntry.isReached]
      rw [List.filter_cons_of_pos hself, filter_isReached_nil]
      rfl
    | cons next rest =>
      -- The node itself is not as deep, so what is reached is in it.
      have hself : ¬FlatEntry.isReached (n.path outer) (next :: rest)
          ⟨n.path outer, n.sid, n.content⟩ = true := by
        simp [FlatEntry.isReached]
      rw [List.filter_cons_of_neg hself, hnodes]
      rfl
  · rw [filter_isReached_of_ne hsid heq, List.map_nil]

mutual

/-- Under a node the contents found along a path are those of the flattened node whose paths are
reached by it, if no identifier has a dot. -/
theorem map_content_filter_flatten {outer : String} : (n : Node) →
    (∀ entry ∈ n.flatten outer, IsDotFree entry.sid) → (sid : String) → (sids : List String) →
    ((n.flatten outer).filter (FlatEntry.isReached outer (sid :: sids))).map FlatEntry.content =
      if n.sid = sid then n.contentsAt sids else []
  | .text name value, hdotFree, sid, sids => by
    rw [Node.flatten_eq, List.forall_mem_cons] at hdotFree
    apply Node.map_content_filter_flatten hdotFree.1
    intro next rest
    rw [Node.nodes, contentsIn_nil, flattenAll]
    rfl
  | .group name nodes, hdotFree, sid, sids => by
    rw [Node.flatten_eq, List.forall_mem_cons] at hdotFree
    exact Node.map_content_filter_flatten hdotFree.1
      (map_content_filter_flattenAll nodes hdotFree.2) sid sids

/-- What is found by going down is what the entries hold that are reached that way. -/
theorem map_content_filter_flattenAll {outer : String} : (nodes : List Node) →
    (∀ entry ∈ flattenAll outer nodes, IsDotFree entry.sid) → (sid : String) →
    (sids : List String) →
    ((flattenAll outer nodes).filter (FlatEntry.isReached outer (sid :: sids))).map
      FlatEntry.content = contentsIn nodes (sid :: sids)
  | [], _, sid, sids => by
    rw [flattenAll, contentsIn_nil]
    rfl
  | n :: nodes, hdotFree, sid, sids => by
    rw [flattenAll, List.forall_mem_append] at hdotFree
    rw [flattenAll, List.filter_append, List.map_append, contentsIn_cons,
      map_content_filter_flatten n hdotFree.1, map_content_filter_flattenAll nodes hdotFree.2]

end

namespace Document

variable {d : Document}

/-- What a document has at a path is what the entries with that path hold, where no identifier
holds a dot. -/
theorem contentsAt_eq_map_filter (htype : IsDotFree d.documentType)
    (hdotFree : ∀ entry ∈ d.flatten, IsDotFree entry.sid) (path : String) :
    d.contentsAt path =
      (d.flatten.filter fun entry => entry.path == path).map FlatEntry.content := by
  have hreached (sids : List String) (hpath : segments path = d.documentType :: sids) :
      (fun entry : FlatEntry => entry.path == path) = FlatEntry.isReached d.documentType sids := by
    funext entry
    rw [FlatEntry.isReached, segments_of_isDotFree htype, List.singleton_append, ← hpath,
      Bool.eq_iff_iff, beq_iff_eq, beq_iff_eq, segments_inj]
  rw [contentsAt]
  change (match segments path with
    | [] => []
    | type :: sids => if type == d.documentType then contentsIn d.content sids else []) = _
  cases hpath : segments path with
  | nil => exact absurd hpath (segments_ne_nil path)
  | cons type sids =>
    dsimp only
    by_cases heq : type = d.documentType
    · rw [if_pos (beq_iff_eq.mpr heq), hreached sids (heq ▸ hpath), flatten]
      cases sids with
      | nil =>
        rw [filter_isReached_nil]
        rfl
      | cons sid sids => rw [map_content_filter_flattenAll d.content hdotFree]
    · rw [if_neg (beq_iff_eq.not.mpr heq), List.filter_eq_nil_iff.mpr, List.map_nil]
      intro entry hentry hpath'
      have hinside := isInside_iff.mp (isInside_of_mem_flattenAll d.content hentry)
      obtain ⟨rest, -, hsegments⟩ := hinside
      rw [beq_iff_eq.mp hpath', hpath, segments_of_isDotFree htype,
        List.singleton_append] at hsegments
      exact heq (List.head_eq_of_cons_eq hsegments)

/-- The texts at a path are those of the entries with that path. -/
theorem mem_textsAt_iff (htype : IsDotFree d.documentType)
    (hdotFree : ∀ entry ∈ d.flatten, IsDotFree entry.sid) {value : String} :
    value ∈ d.textsAt path ↔
      ∃ entry ∈ d.flatten, entry.path = path ∧ entry.content = .text value := by
  rw [textsAt, contentsAt_eq_map_filter htype hdotFree, List.mem_filterMap]
  simp only [List.mem_map, List.mem_filter, beq_iff_eq]
  constructor
  · rintro ⟨content, ⟨entry, ⟨hentry, hpath⟩, rfl⟩, htext⟩
    refine ⟨entry, hentry, hpath, ?_⟩
    cases hcontent : entry.content with
    | text text =>
      rw [hcontent, Content.text?, Option.some.injEq] at htext
      rw [htext]
    | group nodes =>
      rw [hcontent, Content.text?] at htext
      cases htext
  · rintro ⟨entry, hentry, hpath, hcontent⟩
    exact ⟨entry.content, ⟨entry, ⟨hentry, hpath⟩, rfl⟩, by rw [hcontent, Content.text?]⟩

end Document

end CatalogRecords
