import CatalogRecords.Schema.DocumentType
import Mathlib.Data.List.Infix

/-!
# The segments of paths

A complete path is a text, but what is done with it goes by its segments, the pieces between the
dots: going inside appends a segment, and a path lies inside another one if that one's segments
begin its own. The segments determine the path, so that one view can be exchanged for the other.
-/

namespace CatalogRecords

namespace Text

/-- Splitting takes apart what a separator joins. -/
theorem splitChars_append_cons (sep : Char) (as bs : List Char) :
    splitChars sep (as ++ sep :: bs) = splitChars sep as ++ splitChars sep bs := by
  induction as with
  | nil => simp [splitChars]
  | cons a as ih =>
    rw [List.cons_append]
    by_cases ha : a = sep
    · rw [splitChars, splitChars, if_pos ha, if_pos ha, ih, List.cons_append]
    · rw [splitChars, splitChars, if_neg ha, if_neg ha, ih]
      cases h : splitChars sep as with
      | nil => exact absurd h (splitChars_ne_nil sep as)
      | cons piece pieces => rfl

/-- A text without the separator is in one piece. -/
theorem splitChars_of_not_mem {sep : Char} {cs : List Char} (h : sep ∉ cs) :
    splitChars sep cs = [cs] := by
  induction cs with
  | nil => rfl
  | cons c cs ih =>
    rw [List.mem_cons, not_or] at h
    rw [splitChars, if_neg (Ne.symm h.1), ih h.2]

/-- Pieces in two groups are joined within the groups and then with each other. -/
theorem joinChars_append {sep : Char} {ps qs : List (List Char)} (hp : ps ≠ []) (hq : qs ≠ []) :
    joinChars sep (ps ++ qs) = joinChars sep ps ++ sep :: joinChars sep qs := by
  induction ps with
  | nil => exact absurd rfl hp
  | cons p ps ih =>
    cases ps with
    | nil =>
      cases qs with
      | nil => exact absurd rfl hq
      | cons q qs => simp [joinChars]
    | cons next rest =>
      have hrest := ih (List.cons_ne_nil next rest)
      simp only [List.cons_append, joinChars] at hrest ⊢
      rw [hrest, List.append_assoc, List.cons_append]

end Text

/-- A text that can be one segment of a path. -/
def IsDotFree (sid : String) : Prop := '.' ∉ sid.toList

/-- Whether an identifier has a dot is decided by its characters. -/
instance (sid : String) : Decidable (IsDotFree sid) :=
  inferInstanceAs (Decidable ('.' ∉ sid.toList))

/-- The segments of a path. -/
def segments (path : String) : List String := Text.split '.' path

/-- Every path has a segment. -/
theorem segments_ne_nil (path : String) : segments path ≠ [] :=
  List.map_eq_nil_iff.not.mpr (Text.splitChars_ne_nil '.' path.toList)

/-- The path that is put together from segments. -/
def ofSegments (pieces : List String) : String :=
  String.ofList (Text.joinChars '.' (pieces.map String.toList))

/-- A path can be put together again from its segments. -/
theorem ofSegments_segments (path : String) : ofSegments (segments path) = path := by
  have hmap : (segments path).map String.toList = Text.splitChars '.' path.toList := by
    rw [segments, Text.split, List.map_map]
    exact List.map_id'' (fun cs => String.toList_ofList) _
  rw [ofSegments, hmap, Text.joinChars_splitChars, String.ofList_toList]

/-- A path is given by its segments. -/
theorem segments_inj {path other : String} : segments path = segments other ↔ path = other := by
  refine ⟨fun h => ?_, congrArg segments⟩
  rw [← ofSegments_segments path, ← ofSegments_segments other, h]

/-- An identifier is a path of one segment. -/
theorem segments_of_isDotFree {sid : String} (h : IsDotFree sid) : segments sid = [sid] := by
  rw [segments, Text.split, Text.splitChars_of_not_mem h, List.map_singleton, String.ofList_toList]

/-- The path of a child is that of its parent, a dot, and its identifier. -/
theorem toList_childPath (path sid : String) :
    (childPath path sid).toList = path.toList ++ '.' :: sid.toList := by
  rw [childPath, String.toList_append, String.toList_append, List.append_assoc]
  rfl

/-- Segments in two groups are put together within the groups and then with each other. -/
theorem ofSegments_append {ps qs : List String} (hp : ps ≠ []) (hq : qs ≠ []) :
    ofSegments (ps ++ qs) = childPath (ofSegments ps) (ofSegments qs) := by
  apply String.toList_inj.mp
  rw [toList_childPath, ofSegments, ofSegments, ofSegments, String.toList_ofList,
    String.toList_ofList, String.toList_ofList, List.map_append, Text.joinChars_append]
  · exact List.map_eq_nil_iff.not.mpr hp
  · exact List.map_eq_nil_iff.not.mpr hq

/-- Going inside appends. -/
theorem segments_childPath (path sid : String) :
    segments (childPath path sid) = segments path ++ segments sid := by
  rw [segments, Text.split, toList_childPath, Text.splitChars_append_cons, List.map_append]
  rfl

/-- The path of a child has the segments of its parent and one more. -/
theorem segments_childPath_of_isDotFree {sid : String} (h : IsDotFree sid) (path : String) :
    segments (childPath path sid) = segments path ++ [sid] := by
  rw [segments_childPath, segments_of_isDotFree h]

/-- A path of something named without a dot tells the name, and the path of what it is in. -/
theorem childPath_inj {path other sid name : String} (hsid : IsDotFree sid)
    (hname : IsDotFree name) :
    childPath path sid = childPath other name ↔ path = other ∧ sid = name := by
  rw [← segments_inj, segments_childPath_of_isDotFree hsid,
    segments_childPath_of_isDotFree hname]
  constructor
  · intro h
    obtain ⟨hpath, hlast⟩ := List.append_inj' h rfl
    exact ⟨segments_inj.mp hpath, List.head_eq_of_cons_eq hlast⟩
  · rintro ⟨rfl, rfl⟩
    rfl

/-- What lies inside a path is reached from it by some further text. -/
theorem isInside_iff_exists_childPath {path outer : String} :
    isInside path outer = true ↔ ∃ rest, path = childPath outer rest := by
  rw [isInside, Text.startsWith, List.isPrefixOf_iff_prefix, String.toList_append]
  constructor
  · rintro ⟨rest, hrest⟩
    refine ⟨String.ofList rest, String.toList_inj.mp ?_⟩
    rw [toList_childPath, ← hrest, List.append_assoc]
    simp
  · rintro ⟨rest, rfl⟩
    rw [toList_childPath]
    exact ⟨rest.toList, List.append_assoc _ _ _⟩

/-- A path lies inside another one exactly if the segments of that one begin its own. -/
theorem isInside_iff {path outer : String} :
    isInside path outer = true ↔ ∃ rest, rest ≠ [] ∧ segments path = segments outer ++ rest := by
  rw [isInside_iff_exists_childPath]
  constructor
  · rintro ⟨rest, rfl⟩
    exact ⟨segments rest, segments_ne_nil rest, segments_childPath outer rest⟩
  · rintro ⟨rest, hrest, hsegments⟩
    refine ⟨ofSegments rest, ?_⟩
    rw [← ofSegments_segments path, hsegments, ofSegments_append (segments_ne_nil outer) hrest,
      ofSegments_segments]

/-- A path lies inside another one exactly if it continues it and is longer. -/
theorem isInside_iff_continues {path outer : String} :
    isInside path outer = true ↔
      segments outer <+: segments path ∧ (segments outer).length < (segments path).length := by
  rw [isInside_iff]
  constructor
  · rintro ⟨rest, hrest, hsegments⟩
    rw [hsegments, List.length_append]
    exact ⟨List.prefix_append _ _, Nat.lt_add_of_pos_right (List.length_pos_iff.mpr hrest)⟩
  · rintro ⟨⟨rest, hrest⟩, hlength⟩
    refine ⟨rest, ?_, hrest.symm⟩
    rintro rfl
    rw [← hrest, List.append_nil] at hlength
    exact Nat.lt_irrefl _ hlength

/-- A path continues another one exactly if it is that one or lies inside it. -/
theorem segments_prefix_iff {path outer : String} :
    segments outer <+: segments path ↔ path = outer ∨ isInside path outer = true := by
  rw [isInside_iff_continues]
  constructor
  · intro h
    rcases h.length_le.eq_or_lt with hlength | hlength
    · exact Or.inl (segments_inj.mp (h.eq_of_length hlength)).symm
    · exact Or.inr ⟨h, hlength⟩
  · rintro (rfl | h)
    · exact List.prefix_rfl
    · exact h.1

/-- What lies inside something inside another lies inside that one. -/
theorem isInside_trans {path middle outer : String} (h : isInside path middle = true)
    (hmiddle : isInside middle outer = true) : isInside path outer = true := by
  rw [isInside_iff_continues] at h hmiddle ⊢
  exact ⟨hmiddle.1.trans h.1, hmiddle.2.trans h.2⟩

/-- What lies inside a child lies inside what the child is in. -/
theorem isInside_of_prefix_childPath {path outer sid : String}
    (h : segments (childPath outer sid) <+: segments path) : isInside path outer = true := by
  rw [segments_childPath] at h
  refine isInside_iff_continues.mpr ⟨(List.prefix_append _ _).trans h, ?_⟩
  have hlength := h.length_le
  have hsid := List.length_pos_iff.mpr (segments_ne_nil sid)
  rw [List.length_append] at hlength
  omega

/-- A child lies inside what the path it is in is or lies inside. -/
theorem isInside_childPath_iff {path outer sid : String} (hsid : IsDotFree sid) :
    isInside (childPath path sid) outer = true ↔ segments outer <+: segments path := by
  rw [isInside_iff_continues, segments_childPath_of_isDotFree hsid, List.length_append,
    List.length_singleton]
  constructor
  · rintro ⟨h, hlength⟩
    exact List.prefix_of_prefix_length_le h (List.prefix_append _ _) (Nat.le_of_lt_succ hlength)
  · intro h
    exact ⟨h.trans (List.prefix_append _ _), Nat.lt_succ_of_le h.length_le⟩

/-- Different children of the same path have nothing in common. -/
theorem eq_of_prefix_childPath {path outer sid name : String} (hsid : IsDotFree sid)
    (hname : IsDotFree name) (h : segments (childPath outer sid) <+: segments path)
    (hother : segments (childPath outer name) <+: segments path) : sid = name := by
  rw [segments_childPath_of_isDotFree hsid] at h
  rw [segments_childPath_of_isDotFree hname] at hother
  have hbegins := List.prefix_of_prefix_length_le h hother (by simp)
  have heq := hbegins.eq_of_length (by simp)
  exact List.head_eq_of_cons_eq (List.append_cancel_left heq)

end CatalogRecords
