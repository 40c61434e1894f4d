import CatalogRecords.Proofs.Document.Verdict
import CatalogRecords.Proofs.Document.Lookup
import CatalogRecords.Proofs.Query.CheckedEvaluation
import CatalogRecords.Proofs.Query.RoundTrip
import CatalogRecords.Proofs.Query.Validity
import CatalogRecords.Proofs.Schema.Resolution

/-!
# Asking for the texts of a field

Each field can be asked for with its complete path in brackets. Building a document type refuses
few identifiers, while brackets hold no closing bracket and no blanks at either end, and an
underscore after a dot begins a metafield. Where the names are free of these the query finds just
the texts of the field; where they are not it is read as something else, so that no document type
with such names has a query for the field.
-/

namespace CatalogRecords

/-- The identifier of a document type that was built is not empty. -/
theorem DocumentType.sid_ne_empty_of_build {definition : DocumentTypeDefinition} {t : DocumentType}
    (h : build definition = .ok t) : t.sid ≠ "" := by
  obtain ⟨u, hsid, h⟩ := bind_eq_ok_iff.mp h
  obtain ⟨seen, -, h⟩ := bind_eq_ok_iff.mp h
  cases h
  rintro (hempty : definition.sid = "")
  have hblank := checkSid_eq_ok hsid
  rw [hempty] at hblank
  cases hblank

/-! Where the path of a metafield can lead. -/

/-- Only the document type and elements that hold others have anything inside. -/
theorem DocumentType.IsLaidOut.eq_sid_or_container {t : DocumentType} (h : t.IsLaidOut)
    {e : Element} (he : e ∈ t.elements) {outer : String} (hinside : isInside e.path outer = true) :
    outer = t.sid ∨ ∃ p ∈ t.elements, p.path = outer ∧ p.isContainer = true := by
  refine h.induction (P := fun e => isInside e.path outer = true →
    outer = t.sid ∨ ∃ p ∈ t.elements, p.path = outer ∧ p.isContainer = true) ?_ ?_ e he hinside
  · intro e he hat hinside
    rw [hat.path, isInside_childPath_iff (h.isDotFree he), segments_prefix_iff] at hinside
    rcases hinside with hsid | hinside
    · exact .inl hsid.symm
    · obtain ⟨rest, hrest, hsegments⟩ := isInside_iff.mp hinside
      have hlength := congrArg List.length hsegments
      have hpositive := List.length_pos_iff.mpr hrest
      have houter := List.length_pos_iff.mpr (segments_ne_nil outer)
      have hsid : segments t.top.parentPath = [t.sid] := segments_of_isDotFree h.sid
      rw [hsid, List.length_append, List.length_singleton] at hlength
      omega
  · intro e he p hp hcontainer _ hat ih hinside
    rw [hat.path, isInside_childPath_iff (h.isDotFree he), segments_prefix_iff] at hinside
    rcases hinside with hpath | hinside
    · exact .inr ⟨p, hp, hpath, hcontainer⟩
    · exact ih hinside

/-- A simple field has nothing inside. -/
theorem DocumentType.IsLaidOut.field?_of_isInside {t : DocumentType} (h : t.IsLaidOut)
    {e : Element} (he : e ∈ t.elements) {outer : String} (hinside : isInside e.path outer = true) :
    t.field? outer = none := by
  rcases h.eq_sid_or_container he hinside with rfl | ⟨p, hp, rfl, hcontainer⟩
  · rw [field?, h.element?_sid, Option.bind_none]
  · rw [field?, h.element?_path hp, Option.bind_some]
    exact Option.isNone_iff_eq_none.mp hcontainer

/-- What a path lies inside resolves to itself, if to nothing else as well. -/
theorem DocumentType.IsLaidOut.mem_resolveAll_of_isInside {t : DocumentType} (h : t.IsLaidOut)
    {e : Element} (he : e ∈ t.elements) {outer : String} (hinside : isInside e.path outer = true) :
    outer ∈ t.resolveAll outer := by
  rw [h.resolveAll_eq_filter, List.mem_filter]
  refine ⟨?_, matchesPath_iff.mpr List.suffix_rfl⟩
  rcases h.eq_sid_or_container he hinside with rfl | ⟨p, hp, rfl, -⟩
  · exact List.mem_append_right _ (List.mem_singleton_self _)
  · exact List.mem_append_left _ (List.mem_map_of_mem hp)

namespace Query

/-! Fields that name no metafield. -/

/-- The first piece begins as the characters do, unless they begin with the separator. -/
theorem head?_of_splitChars {sep c : Char} {cs piece : List Char} {pieces : List (List Char)}
    (h : Text.splitChars sep (c :: cs) = piece :: pieces) :
    piece.head? = if c = sep then none else some c := by
  rw [Text.splitChars] at h
  split_ifs at h ⊢ with hsep
  · cases h
    rfl
  · split at h <;> cases h <;> rfl

/-- Characters name no metafield exactly if no piece after a dot begins with an underscore. -/
theorem FieldRef.splitChars_snd_eq_none_iff (cs : List Char) :
    (splitChars cs).2 = none ↔ ∀ piece ∈ (Text.splitChars '.' cs).tail, piece.head? ≠ some '_' := by
  fun_induction splitChars cs with
  | case1 => simp [Text.splitChars]
  | case2 cs =>
    refine iff_of_false (Option.some_ne_none _) fun hpieces => ?_
    obtain ⟨piece, pieces, hsplit⟩ := List.exists_cons_of_ne_nil (Text.splitChars_ne_nil '.' cs)
    have hfirst : (Text.splitChars '.' ('.' :: '_' :: cs)).tail = ('_' :: piece) :: pieces := by
      simp [Text.splitChars, hsplit]
    rw [hfirst] at hpieces
    exact hpieces _ List.mem_cons_self rfl
  | case3 c cs hnot path metafield heq ih =>
    rw [heq] at ih
    rw [ih]
    obtain ⟨piece, pieces, hsplit⟩ := List.exists_cons_of_ne_nil (Text.splitChars_ne_nil '.' cs)
    by_cases hdot : c = '.'
    · -- the first piece of the rest follows a dot, and does not begin with an underscore
      have hfirst : piece.head? ≠ some '_' := by
        intro hhead
        cases cs with
        | nil =>
          cases hsplit
          cases hhead
        | cons next cs =>
          rw [head?_of_splitChars hsplit] at hhead
          split at hhead
          · cases hhead
          · exact hnot cs hdot (congrArg (· :: cs) (Option.some.inj hhead))
      simp [Text.splitChars, hdot, hsplit, hfirst]
    · simp [Text.splitChars, hdot, hsplit]

/-- A field names no metafield exactly if no segment after the first begins with an underscore. -/
theorem FieldRef.metafield_eq_none_iff {field : String} :
    (ofText field).metafield = none ↔
      ∀ sid ∈ (segments field).tail, Text.startsWith sid "_" = false := by
  have hmetafield : (ofText field).metafield = none ↔ (splitChars field.toList).2 = none :=
    Option.map_eq_none_iff
  rw [hmetafield, splitChars_snd_eq_none_iff, segments, Text.split, ← List.map_tail,
    List.forall_mem_map]
  refine forall_congr' fun piece => imp_congr_right fun _ => ?_
  change piece.head? ≠ some '_' ↔ ['_'].isPrefixOf (String.ofList piece).toList = false
  rw [String.toList_ofList]
  cases piece with
  | nil => exact iff_of_true (by simp) rfl
  | cons c cs =>
    rw [List.head?_cons, ne_eq, Option.some_inj, List.isPrefixOf, List.isPrefixOf, Bool.and_true,
      beq_eq_false_iff_ne, ne_comm]

/-- A field without a metafield is its path. -/
theorem FieldRef.path_of_metafield {field : String} (h : (ofText field).metafield = none) :
    (ofText field).path = field := by
  have hnone : (splitChars field.toList).2 = none := Option.map_eq_none_iff.mp h
  have hparts := append_splitChars field.toList
  rw [hnone, List.append_nil] at hparts
  exact String.toList_inj.mp ((String.toList_ofList).trans hparts)

/-- A field with a metafield lies inside its path. -/
theorem FieldRef.isInside_path {field name : String} (h : (ofText field).metafield = some name) :
    isInside field (ofText field).path = true := by
  obtain ⟨metafield, hmetafield, -⟩ := Option.map_eq_some_iff.mp h
  have hparts := append_splitChars field.toList
  rw [hmetafield] at hparts
  refine isInside_iff_exists_childPath.mpr ⟨String.ofList metafield, String.toList_inj.mp ?_⟩
  rw [toList_childPath, String.toList_ofList]
  exact hparts.symm.trans (congrArg (· ++ _) String.toList_ofList.symm)

/-! The query for a field. -/

/-- The text of the query for the documents of a type that have a value at a path. -/
def fieldQuery (sid path value : String) : String :=
  "SELECT * FROM [" ++ sid ++ "] WHERE [" ++ path ++ "] = \"" ++ escapeLiteral value ++ "\""

/-- The expression for the documents of a type that have a value at a path. -/
def SearchExpression.havingValue (sid path value : String) : SearchExpression where
  select := [allFields]
  source := sid
  criteria := { members := [.condition none ⟨path, .equal, value⟩] }

/-- The query is the text of the expression. -/
theorem SearchExpression.text_havingValue (sid path value : String) :
    (havingValue sid path value).text = fieldQuery sid path value := by
  have hselect : "SELECT" ++ clauseText "" [selectText allFields] = "SELECT *" := by rfl
  have hsource : "SELECT *" ++ (" FROM " ++ "[") = "SELECT * FROM [" := by rfl
  have hwhere : "]" ++ (" WHERE " ++ "[") = "] WHERE [" := by rfl
  have hequal : "]" ++ (" " ++ (Comparator.equal.text ++ " \"")) = "] = \"" := by rfl
  have horder : clauseText " ORDER_BY" [] = "" := rfl
  unfold fieldQuery
  rw [← hsource, ← hwhere, ← hequal]
  simp only [text, havingValue, List.map_cons, List.map_nil, List.isEmpty_cons, Bool.false_eq_true,
    if_false, criteriaText, Criterion.text, operatorText, Condition.text, bracketName, hselect,
    horder, String.append_assoc, String.append_empty, String.empty_append]

/-- The query for the texts of a field: it is read, it is valid, and on a document of the type it is
answered by whether some text of the field is the value, without regard to case. -/
def IsQueryable (t : DocumentType) (path : String) : Prop :=
  ∀ value, value ≠ "" →
    SearchExpression.read .strict (fieldQuery t.sid path value) =
        .ok (.havingValue t.sid path value) ∧
      (SearchExpression.havingValue t.sid path value).isValid t {} = true ∧
      ∀ (convention : DecimalConvention) (d : Document), d.documentType = t.sid →
        (∀ entry ∈ d.flatten, IsDotFree entry.sid) →
        ∃ answer,
          (SearchExpression.havingValue t.sid path value).evaluate t convention d = .ok answer ∧
            (answer = true ↔ ∃ entry ∈ d.flatten, ∃ text, entry.path = path ∧
              entry.content = .text text ∧ Text.upper text = Text.upper value)

variable {t : DocumentType} {path value : String} {field : SimpleField}
  {convention : DecimalConvention} {d : Document}

namespace SearchExpression

/-- The criteria of the query are met if the one condition is. -/
theorem isMetBy_havingValue (sid path value : String) :
    (havingValue sid path value).isMetBy t convention d =
      isMet (Condition.holds t convention d) ⟨path, .equal, value⟩ := by rfl

/-- The query is expressible if the names are plain. -/
theorem isExpressible_havingValue {sid : String} (hne : sid ≠ "") (hsid : IsPlainName sid)
    (hpath : IsPlainName path) : (havingValue sid path value).IsExpressible where
  operator := rfl
  source_ne := hne
  filled := rfl
  source := hsid
  select name hname := by
    rw [List.mem_singleton.mp hname]
    decide
  fields c hc := by
    rw [List.mem_singleton.mp hc]
    exact hpath
  orderBy _ h := absurd h List.not_mem_nil

/-- The query is sound if the path names no metafield and stands for a simple field alone. -/
theorem isSound_havingValue {options : CheckOptions} (hvalue : value ≠ "")
    (hmetafield : (FieldRef.ofText path).metafield = none) (hself : t.resolveAll path = [path])
    (hfield : t.field? path = some field) : (havingValue t.sid path value).IsSound t options where
  source := rfl
  select name hname hne := absurd (List.mem_singleton.mp hname) hne
  joined members hmembers := by
    rw [List.mem_singleton.mp hmembers]
    exact areJoined_cons_iff.mpr ⟨List.mem_cons_self, List.forall_mem_nil _⟩
  conditions c hc := by
    rw [List.mem_singleton.mp hc]
    have hresolves : t.resolveAll (FieldRef.ofText path).path = [path] := by
      rwa [FieldRef.path_of_metafield hmetafield]
    refine ⟨_, .text path field hresolves hmetafield hfield, ?_⟩
    exact {
      literal := hvalue
      like := fun hlike => by cases hlike
      orderOnType := fun horder => by cases horder
      orderOnContainer := fun horder => by cases horder
      value := fun hnone => by cases hnone
      number := fun hnone => by rcases hnone with hnone | hnone <;> cases hnone }
  orderBy _ h := absurd h List.not_mem_nil

/-- Equal texts are those that are the same in upper case. -/
theorem holdsOfTexts_equal_iff {text literal : String} :
    Comparator.equal.holdsOfTexts text literal = true ↔ Text.upper text = Text.upper literal := by
  change (compare (Text.upper text) (Text.upper literal) == .eq) = true ↔ _
  rw [beq_iff_eq, Std.compare_eq_iff_eq]

/-- The query has an answer: whether some text at the path is the value. -/
theorem evaluate_havingValue (hmetafield : (FieldRef.ofText path).metafield = none)
    (hself : t.resolveAll path = [path]) (hd : d.documentType = t.sid) :
    (havingValue t.sid path value).evaluate t convention d =
      .ok ((d.textsAt path).any fun text => Comparator.equal.holdsOfTexts text value) := by
  have hpath : t.resolveUnique (FieldRef.ofText path).path = .ok path := by
    rw [FieldRef.path_of_metafield hmetafield]
    exact resolveUnique_of_resolveAll hself
  have hholds : Condition.holds t convention d ⟨path, .equal, value⟩ =
      .ok ((d.textsAt path).any fun text => Comparator.equal.holdsOfTexts text value) :=
    holds_text hmetafield hpath
  rw [evaluate_eq_ok_iff, failure?_eq_none_iff, isMetBy_havingValue, isMet, hholds]
  refine ⟨⟨hd.symm, fun c hc => ?_⟩, rfl⟩
  rw [List.mem_singleton.mp hc]
  refine ⟨fun m hm => ?_, _, hholds⟩
  rw [FieldRef.known?, hmetafield] at hm
  cases hm

end SearchExpression

/-- A simple field whose path resolves to itself can be queried if the names are plain and no
identifier in the path begins with an underscore. -/
theorem isQueryable_of_plain (hlaid : t.IsLaidOut) (hne : t.sid ≠ "") (hsid : IsPlainName t.sid)
    (hpath : IsPlainName path) (hmetafield : (FieldRef.ofText path).metafield = none)
    (hself : t.resolveAll path = [path]) (hfield : t.field? path = some field) :
    IsQueryable t path := by
  intro value hvalue
  refine ⟨?_, (SearchExpression.isSound_havingValue hvalue hmetafield hself hfield).isValid,
    fun convention d hd hdotFree =>
      ⟨_, SearchExpression.evaluate_havingValue hmetafield hself hd, ?_⟩⟩
  · rw [← SearchExpression.text_havingValue]
    exact (SearchExpression.isExpressible_havingValue hne hsid hpath).read_text
  · have htype : IsDotFree d.documentType := hd ▸ hlaid.sid
    rw [List.any_eq_true]
    simp only [SearchExpression.holdsOfTexts_equal_iff, Document.mem_textsAt_iff htype hdotFree]
    constructor
    · rintro ⟨text, ⟨entry, hentry, hpath, hcontent⟩, hupper⟩
      exact ⟨entry, hentry, text, hpath, hcontent, hupper⟩
    · rintro ⟨entry, hentry, text, hpath, hcontent, hupper⟩
      exact ⟨text, ⟨entry, hentry, hpath, hcontent⟩, hupper⟩

/-- A field that can be queried names no metafield: those that are valid on a field compare with
numbers or ask for what lies above it, and the name of the package is not a text of the field. -/
theorem metafield_of_isQueryable (hlaid : t.IsLaidOut) {e : Element} (he : e ∈ t.elements)
    (h : IsQueryable t e.path) : (FieldRef.ofText e.path).metafield = none := by
  have not_number : ¬∃ n,
      Number.readInteger? (.unsigned 64) (Text.trim "x").toList = some n := by
    have hnone : Number.readInteger? (.unsigned 64) (Text.trim "x").toList = none := by decide
    rw [hnone]
    rintro ⟨n, ⟨⟩⟩
  by_contra hmetafield
  obtain ⟨-, hvalid, hanswers⟩ := h "x" (by decide)
  obtain ⟨target, hresolves, hsuits⟩ :=
    (SearchExpression.isSound_of_isValid hvalid).conditions _ (List.mem_singleton_self _)
  cases hresolves with
  | text path simple hpath hnone hsimple => exact hmetafield hnone
  | metafield path name m hpath hname hknown hallowed =>
    have hinside := FieldRef.isInside_path hname
    cases m with
    | asValue =>
      have houter := hlaid.mem_resolveAll_of_isInside he hinside
      rw [hpath, List.mem_singleton] at houter
      have hsimple := hallowed.simple rfl (by decide)
      rw [← houter, hlaid.field?_of_isInside he hinside] at hsimple
      cases hsimple
    | count => exact not_number (hsuits.number (.inl rfl))
    | attachmentCount => exact not_number (hsuits.number (.inr rfl))
    | packageName =>
      obtain ⟨answer, hanswer, hiff⟩ := hanswers .point
        { documentType := t.sid, packageName := "x" } rfl (List.forall_mem_nil _)
      have hmet := (SearchExpression.evaluate_eq_ok_iff.mp hanswer).2
      rw [SearchExpression.isMetBy_havingValue, isMet] at hmet
      simp only [Condition.holds, hname, hknown] at hmet
      obtain ⟨entry, hentry, -⟩ := hiff.mp hmet.symm
      cases hentry
    | _ => exact absurd (hallowed.storage rfl) Bool.false_ne_true

/-- Of a document type that was built, a simple field whose path resolves to itself alone can be
queried exactly if brackets hold the names of the type and the path as they are, and no identifier
in the path begins with an underscore. -/
theorem isQueryable_iff {definition : DocumentTypeDefinition} {t : DocumentType}
    (hbuild : DocumentType.build definition = .ok t) {e : Element} (he : e ∈ t.elements)
    {field : SimpleField} (hfield : e.field? = some field)
    (hself : t.resolve e.path true = .ok [e.path]) :
    IsQueryable t e.path ↔
      IsPlainName t.sid ∧ IsPlainName e.path ∧
        ∀ sid ∈ (segments e.path).tail, Text.startsWith sid "_" = false := by
  have hlaid := DocumentType.isLaidOut_of_build hbuild
  rw [← FieldRef.metafield_eq_none_iff]
  constructor
  · intro h
    have hmetafield := metafield_of_isQueryable hlaid he h
    have hexpressible := isExpressible_of_read (h "x" (by decide)).1
    exact ⟨hexpressible.source, hexpressible.fields _ (List.mem_singleton_self _), hmetafield⟩
  · rintro ⟨hsid, hpath, hmetafield⟩
    have hne := DocumentType.sid_ne_empty_of_build hbuild
    have hfound : t.field? e.path = some field := by
      rw [DocumentType.field?, hlaid.element?_path he, Option.bind_some, hfield]
    exact isQueryable_of_plain hlaid hne hsid hpath hmetafield
      (DocumentType.resolve_eq_ok_singleton_iff.mp hself) hfound

/-- The pictured codes of a site can be queried. -/
theorem isQueryable_RSEC :
    ∃ e ∈ siteType.elements, e.path = "SI.RV.RSE.RSEC" ∧ (∃ field, e.field? = some field) ∧
      siteType.resolve e.path true = .ok [e.path] ∧ IsQueryable siteType e.path := by
  obtain ⟨e, hfound⟩ : ∃ e, siteType.element? "SI.RV.RSE.RSEC" = some e :=
    Option.isSome_iff_exists.mp (by rfl)
  have he : e ∈ siteType.elements := List.mem_of_find?_eq_some hfound
  have hpath : e.path = "SI.RV.RSE.RSEC" := DocumentType.IsLaidOut.path_of_element? hfound
  obtain ⟨field, hfield⟩ : ∃ field, siteType.field? "SI.RV.RSE.RSEC" = some field :=
    Option.isSome_iff_exists.mp (by rfl)
  rw [DocumentType.field?, hfound, Option.bind_some] at hfield
  have hself : siteType.resolve e.path true = .ok [e.path] := by
    rw [hpath]
    rfl
  have hplain : IsPlainName siteType.sid ∧ IsPlainName e.path ∧
      ∀ sid ∈ (segments e.path).tail, Text.startsWith sid "_" = false := by
    rw [hpath]
    decide
  exact ⟨e, he, hpath, ⟨field, hfield⟩, hself,
    (isQueryable_iff build_siteDefinition he hfield hself).mpr hplain⟩

/-- A definition of sites with an identifier that begins with an underscore. -/
def underscoredDefinition : DocumentTypeDefinition where
  sid := "SI"
  paragraphs := [.group { sid := "_CD" } [.leaf { sid := "TSK" }]]

/-- The document type of such sites. -/
def underscoredType : DocumentType where
  sid := "SI"
  label := ""
  compliant := true
  author := none
  version := none
  standardVersion := none
  publicByDefault := false
  elements := layoutAll ⟨none, "SI", false, 0⟩ underscoredDefinition.paragraphs

/-- The path of the field is complete and resolves to itself, but the query for it is refused: what
it names is read as a metafield. -/
theorem underscored_field_is_refused :
    DocumentType.build underscoredDefinition = .ok underscoredType ∧
      (∃ field, underscoredType.field? "SI._CD.TSK" = some field) ∧
      underscoredType.resolve "SI._CD.TSK" true = .ok ["SI._CD.TSK"] ∧
      SearchExpression.read .strict (fieldQuery "SI" "SI._CD.TSK" "OA") =
        .ok (.havingValue "SI" "SI._CD.TSK" "OA") ∧
      (SearchExpression.havingValue "SI" "SI._CD.TSK" "OA").findings underscoredType {} =
        [.unknownMetafield "_CD.TSK"] := by
  have hexpressible : (SearchExpression.havingValue "SI" "SI._CD.TSK" "OA").IsExpressible :=
    SearchExpression.isExpressible_havingValue (by decide) (by decide) (by decide)
  refine ⟨by rfl, Option.isSome_iff_exists.mp (by rfl), by rfl, ?_, by rfl⟩
  rw [← SearchExpression.text_havingValue]
  exact hexpressible.read_text

end Query

end CatalogRecords
