import CatalogRecords.Proofs.Schema.Built

/-!
# What is wrong with a definition

Everything that a definition breaks can be listed without building anything: the elements in
depth-first order, and of each what is wrong with it where it stands. Building reports the first of
these. It looks for a complete path among those it has met, wherever they are, while the list asks
only what comes before an element beside it; the two agree because identifiers without dots keep
apart what lies in different places. That is known only as long as nothing was wrong so far, and it
is only then that it is used.
-/

namespace CatalogRecords

open ElementDefinition

/-! Lists of errors. -/

/-- An error where something does not hold. -/
def errorUnless (holds : Bool) (error : SchemaError) : List SchemaError :=
  if holds then [] else [error]

/-- No error is given exactly where the rule is kept. -/
theorem errorUnless_eq_nil_iff {holds : Bool} {error : SchemaError} :
    errorUnless holds error = [] ↔ holds = true := by
  cases holds <;> simp [errorUnless]

/-- The one error that can be given is that of the rule, where it is not kept. -/
theorem mem_errorUnless_iff {holds : Bool} {error other : SchemaError} :
    other ∈ errorUnless holds error ↔ holds = false ∧ other = error := by
  cases holds <;> simp [errorUnless]

/-- The first of some errors, or a result if there are none. -/
def report {α : Type} (errors : List SchemaError) (result : α) : Except SchemaError α :=
  match errors with
  | [] => .ok result
  | error :: _ => .error error

variable {α β : Type}

/-- One step after the other reports the errors of both, if the second step is as it should be after
a first one without errors. -/
theorem report_bind {errors others : List SchemaError} {middle : α} {result : β}
    {f : α → Except SchemaError β} (h : errors = [] → f middle = report others result) :
    report errors middle >>= f = report (errors ++ others) result := by
  cases errors with
  | nil => exact h rfl
  | cons error errors => rfl

/-- What is passed on between two checks does not bear on the report. -/
theorem report_bind_ok (errors : List SchemaError) (middle : α) (result : β) :
    (report errors middle >>= fun _ => .ok result) = report errors result := by
  cases errors <;> rfl

/-- A report is a success if there are no errors. -/
theorem report_eq_ok_iff {errors : List SchemaError} {result other : α} :
    report errors result = .ok other ↔ errors = [] ∧ result = other := by
  cases errors with
  | nil => simp [report]
  | cons error errors => simp [report]

/-- A report fails with the first of its errors. -/
theorem report_eq_error_iff {errors : List SchemaError} {result : α} {error : SchemaError} :
    report errors result = .error error ↔ errors.head? = some error := by
  cases errors with
  | nil => simp [report]
  | cons first errors => simp [report]

/-! Elements where they stand. -/

/-- An element where a definition has it: the path of what it is in, whether it is a paragraph, and
the elements beside it that come before it. -/
structure Occurrence where
  parentPath : String
  isParagraph : Bool
  before : List ElementDefinition
  definition : ElementDefinition

/-- The identifiers of elements. -/
def sidsOf (ds : List ElementDefinition) : List String := ds.map fun d => d.attributes.sid

namespace Occurrence

variable (o : Occurrence)

/-- The identifier of the element. -/
def sid : String := o.definition.attributes.sid

/-- The complete path of the element. -/
def path : String := childPath o.parentPath o.sid

/-- Whether the element holds others. -/
def isContainer : Bool := o.isParagraph || o.definition.isGroup

/-- What is wrong with the attributes of a simple field. -/
def fieldViolations [PatternEngine] (o : Occurrence) : List SchemaError :=
  let a := o.definition.attributes
  errorUnless (!a.fixedLength || a.length != 0) (.missingFixedLength o.path) ++
    errorUnless (compiles compileWhole? a.validationPattern) (.invalidPattern o.path) ++
    errorUnless (compiles Pattern.compile? a.extractionPattern) (.invalidPattern o.path)

/-- What is wrong with the attributes of an element that holds others. -/
def containerViolations : List SchemaError :=
  (o.definition.attributes.firstFieldAttribute?.map (.containerAttribute o.path)).toList

/-- What is wrong with the element. -/
def violations [PatternEngine] (o : Occurrence) : List SchemaError :=
  errorUnless (isSid o.sid) (.invalidSid o.sid) ++
    errorUnless (!(sidsOf o.before).contains o.sid) (.duplicatePath o.path) ++
    if o.isContainer then o.containerViolations else o.fieldViolations

/-- An error names the element: by its identifier if that is what is wrong, and by its complete path
otherwise. -/
def IsNamedIn : SchemaError → Prop
  | .invalidSid sid => sid = o.sid
  | .duplicatePath path => path = o.path
  | .invalidPattern path => path = o.path
  | .containerAttribute path _ => path = o.path
  | .missingFixedLength path => path = o.path

variable {o}

/-- The error of an element that holds others is about the first attribute of simple fields it
sets. -/
theorem mem_containerViolations_iff {error : SchemaError} : error ∈ o.containerViolations ↔
    ∃ setting, o.definition.attributes.firstFieldAttribute? = some setting ∧
      .containerAttribute o.path setting = error := by
  rw [containerViolations, Option.mem_toList, Option.map_eq_some_iff]

/-- The errors of a simple field are a missing length and a pattern that does not compile. -/
theorem mem_fieldViolations [PatternEngine] {error : SchemaError} (h : error ∈ o.fieldViolations) :
    error = .missingFixedLength o.path ∨ error = .invalidPattern o.path := by
  rw [fieldViolations] at h
  simp only [List.mem_append, mem_errorUnless_iff] at h
  rcases h with (⟨-, h⟩ | ⟨-, h⟩) | ⟨-, h⟩
  · exact Or.inl h
  · exact Or.inr h
  · exact Or.inr h

/-- What is wrong with an element: its identifier, its path or its attributes. -/
theorem mem_violations_cases [PatternEngine] {error : SchemaError} (h : error ∈ o.violations) :
    error = .invalidSid o.sid ∨
      (error = .duplicatePath o.path ∧ o.sid ∈ sidsOf o.before) ∨
      (∃ setting, error = .containerAttribute o.path setting) ∨
      error = .missingFixedLength o.path ∨ error = .invalidPattern o.path := by
  rw [violations, List.mem_append, List.mem_append, mem_errorUnless_iff, mem_errorUnless_iff,
    Bool.not_eq_false', List.contains_iff_mem] at h
  rcases h with (⟨-, h⟩ | ⟨hmem, h⟩) | h
  · exact Or.inl h
  · exact Or.inr (Or.inl ⟨h, hmem⟩)
  · split at h
    · obtain ⟨setting, -, h⟩ := mem_containerViolations_iff.mp h
      exact Or.inr (Or.inr (Or.inl ⟨setting, h.symm⟩))
    · exact Or.inr (Or.inr (Or.inr (mem_fieldViolations h)))

/-- Whatever is wrong with an element names it. -/
theorem isNamedIn_of_mem_violations [PatternEngine] {error : SchemaError}
    (h : error ∈ o.violations) : o.IsNamedIn error := by
  rcases mem_violations_cases h with rfl | ⟨rfl, -⟩ | ⟨setting, rfl⟩ | rfl | rfl <;> rfl

/-- A path comes twice only where an element beside has the same identifier. -/
theorem of_duplicatePath_mem_violations [PatternEngine] {path : String}
    (h : .duplicatePath path ∈ o.violations) : o.sid ∈ sidsOf o.before := by
  rcases mem_violations_cases h with h | ⟨-, hmem⟩ | ⟨setting, h⟩ | h | h
  · cases h
  · exact hmem
  · cases h
  · cases h
  · cases h

/-- Nothing is wrong with an element that has an identifier of its own and only attributes of its
kind. -/
theorem violations_eq_nil_iff [PatternEngine] :
    o.violations = [] ↔ (isSid o.sid = true ∧ o.sid ∉ sidsOf o.before) ∧
      (if o.isContainer then o.containerViolations else o.fieldViolations) = [] := by
  rw [violations, List.append_eq_nil_iff, List.append_eq_nil_iff, errorUnless_eq_nil_iff,
    errorUnless_eq_nil_iff, Bool.not_eq_true', ← List.contains_iff_mem, Bool.not_eq_true]

end Occurrence

mutual

/-- A definition and all definitions inside it, each where it stands and before those that it
holds. -/
def ElementDefinition.occurrences (parentPath : String) (isParagraph : Bool)
    (before : List ElementDefinition) : ElementDefinition → List Occurrence
  | .leaf a => [⟨parentPath, isParagraph, before, .leaf a⟩]
  | .group a fields =>
    ⟨parentPath, isParagraph, before, .group a fields⟩ ::
      occurrencesIn (childPath parentPath a.sid) false [] fields

/-- Definitions one after the other, each with all definitions inside it. -/
def occurrencesIn (parentPath : String) (isParagraph : Bool) (before : List ElementDefinition) :
    List ElementDefinition → List Occurrence
  | [] => []
  | d :: ds =>
    d.occurrences parentPath isParagraph before ++
      occurrencesIn parentPath isParagraph (before ++ [d]) ds

end

/-- A definition comes before all that it holds. -/
theorem occurrences_eq (parentPath : String) (isParagraph : Bool) (before : List ElementDefinition)
    (d : ElementDefinition) :
    d.occurrences parentPath isParagraph before =
      ⟨parentPath, isParagraph, before, d⟩ ::
        occurrencesIn (childPath parentPath d.attributes.sid) false [] d.fields := by
  cases d with
  | leaf a => rw [occurrences, fields, occurrencesIn]
  | group a fs => rw [occurrences, fields, attributes]

mutual

/-- All that a definition holds lies inside it. -/
theorem prefix_of_mem_occurrences {parentPath : String} {isParagraph : Bool}
    {before : List ElementDefinition} {o : Occurrence} : (d : ElementDefinition) →
    o ∈ d.occurrences parentPath isParagraph before →
    segments (childPath parentPath d.attributes.sid) <+: segments o.path
  | .leaf a, ho => by
    rw [occurrences, List.mem_singleton] at ho
    rw [ho]
    exact List.prefix_rfl
  | .group a fs, ho => by
    rw [occurrences] at ho
    rcases List.mem_cons.mp ho with rfl | ho
    · exact List.prefix_rfl
    · exact (isInside_iff_continues.mp (isInside_of_mem_occurrencesIn fs ho)).1

/-- What stands under a path lies inside that path. -/
theorem isInside_of_mem_occurrencesIn {parentPath : String} {isParagraph : Bool}
    {before : List ElementDefinition} {o : Occurrence} : (ds : List ElementDefinition) →
    o ∈ occurrencesIn parentPath isParagraph before ds → isInside o.path parentPath = true
  | d :: ds, ho => by
    rw [occurrencesIn] at ho
    rcases List.mem_append.mp ho with ho | ho
    · exact isInside_of_prefix_childPath (prefix_of_mem_occurrences d ho)
    · exact isInside_of_mem_occurrencesIn ds ho

end

/-! The paths met. -/

/-- Of what lies inside a path, the paths met are those of some elements and of what these hold. -/
structure Frontier (seen : List String) (parentPath : String) (before : List ElementDefinition) :
    Prop where
  isDotFree : ∀ x ∈ before, IsDotFree x.attributes.sid
  own : ∀ x ∈ before, childPath parentPath x.attributes.sid ∈ seen
  inside : ∀ path ∈ seen, isInside path parentPath = true →
    ∃ x ∈ before, segments (childPath parentPath x.attributes.sid) <+: segments path

namespace Frontier

variable {seen : List String} {parentPath sid : String} {before : List ElementDefinition}

/-- Before the first definition no path has been met. -/
theorem nil (parentPath : String) : Frontier [] parentPath [] :=
  ⟨fun _ h => absurd h List.not_mem_nil, fun _ h => absurd h List.not_mem_nil,
    fun _ h => absurd h List.not_mem_nil⟩

/-- Whatever lies inside an element was met with an element of the same identifier. -/
theorem mem_sidsOf (h : Frontier seen parentPath before) (hsid : IsDotFree sid) {path : String}
    (hpath : path ∈ seen) (hcontinues : segments (childPath parentPath sid) <+: segments path) :
    sid ∈ sidsOf before := by
  obtain ⟨x, hx, hbegins⟩ := h.inside path hpath (isInside_of_prefix_childPath hcontinues)
  rw [eq_of_prefix_childPath hsid (h.isDotFree x hx) hcontinues hbegins]
  exact List.mem_map_of_mem hx

/-- The path of an element was met exactly if an element beside it has its identifier. -/
theorem mem_iff (h : Frontier seen parentPath before) (hsid : IsDotFree sid) :
    childPath parentPath sid ∈ seen ↔ sid ∈ sidsOf before := by
  constructor
  · exact fun hpath => h.mem_sidsOf hsid hpath List.prefix_rfl
  · intro hmem
    obtain ⟨x, hx, rfl⟩ := List.mem_map.mp hmem
    exact h.own x hx

/-- Inside a new element nothing was met. -/
theorem descend (h : Frontier seen parentPath before) (hsid : IsDotFree sid)
    (hnew : sid ∉ sidsOf before) :
    Frontier (childPath parentPath sid :: seen) (childPath parentPath sid) [] := by
  refine ⟨fun _ h => absurd h List.not_mem_nil, fun _ h => absurd h List.not_mem_nil,
    fun path hpath hinside => ?_⟩
  rcases List.mem_cons.mp hpath with rfl | hpath
  · exact absurd hinside (not_isInside_self _)
  · exact absurd (h.mem_sidsOf hsid hpath (isInside_iff_continues.mp hinside).1) hnew

/-- After an element and all that it holds comes what is beside it. -/
theorem next (h : Frontier seen parentPath before) {isParagraph : Bool} {d : ElementDefinition}
    (hsid : IsDotFree d.attributes.sid) :
    Frontier (((d.occurrences parentPath isParagraph before).map Occurrence.path).reverse ++ seen)
      parentPath (before ++ [d]) where
  isDotFree := by
    rw [List.forall_mem_append, List.forall_mem_singleton]
    exact ⟨h.isDotFree, hsid⟩
  own := by
    rw [List.forall_mem_append, List.forall_mem_singleton]
    refine ⟨fun x hx => List.mem_append_right _ (h.own x hx), List.mem_append_left _ ?_⟩
    rw [List.mem_reverse, occurrences_eq, List.map_cons]
    exact List.mem_cons_self
  inside path hpath hinside := by
    rcases List.mem_append.mp hpath with hpath | hpath
    · obtain ⟨o, ho, rfl⟩ := List.mem_map.mp (List.mem_reverse.mp hpath)
      exact ⟨d, List.mem_append_right _ List.mem_cons_self, prefix_of_mem_occurrences d ho⟩
    · obtain ⟨x, hx, hbegins⟩ := h.inside path hpath hinside
      exact ⟨x, List.mem_append_left _ hx, hbegins⟩

end Frontier

/-! The first error. -/

/-- Checking an identifier reports whether it is one. -/
theorem checkSid_eq_report (sid : String) :
    checkSid sid = report (errorUnless (isSid sid) (.invalidSid sid)) () := by
  rw [checkSid, errorUnless]
  split <;> rfl

/-- Checking an element that holds others reports what is wrong with it as one. -/
theorem checkContainer_eq_report (o : Occurrence) :
    checkContainer o.definition.attributes o.path = report o.containerViolations () := by
  rw [checkContainer, Occurrence.containerViolations]
  cases o.definition.attributes.firstFieldAttribute? <;> rfl

/-- Checking a simple field reports what is wrong with it as one. -/
theorem checkField_eq_report [PatternEngine] (o : Occurrence) :
    checkField o.definition.attributes o.path = report o.fieldViolations () := by
  rw [checkField, Occurrence.fieldViolations]
  cases compiles compileWhole? o.definition.attributes.validationPattern <;>
    cases compiles Pattern.compile? o.definition.attributes.extractionPattern <;>
    cases o.definition.attributes.fixedLength <;>
    by_cases hlength : o.definition.attributes.length = 0 <;>
    simp [errorUnless, report, hlength]

/-- An element is checked in three steps: its identifier, its path and its attributes. -/
theorem checkElement_eq [PatternEngine] (parentPath : String) (isContainer : Bool)
    (a : ElementAttributes) (seen : List String) :
    checkElement parentPath isContainer a seen =
      checkSid a.sid >>= fun _ =>
        (if seen.contains (childPath parentPath a.sid) then
          .error (.duplicatePath (childPath parentPath a.sid)) else .ok ()) >>= fun _ =>
          (if isContainer then checkContainer a (childPath parentPath a.sid)
            else checkField a (childPath parentPath a.sid)) >>= fun _ =>
            .ok (childPath parentPath a.sid :: seen) := by
  rw [checkElement]
  refine bind_congr fun _ => ?_
  dsimp only
  cases seen.contains (childPath parentPath a.sid) <;> cases isContainer <;> rfl

/-- Checking an element reports the first error there is with it where it stands. -/
theorem checkElement_eq_report [PatternEngine] (o : Occurrence) {seen : List String}
    (h : Frontier seen o.parentPath o.before) :
    checkElement o.parentPath o.isContainer o.definition.attributes seen =
      report o.violations (o.path :: seen) := by
  have hsteps : checkElement o.parentPath o.isContainer o.definition.attributes seen =
      checkSid o.sid >>= fun _ =>
        (if seen.contains o.path then .error (.duplicatePath o.path) else .ok ()) >>= fun _ =>
          (if o.isContainer then checkContainer o.definition.attributes o.path
            else checkField o.definition.attributes o.path) >>= fun _ => .ok (o.path :: seen) :=
    checkElement_eq _ _ _ _
  have hattributes : (if o.isContainer then checkContainer o.definition.attributes o.path
      else checkField o.definition.attributes o.path) =
      report (if o.isContainer then o.containerViolations else o.fieldViolations) () := by
    split
    · exact checkContainer_eq_report o
    · exact checkField_eq_report o
  rw [hsteps, checkSid_eq_report, Occurrence.violations, List.append_assoc]
  refine report_bind fun hsid => ?_
  have hcontains : seen.contains o.path = (sidsOf o.before).contains o.sid := by
    rw [Bool.eq_iff_iff, List.contains_iff_mem, List.contains_iff_mem]
    exact h.mem_iff (isDotFree_of_isSid (errorUnless_eq_nil_iff.mp hsid))
  have hpath : (if seen.contains o.path then Except.error (.duplicatePath o.path) else .ok ()) =
      report (errorUnless (!(sidsOf o.before).contains o.sid) (.duplicatePath o.path)) () := by
    rw [hcontains]
    cases (sidsOf o.before).contains o.sid <;> rfl
  rw [hpath]
  refine report_bind fun _ => ?_
  rw [hattributes, report_bind_ok]

mutual

/-- Checking a definition and all that it holds reports the first error there is. -/
theorem check_eq_report [PatternEngine] {parentPath : String} {isParagraph : Bool}
    {seen : List String} {before : List ElementDefinition} : (d : ElementDefinition) →
    Frontier seen parentPath before →
    d.check parentPath isParagraph seen =
      report ((d.occurrences parentPath isParagraph before).flatMap Occurrence.violations)
        (((d.occurrences parentPath isParagraph before).map Occurrence.path).reverse ++ seen)
  | .leaf a, h => by
    have helement := checkElement_eq_report ⟨parentPath, isParagraph, before, .leaf a⟩ h
    rw [Occurrence.isContainer, isGroup, Bool.or_false] at helement
    rw [check, occurrences, List.flatMap_singleton]
    exact helement
  | .group a fs, h => by
    have helement := checkElement_eq_report ⟨parentPath, isParagraph, before, .group a fs⟩ h
    rw [Occurrence.isContainer, isGroup, Bool.or_true, attributes] at helement
    rw [check, occurrences, List.flatMap_cons, helement]
    refine report_bind fun hnone => ?_
    obtain ⟨⟨hsid, hnew⟩, -⟩ := Occurrence.violations_eq_nil_iff.mp hnone
    rw [List.map_cons, List.reverse_cons, List.append_assoc]
    exact checkAll_eq_report fs (h.descend (isDotFree_of_isSid hsid) hnew)

/-- Checking definitions one after the other reports the first error there is. -/
theorem checkAll_eq_report [PatternEngine] {parentPath : String} {isParagraph : Bool}
    {seen : List String} {before : List ElementDefinition} : (ds : List ElementDefinition) →
    Frontier seen parentPath before →
    checkAll parentPath isParagraph seen ds =
      report ((occurrencesIn parentPath isParagraph before ds).flatMap Occurrence.violations)
        (((occurrencesIn parentPath isParagraph before ds).map Occurrence.path).reverse ++ seen)
  | [], h => by
    rw [checkAll, occurrencesIn]
    rfl
  | d :: ds, h => by
    rw [checkAll, check_eq_report d h, occurrencesIn, List.flatMap_append]
    refine report_bind fun hnone => ?_
    have hfirst : (Occurrence.mk parentPath isParagraph before d).violations = [] := by
      rw [occurrences_eq, List.flatMap_cons, List.append_eq_nil_iff] at hnone
      exact hnone.1
    obtain ⟨⟨hsid, -⟩, -⟩ := Occurrence.violations_eq_nil_iff.mp hfirst
    rw [List.map_append, List.reverse_append, List.append_assoc]
    exact checkAll_eq_report ds (h.next (isDotFree_of_isSid hsid))

end

namespace DocumentTypeDefinition

/-- The elements of a document type in depth-first order, each where it stands. -/
def occurrences (d : DocumentTypeDefinition) : List Occurrence :=
  occurrencesIn d.sid true [] d.paragraphs

/-- All that is wrong with the definition of a document type. -/
def violations [PatternEngine] (d : DocumentTypeDefinition) : List SchemaError :=
  errorUnless (isSid d.sid) (.invalidSid d.sid) ++ d.occurrences.flatMap Occurrence.violations

end DocumentTypeDefinition

/-- Building a document type reports the first error there is. -/
theorem DocumentType.build_eq_report [PatternEngine] (d : DocumentTypeDefinition) :
    ∃ t, build d = report d.violations t := by
  rw [build, checkSid_eq_report, checkAll_eq_report d.paragraphs (Frontier.nil d.sid)]
  generalize DocumentType.mk _ _ _ _ _ _ _ _ = t
  refine ⟨t, report_bind fun _ => ?_⟩
  rw [report_bind_ok]
  rfl

end CatalogRecords
