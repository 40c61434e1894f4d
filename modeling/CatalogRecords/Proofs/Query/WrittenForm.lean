import CatalogRecords.Proofs.Data.Records
import CatalogRecords.Query.Checking
import CatalogRecords.Query.Encoding
import CatalogRecords.Query.Evaluation

/-!
# Search expressions as records

An expression is read from its record as it was written. A criterion is told from the others by the
name of its one entry alone, so that a group is never taken for a condition, whatever it holds; and
an operator that is left out is none, wherever it stands.
-/

namespace CatalogRecords.Query

open Data

/-- The fields of a condition's record. -/
def conditionFields (op : Option BooleanOperator) (test : Condition) :
    List (String × Option Data) := [
  ("combinator", op.map fun op => .text op.word), ("field", some (.text test.field)),
  ("comparator", some (.text test.comparator.word)), ("literal", some (.text test.literal))]

/-- The fields of a group's record. -/
def groupFields (op : Option BooleanOperator) (members : List Data) :
    List (String × Option Data) := [
  ("combinator", op.map fun op => .text op.word), ("children", some (.list members))]

/-- An operator is read as it was written. -/
theorem operatorOf?_eq {whole : Data} {r : Record whole} {fields : List (String × Option Data)}
    (h : r.Holds fields) {op : Option BooleanOperator}
    (hfield : ("combinator", op.map fun op => .text op.word) ∈ fields) :
    operatorOf? r = some op :=
  h.optionalDefault (fun value => value.word? .json BooleanOperator.words)
    (fun op => .text op.word) hfield fun op _ => ⟨op.lookup_word, rfl⟩

/-- A condition is written under its name, as the map of its fields. -/
theorem Criterion.encode_condition (op : Option BooleanOperator) (test : Condition) :
    (Criterion.condition op test).encode =
      .map [("condition", .map (written (conditionFields op test)))] := by
  cases op <;> rfl

/-- Criteria are written as the map of their operator and members. -/
theorem Criteria.encode_eq (c : Criteria) :
    c.encode = .map (written (groupFields c.operator (encodeCriteria c.members))) := by
  obtain ⟨op, members⟩ := c
  cases op <;> rfl

/-- A group is written under its name, as the criteria in it. -/
theorem Criterion.encode_group (op : Option BooleanOperator) (members : List Criterion) :
    (Criterion.group op members).encode = .map [("group", (Criteria.mk op members).encode)] := by
  rfl

/-- A condition is read as it was written. -/
theorem decodeCondition?_written (op : Option BooleanOperator) (test : Condition) :
    decodeCondition? (.map (written (conditionFields op test))) = some (.condition op test) := by
  obtain ⟨r, hr, h⟩ := exists_record?_of_written .json
    ["combinator", "field", "comparator", "literal"]
    (Eq.refl (Data.map (written (conditionFields op test)))) rfl (by decide)
  have hop : operatorOf? r = some op := operatorOf?_eq h (by simp [conditionFields])
  have hfield : r.required "field" (fun part => part.1.text?) = some test.field :=
    h.required_text (by simp [conditionFields])
  have hcomparator : r.required "comparator" (fun part => part.1.word? .json Comparator.words) =
      some test.comparator :=
    h.required_word (by simp [conditionFields]) test.comparator.lookup_word
  have hliteral : r.required "literal" (fun part => part.1.text?) = some test.literal :=
    h.required_text (by simp [conditionFields])
  rw [decodeCondition?, hr]
  simp only [Option.bind_eq_bind, Option.bind_some, hop, hfield, hcomparator, hliteral]

/-- The members of a group are read like criteria by themselves. -/
theorem Criterion.decodeGroup?_eq (value : Data) :
    Criterion.decodeGroup? value = (value.record? .json ["combinator", "children"]).bind fun r =>
      (operatorOf? r).bind fun op =>
        (r.defaulted "children" [] fun part => part.1.list? .json Criterion.decode?).bind
          fun members => some ⟨op, members⟩ := by
  rw [Criterion.decodeGroup?]
  congr 1
  funext r
  congr 1
  funext op
  congr 1
  congr 1
  funext part
  rw [Data.list?]
  congr 1
  funext item
  rw [Criterion.decode?.eq_def]
  split <;> simp_all

/-- A group is read as it was written if its members are. -/
theorem Criteria.decode?_encode_of_members {c : Criteria}
    (hmembers : (encodeCriteria c.members).mapM Criterion.decode? = some c.members) :
    Criterion.decodeGroup? c.encode = some c := by
  obtain ⟨r, hr, h⟩ := exists_record?_of_written .json ["combinator", "children"] c.encode_eq rfl
    (by decide)
  have hop : operatorOf? r = some c.operator := operatorOf?_eq h (by simp [groupFields])
  have hchildren : r.defaulted "children" [] (fun part => part.1.list? .json Criterion.decode?) =
      some c.members := h.defaulted_list (by simp [groupFields]) hmembers
  rw [Criterion.decodeGroup?_eq, hr, Option.bind_some, hop, Option.bind_some, hchildren,
    Option.bind_some]

mutual

/-- A criterion is read as it was written. -/
theorem Criterion.decode?_encode : (c : Criterion) → Criterion.decode? c.encode = some c
  | .condition op test => by
    rw [Criterion.encode_condition, Criterion.decode?, decodeCondition?_written]
  | .group op members => by
    rw [Criterion.encode_group, Criterion.decode?,
      Criteria.decode?_encode_of_members (mapM_decode?_encodeCriteria members)]
    rfl

/-- A list of criteria is read as it was written. -/
theorem mapM_decode?_encodeCriteria : (cs : List Criterion) →
    (encodeCriteria cs).mapM Criterion.decode? = some cs
  | [] => rfl
  | c :: cs => by
    rw [encodeCriteria, List.mapM_cons, Criterion.decode?_encode c,
      mapM_decode?_encodeCriteria cs]
    rfl

end

/-- An ordering term is read as it was written. -/
theorem OrderingTerm.decode?_encode (term : OrderingTerm) :
    OrderingTerm.decode? term.encode = some term := by
  rfl

namespace SearchExpression

/-- The fields of an expression's record. -/
def fields (e : SearchExpression) : List (String × Option Data) := [
  ("select", some (ofTexts e.select)), ("source", some (.text e.source)),
  ("where", some e.criteria.encode),
  ("order_by", some (.list (e.orderBy.map OrderingTerm.encode)))]

/-- An expression is read from its record as it was written, so that it is answered, checked and
written as a text like the one that was written. -/
theorem written_expression_is_read (e : SearchExpression) :
    decode? e.encode = some e ∧
    (∀ t convention d, (decode? e.encode).map (fun read => read.evaluate t convention d) =
      some (e.evaluate t convention d)) ∧
    (∀ t options, (decode? e.encode).map (fun read => read.findings t options) =
      some (e.findings t options)) ∧
    (decode? e.encode).map text = some e.text := by
  obtain ⟨r, hr, h⟩ := exists_record?_of_written .json ["select", "source", "where", "order_by"]
    (show e.encode = .map (written e.fields) from rfl) rfl (by decide)
  have hselect : r.defaulted "select" [] (fun part => part.1.list? .json Data.text?) =
      some e.select :=
    have hfield : ("select", some (.list (e.select.map .text))) ∈ e.fields := by
      simp [fields, ofTexts]
    h.defaulted_list hfield (mapM_map_eq_some fun _ _ => rfl)
  have hsource : r.required "source" (fun part => part.1.text?) = some e.source :=
    h.required_text (by simp [fields])
  have hcriteria : r.defaulted "where" {} (fun part => Criteria.decode? part.1) =
      some e.criteria :=
    (h.defaulted Criteria.decode? (by simp [fields])).trans
      (Criteria.decode?_encode_of_members (mapM_decode?_encodeCriteria e.criteria.members))
  have horder : r.defaulted "order_by" [] (fun part => part.1.list? .json OrderingTerm.decode?) =
      some e.orderBy :=
    h.defaulted_list (by simp [fields]) (mapM_map_eq_some fun term _ => term.decode?_encode)
  have hread : decode? e.encode = some e := by
    rw [decode?, hr]
    simp only [Option.bind_eq_bind, Option.bind_some, hselect, hsource, hcriteria, horder]
  rw [hread]
  exact ⟨rfl, fun _ _ _ => rfl, fun _ _ => rfl, rfl⟩

end SearchExpression

end CatalogRecords.Query
