import CatalogRecords.Proofs.Except
import CatalogRecords.Query.Reader

/-!
# What strict reading can do with a token

Strict reading has few ways to go on. `CriteriaStep` lists those of the criteria with all that must
hold for each of them: an operator only between conditions, a closing parenthesis only for a group
that is open and not empty, a token of a condition only in its place. Everything that is said of
strict reading follows from these steps.
-/

namespace CatalogRecords.Query

/-- Strict reading does not go on after an error. -/
theorem refuse_strict_ne_ok {α : Type} {error : ParseError} {otherwise a : α} :
    Reading.strict.refuse error otherwise ≠ .ok a := by
  intro h
  cases h

namespace CriteriaReader

/-- What a token can do to criteria that are read strictly. -/
inductive CriteriaStep (r : CriteriaReader) (token : Token) : CriteriaReader → Prop
  | join (op : BooleanOperator) (hpending : r.pending = none) (hfragment : r.fragment = [])
      (hop : token.kind.keyword? = some op.text ∧ (op = .and ∨ op = .or)) :
      CriteriaStep r token { r with pending := some op }
  | negate (hfragment : r.fragment = []) (hop : token.kind.keyword? = some "NOT") :
      CriteriaStep r token { r with pending := BooleanOperator.negated r.pending }
  | opening (hfragment : r.fragment = []) (hkind : token.kind = .opening) :
      CriteriaStep r token { opened := ⟨r.pending, token.offset, r.members⟩ :: r.opened }
  | closing (group : OpenGroup) (outer : List OpenGroup) (hfragment : r.fragment = [])
      (hpending : r.pending = none) (hkind : token.kind = .closing)
      (hopened : r.opened = group :: outer) (hne : r.members ≠ []) :
      CriteriaStep r token
        { opened := outer, members := group.before ++ [.group group.operator r.members] }
  | operand (hfits : misfit? r.fragment.length token.kind = none) :
      CriteriaStep r token (r.collect token)

variable {r r' : CriteriaReader} {token : Token}

/-- Strict reading goes on only where there is no part of a condition. -/
theorem eq_of_withoutFragment (h : r.withoutFragment .strict = .ok r') :
    r' = r ∧ r.fragment = [] := by
  rw [withoutFragment] at h
  split at h
  · rename_i hempty
    cases h
    exact ⟨rfl, List.isEmpty_iff.mp hempty⟩
  · exact absurd h refuse_strict_ne_ok

/-- Strict reading goes on only where no operator waits. -/
theorem eq_of_withoutPending (h : r.withoutPending .strict = .ok r') :
    r' = r ∧ r.pending = none := by
  rw [withoutPending] at h
  split at h
  · rename_i hnone
    cases h
    exact ⟨rfl, hnone⟩
  · exact absurd h refuse_strict_ne_ok

/-- An operator is read only between conditions. -/
theorem eq_of_join {op : BooleanOperator} (h : r.join .strict op token = .ok r') :
    r' = { r with pending := some op } ∧ r.pending = none ∧ r.fragment = [] := by
  rw [join] at h
  split at h
  · exact absurd h refuse_strict_ne_ok
  · rename_i hclear
    cases h
    simp only [Bool.or_eq_true, Bool.not_eq_true', not_or, Bool.not_eq_true,
      Option.isSome_eq_false_iff, Option.isNone_iff_eq_none, Bool.not_eq_false,
      List.isEmpty_iff] at hclear
    exact ⟨rfl, hclear⟩

/-- A negation is read only between conditions. -/
theorem eq_of_negate (h : r.negate .strict token = .ok r') :
    r' = { r with pending := BooleanOperator.negated r.pending } ∧ r.fragment = [] := by
  rw [negate] at h
  split at h
  · exact absurd h refuse_strict_ne_ok
  · rename_i hclear
    cases h
    simp only [Bool.not_eq_true', Bool.not_eq_false, List.isEmpty_iff] at hclear
    exact ⟨rfl, hclear⟩

/-- A group is opened only between conditions. -/
theorem eq_of_openGroup {offset : Nat} (h : r.openGroup .strict offset = .ok r') :
    r' = { opened := ⟨r.pending, offset, r.members⟩ :: r.opened } ∧ r.fragment = [] := by
  rw [openGroup] at h
  obtain ⟨clean, hclean, hopen⟩ := bind_eq_ok_iff.mp h
  obtain ⟨rfl, hfragment⟩ := eq_of_withoutFragment hclean
  cases hopen
  exact ⟨rfl, hfragment⟩

/-- A group is closed only if it is open and not empty, and between conditions. -/
theorem eq_of_closeGroup {offset : Nat} (h : r.closeGroup .strict offset = .ok r') :
    ∃ group outer, r' = { opened := outer, members := group.before ++
        [.group group.operator r.members] } ∧
      r.opened = group :: outer ∧ r.members ≠ [] ∧ r.fragment = [] ∧ r.pending = none := by
  rw [closeGroup] at h
  obtain ⟨clean, hclean, hsettle⟩ := bind_eq_ok_iff.mp h
  obtain ⟨settled, hsettled, hclose⟩ := bind_eq_ok_iff.mp hsettle
  obtain ⟨rfl, hfragment⟩ := eq_of_withoutFragment hclean
  obtain ⟨rfl, hpending⟩ := eq_of_withoutPending hsettled
  split at hclose
  · exact absurd hclose refuse_strict_ne_ok
  · rename_i group outer hopened
    split at hclose
    · exact absurd hclose refuse_strict_ne_ok
    · rename_i hne
      cases hclose
      exact ⟨group, outer, rfl, hopened, by simpa using hne, hfragment, hpending⟩

/-- Strict reading takes one of the steps. -/
theorem criteriaStep_of_read (h : r.read .strict token = .ok r') : CriteriaStep r token r' := by
  unfold CriteriaReader.read at h
  split at h
  · rename_i hop
    obtain ⟨rfl, hpending, hfragment⟩ := eq_of_join h
    exact .join .and hpending hfragment ⟨hop, .inl rfl⟩
  · rename_i hop
    obtain ⟨rfl, hpending, hfragment⟩ := eq_of_join h
    exact .join .or hpending hfragment ⟨hop, .inr rfl⟩
  · rename_i hop
    obtain ⟨rfl, hfragment⟩ := eq_of_negate h
    exact .negate hfragment hop
  · split at h
    · rename_i hkind
      obtain ⟨rfl, hfragment⟩ := eq_of_openGroup h
      exact .opening hfragment hkind
    · rename_i hkind
      obtain ⟨group, outer, rfl, hopened, hne, hfragment, hpending⟩ := eq_of_closeGroup h
      exact .closing group outer hfragment hpending hkind hopened hne
    · rw [readOperand] at h
      split at h
      · exact absurd h refuse_strict_ne_ok
      · rename_i hfits
        cases h
        exact .operand hfits

/-- Strict reading ends only where no group is open and nothing is left over. -/
theorem eq_of_finish {criteria : Criteria} (h : r.finish .strict = .ok criteria) :
    criteria = { members := r.members } ∧ r.opened = [] ∧ r.fragment = [] ∧ r.pending = none := by
  rw [finish] at h
  obtain ⟨clean, hclean, hsettle⟩ := bind_eq_ok_iff.mp h
  obtain ⟨settled, hsettled, hend⟩ := bind_eq_ok_iff.mp hsettle
  obtain ⟨rfl, hfragment⟩ := eq_of_withoutFragment hclean
  obtain ⟨rfl, hpending⟩ := eq_of_withoutPending hsettled
  split at hend
  · rename_i hopened
    cases hend
    rw [List.isEmpty_iff] at hopened
    exact ⟨by simp [outermost, hopened], hopened, hfragment, hpending⟩
  · exact absurd hend refuse_strict_ne_ok

end CriteriaReader

namespace OrderReader

/-- What a token can do to an order that is read strictly. -/
inductive OrderStep (r : OrderReader) (token : Token) : OrderReader → Prop
  | direct (before : List OrderingTerm) (last : OrderingTerm) (ascending : Bool)
      (hdirected : r.directed = false) (hterms : r.terms = before ++ [last]) :
      OrderStep r token
        { terms := before ++ [{ last with ascending := ascending }], directed := true }
  | term (field : String) (bracketed : Bool) (hkind : token.kind = .name field bracketed) :
      OrderStep r token { terms := r.terms ++ [⟨field, true⟩], directed := false }

variable {r r' : OrderReader} {token : Token}

/-- A direction is read only behind a term that has none yet. -/
theorem orderStep_of_direct {ascending : Bool} (h : r.direct .strict ascending token = .ok r') :
    OrderStep r token r' := by
  rw [direct] at h
  split at h
  · rename_i last hdirected hlast
    cases h
    obtain ⟨before, hterms⟩ := List.getLast?_eq_some_iff.mp hlast
    rw [hterms, List.dropLast_concat]
    exact .direct before last ascending hdirected hterms
  · exact absurd h refuse_strict_ne_ok

/-- Strict reading takes one of the steps. -/
theorem orderStep_of_read (h : r.read .strict token = .ok r') : OrderStep r token r' := by
  unfold OrderReader.read at h
  split at h
  · exact orderStep_of_direct h
  · exact orderStep_of_direct h
  · split at h
    · rename_i field bracketed hkind
      cases h
      exact .term field bracketed hkind
    · exact absurd h refuse_strict_ne_ok

end OrderReader

namespace ExpressionReader

/-- What a token can do to an expression that is read strictly. -/
inductive ExpressionStep (r : ExpressionReader) (token : Token) : ExpressionReader → Prop
  | begin (clause : Clause) (hclause : token.kind.keyword?.bind Clause.ofKeyword? = some clause)
      (hseen : clause ∉ r.seen) (hfirst : r.seen ≠ [] ∨ clause = .select) :
      ExpressionStep r token { r with clause := some clause, seen := clause :: r.seen }
  | select (name : String) (hclause : r.clause = some .select)
      (hkind : (token.kind = .star ∧ name = allFields) ∨
        ∃ bracketed, token.kind = .name name bracketed) :
      ExpressionStep r token { r with select := r.select ++ [name] }
  | source (name : String) (bracketed : Bool) (hclause : r.clause = some .source)
      (hkind : token.kind = .name name bracketed) (hsource : r.source = none) :
      ExpressionStep r token { r with source := some name }
  | criteria (criteria : CriteriaReader) (hclause : r.clause = some .criteria)
      (hstep : r.criteria.read .strict token = .ok criteria) :
      ExpressionStep r token { r with criteria := criteria }
  | order (order : OrderReader) (hclause : r.clause = some .orderBy)
      (hstep : r.order.read .strict token = .ok order) :
      ExpressionStep r token { r with order := order }

variable {r r' : ExpressionReader} {token : Token}

/-- A clause is begun only once, and SELECT before all others. -/
theorem eq_of_begin {clause : Clause} (h : r.begin .strict clause token = .ok r') :
    r' = { r with clause := some clause, seen := clause :: r.seen } ∧ clause ∉ r.seen ∧
      (r.seen ≠ [] ∨ clause = .select) := by
  rw [begin] at h
  split at h
  · exact absurd h refuse_strict_ne_ok
  · rename_i hseen
    split at h
    · exact absurd h refuse_strict_ne_ok
    · rename_i hfirst
      cases h
      refine ⟨rfl, by simpa using hseen, ?_⟩
      rw [Bool.not_eq_true, Bool.and_eq_false_iff, List.isEmpty_eq_false_iff,
        bne_eq_false_iff_eq] at hfirst
      exact hfirst

/-- Strict reading takes one of the steps. -/
theorem expressionStep_of_read (h : r.read .strict token = .ok r') : ExpressionStep r token r' := by
  unfold ExpressionReader.read at h
  split at h
  · rename_i clause hclause
    obtain ⟨rfl, hseen, hfirst⟩ := eq_of_begin h
    exact .begin clause hclause hseen hfirst
  · split at h
    · exact absurd h refuse_strict_ne_ok
    · rename_i hclause
      rw [readSelect] at h
      split at h
      · rename_i hkind
        cases h
        exact .select allFields hclause (.inl ⟨hkind, rfl⟩)
      · rename_i name bracketed hkind
        cases h
        exact .select name hclause (.inr ⟨bracketed, hkind⟩)
      · exact absurd h refuse_strict_ne_ok
    · rename_i hclause
      rw [readSource] at h
      split at h
      · rename_i name bracketed hkind
        split at h
        · exact absurd h refuse_strict_ne_ok
        · rename_i hsource
          cases h
          exact .source name bracketed hclause hkind (by simpa using hsource)
      · exact absurd h refuse_strict_ne_ok
    · rename_i hclause
      obtain ⟨criteria, hstep, rfl⟩ := map_eq_ok_iff.mp h
      exact .criteria criteria hclause hstep
    · rename_i hclause
      obtain ⟨order, hstep, rfl⟩ := map_eq_ok_iff.mp h
      exact .order order hclause hstep

/-- Strict reading ends with a document type, and with criteria that are complete. -/
theorem eq_of_finish {e : SearchExpression} (h : r.finish .strict = .ok e) :
    ∃ source, r.source = some source ∧ source ≠ "" ∧ ∃ criteria,
      r.criteria.finish .strict = .ok criteria ∧
        e = { select := r.select, source := source, criteria := criteria,
              orderBy := r.order.terms } := by
  rw [finish] at h
  split at h
  · cases h
  · rename_i hsource
    obtain ⟨criteria, hcriteria, hend⟩ := bind_eq_ok_iff.mp h
    cases hend
    cases hname : r.source with
    | none => simp [hname] at hsource
    | some source => exact ⟨source, rfl, by simpa [hname] using hsource, criteria, hcriteria, rfl⟩

end ExpressionReader

/-- The tokens of strict reading are those of the text. -/
theorem eq_tokens_of_tokenize {reading : Reading} {text : String} {ts : List Token}
    (h : tokenize reading text = .ok ts) : ts = tokens text := by
  unfold tokenize at h
  split at h
  · cases h
  · cases h
    rfl

/-- Reading a text is reading its tokens one after the other. -/
theorem exists_foldlM_of_read {reading : Reading} {text : String} {e : SearchExpression}
    (h : SearchExpression.read reading text = .ok e) :
    ∃ r, (tokens text).foldlM (ExpressionReader.read reading) {} = .ok r ∧
      r.finish reading = .ok e := by
  rw [SearchExpression.read] at h
  obtain ⟨ts, htokens, hread⟩ := bind_eq_ok_iff.mp h
  obtain rfl := eq_tokens_of_tokenize htokens
  exact bind_eq_ok_iff.mp hread

end CatalogRecords.Query
