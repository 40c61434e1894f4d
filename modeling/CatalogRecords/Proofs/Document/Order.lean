import CatalogRecords.Proofs.Document.Flattening
import CatalogRecords.Proofs.Document.Verdict

/-!
# The order of siblings

The order of a document is judged between neighbours among its paths. What that comes to is said
here of each list of siblings: outside of everything repeatable they have to be in canonical order,
and only repeatable ones may come again. Inside of something repeatable the judgement does not tell
another round of it from going back within the same one, and asks for no order at all.
-/

namespace CatalogRecords

variable {t : DocumentType} {known : String → String → Bool} {path outer : String}
  {e f p : Element} {a b : Node} {s : Siblings}

namespace Siblings

/-- The element that one of the siblings stands for. -/
def element? (s : Siblings) (t : DocumentType) (n : Node) : Option Element :=
  t.element? (n.path s.outer)

/-- Siblings in canonical order, in which only repeatable elements come again. -/
structure IsInOrder (s : Siblings) (t : DocumentType) : Prop where
  ascending : s.nodes.Pairwise fun a b =>
    ∀ e ∈ s.element? t a, ∀ f ∈ s.element? t b, e.index ≤ f.index
  repeatable : s.nodes.Pairwise fun a b =>
    a.sid = b.sid → ∀ e ∈ s.element? t b, e.repeatable = true

/-- Whether siblings are in order is decided pair by pair. -/
instance (s : Siblings) (t : DocumentType) : Decidable (s.IsInOrder t) :=
  decidable_of_iff _ ⟨fun h => IsInOrder.mk h.1 h.2, fun h => And.intro h.1 h.2⟩

/-- Of siblings with nothing in them, only those of a repeatable field are directly repeated. -/
def RepeatsInPlace (s : Siblings) (t : DocumentType) : Prop :=
  s.nodes.IsChain fun a b => a.sid = b.sid → a.nodes = [] →
    ∀ e ∈ s.element? t b, e.repeatable = true ∧ e.isContainer = false

/-- Siblings that are all declared, with what is in them. -/
structure AreDeclared (s : Siblings) (t : DocumentType) : Prop where
  dotFree : ∀ n ∈ s.nodes, IsDotFree n.sid
  element : ∀ n ∈ s.nodes, ∃ e, s.element? t n = some e
  last : ∀ n ∈ s.nodes, ∃ p, t.element? (n.lastPath s.outer) = some p

/-- One of the siblings is of an earlier element than another, or both are of a repeatable one. -/
def Precedes (s : Siblings) (t : DocumentType) (a b : Node) : Prop :=
  ∃ e ∈ s.element? t a, ∃ f ∈ s.element? t b,
    e.index < f.index ∨ a.sid = b.sid ∧ f.repeatable = true

/-- Siblings with one identifier stand for one element. -/
theorem element?_congr (s : Siblings) (t : DocumentType) (hsid : a.sid = b.sid) :
    s.element? t a = s.element? t b := by
  rw [element?, element?, Node.path, Node.path, hsid]

/-- Coming before among siblings goes on from one to the next, so that chains can be written out. -/
instance (s : Siblings) (t : DocumentType) :
    Trans (s.Precedes t) (s.Precedes t) (s.Precedes t) where
  trans := by
    rintro a b c ⟨e, he, f, hf, hef⟩ ⟨f', hf', g, hg, hfg⟩
    obtain rfl := Option.mem_unique hf hf'
    refine ⟨e, he, g, hg, ?_⟩
    rcases hef with hef | ⟨hab, -⟩
    · rcases hfg with hfg | ⟨hbc, -⟩
      · exact Or.inl (hef.trans hfg)
      · rw [s.element?_congr t hbc] at hf
        exact Or.inl (Option.mem_unique hf hg ▸ hef)
    · rcases hfg with hfg | ⟨hbc, hrepeatable⟩
      · rw [s.element?_congr t hab] at he
        exact Or.inl (Option.mem_unique hf he ▸ hfg)
      · exact Or.inr ⟨hab.trans hbc, hrepeatable⟩

/-- Siblings are of the same element exactly if they have the same identifier. -/
theorem AreDeclared.eq_iff (h : t.IsLaidOut) (hs : s.AreDeclared t) (ha : a ∈ s.nodes)
    (hb : b ∈ s.nodes) (he : s.element? t a = some e) (hf : s.element? t b = some f) :
    e = f ↔ a.sid = b.sid := by
  obtain ⟨-, hepath⟩ := h.element?_eq_some_iff.mp he
  obtain ⟨-, hfpath⟩ := h.element?_eq_some_iff.mp hf
  constructor
  · rintro rfl
    have hpath := hepath.symm.trans hfpath
    exact ((childPath_inj (hs.dotFree a ha) (hs.dotFree b hb)).mp hpath).2
  · intro hsid
    rw [s.element?_congr t hsid, hf] at he
    exact (Option.some.inj he).symm

/-- The order of siblings can be seen from neighbours. -/
theorem isChain_precedes_iff (h : t.IsLaidOut) (hs : s.AreDeclared t) :
    s.nodes.IsChain (s.Precedes t) ↔ s.IsInOrder t := by
  rw [List.isChain_iff_pairwise]
  constructor
  · intro hpairwise
    refine ⟨hpairwise.imp fun {a b} hab e he f hf => ?_,
      hpairwise.imp fun {a b} hab hsid f hf => ?_⟩
    · obtain ⟨e', he', f', hf', hindex⟩ := hab
      obtain rfl := Option.mem_unique he he'
      obtain rfl := Option.mem_unique hf hf'
      rcases hindex with hindex | ⟨hsid, -⟩
      · exact Nat.le_of_lt hindex
      · rw [s.element?_congr t hsid] at he
        rw [Option.mem_unique he hf]
    · obtain ⟨e, he, f', hf', hindex⟩ := hab
      obtain rfl := Option.mem_unique hf hf'
      rcases hindex with hindex | ⟨-, hrepeatable⟩
      · rw [s.element?_congr t hsid] at he
        rw [Option.mem_unique he hf] at hindex
        exact absurd hindex (Nat.lt_irrefl _)
      · exact hrepeatable
  · rintro ⟨hascending, hrepeatable⟩
    refine (hascending.and hrepeatable).imp_of_mem fun {a b} ha hb hab => ?_
    obtain ⟨e, he⟩ := hs.element a ha
    obtain ⟨f, hf⟩ := hs.element b hb
    refine ⟨e, he, f, hf, ?_⟩
    rcases (hab.1 e he f hf).lt_or_eq with hindex | hindex
    · exact Or.inl hindex
    · have heq := h.eq_of_index_eq (h.element?_eq_some_iff.mp he).1
        (h.element?_eq_some_iff.mp hf).1 hindex
      have hsid := (hs.eq_iff h ha hb he hf).mp heq
      exact Or.inr ⟨hsid, hab.2 hsid f hf⟩

end Siblings

namespace DocumentType.IsLaidOut

/-- What is directly inside a path may follow it. -/
theorem passesDown (h : t.IsLaidOut) :
    PassesDown (fun previous path => t.canFollow path previous = true)
      fun path => t.contains path = true := by
  intro outer sid houter hsid
  obtain ⟨p, houter⟩ := Option.isSome_iff_exists.mp houter
  obtain ⟨e, hsid⟩ := Option.isSome_iff_exists.mp hsid
  obtain ⟨hp, hppath⟩ := h.element?_eq_some_iff.mp houter
  obtain ⟨he, hepath⟩ := h.element?_eq_some_iff.mp hsid
  have hinside : isInside e.path p.path = true :=
    isInside_iff_exists_childPath.mpr ⟨sid, hppath ▸ hepath⟩
  rw [← hppath] at hepath ⊢
  rw [← hepath]
  exact h.canFollow_of_lt he hp (h.index_lt_of_isInside he hp hinside)

/-! What may come after a node `a` and all that is in it: `e` is the element of the node, `p` that
of the last path in it, and `f` one that lies in the same element as `e`. -/

section LastPath

variable (h : t.IsLaidOut) (ha : IsDotFree a.sid) (hb : IsDotFree b.sid)
  (he : t.element? (a.path outer) = some e) (hf : t.element? (b.path outer) = some f)
  (hp : t.element? (a.lastPath outer) = some p)
include h ha hb he hf hp

/-- A node of a later element may come. -/
theorem canFollow_lastPath_of_lt (hlt : e.index < f.index) :
    t.canFollow (b.path outer) (a.lastPath outer) = true := by
  have hbegins := a.path_prefix_lastPath outer
  obtain ⟨he, hepath⟩ := h.element?_eq_some_iff.mp he
  obtain ⟨hf, hfpath⟩ := h.element?_eq_some_iff.mp hf
  obtain ⟨hp, hppath⟩ := h.element?_eq_some_iff.mp hp
  rw [← hepath, ← hppath] at hbegins
  rw [← hfpath, ← hppath]
  exact h.canFollow_of_lt hf hp (h.index_lt_of_beside he hf hp ha hb hepath hfpath hlt hbegins)

/-- A node of an earlier element may come in the midst of something repeatable. -/
theorem canFollow_lastPath_of_gt (hlt : f.index < e.index) :
    t.canFollow (b.path outer) (a.lastPath outer) = t.isRepeated outer := by
  have hbegins := a.path_prefix_lastPath outer
  obtain ⟨he, hepath⟩ := h.element?_eq_some_iff.mp he
  obtain ⟨hf, hfpath⟩ := h.element?_eq_some_iff.mp hf
  obtain ⟨hp, hppath⟩ := h.element?_eq_some_iff.mp hp
  have hle : e.index ≤ p.index := by
    rw [← hepath, ← hppath, segments_prefix_iff] at hbegins
    rcases hbegins with hpath | hinside
    · rw [h.eq_of_path_eq hp he hpath]
    · exact Nat.le_of_lt (h.index_lt_of_isInside hp he hinside)
  -- Different siblings have different identifiers, so nothing in one lies inside the other.
  have hinside : ¬isInside p.path f.path = true := by
    intro hinside
    have hother := segments_prefix_iff.mpr (Or.inr hinside)
    rw [hppath, hfpath] at hother
    have hsid := eq_of_prefix_childPath ha hb hbegins hother
    have hpath : e.path = f.path := by rw [hepath, hfpath, Node.path, Node.path, hsid]
    rw [h.eq_of_path_eq he hf hpath] at hlt
    exact Nat.lt_irrefl _ hlt
  have houter := isInside_of_prefix_childPath hbegins
  rw [← hppath] at houter
  rw [← hfpath, ← hppath]
  exact h.canFollow_of_beside hf hp hb hfpath houter hinside (by omega)

omit hb hf in
/-- Another node of the same element may come if that can be repeated and the first one holds
something, or if it is a repeatable field. -/
theorem canFollow_lastPath_self : t.canFollow (a.path outer) (a.lastPath outer) =
    if a.nodes = [] then e.repeatable && !e.isContainer
    else e.repeatable || t.isRepeated outer := by
  obtain ⟨he, hepath⟩ := h.element?_eq_some_iff.mp he
  obtain ⟨hp, hppath⟩ := h.element?_eq_some_iff.mp hp
  split_ifs with hnodes
  · rw [Node.lastPath_of_nodes_eq_nil hnodes, ← hepath, h.canFollow_self he]
  · have hinside := Node.isInside_lastPath outer hnodes
    rw [← hppath, ← hepath] at hinside
    rw [← hppath, ← hepath, h.canFollow_of_isInside he hp hinside,
      h.canBeRepeated_eq_or he ha hepath]

end LastPath

end DocumentType.IsLaidOut

namespace Siblings

/-- The judgement about two neighbours among siblings: what is directly repeated with nothing in it
has to be a repeatable field, and outside of everything repeatable the order has to be kept. -/
theorem leads_canFollow_iff (h : t.IsLaidOut) (hs : s.AreDeclared t) (ha : a ∈ s.nodes)
    (hb : b ∈ s.nodes) :
    a.Leads (fun previous path => t.canFollow path previous = true) s.outer b ↔
      (a.sid = b.sid → a.nodes = [] →
        ∀ e ∈ s.element? t b, e.repeatable = true ∧ e.isContainer = false) ∧
      (t.isRepeated s.outer = false → s.Precedes t a b) := by
  obtain ⟨e, he⟩ := hs.element a ha
  obtain ⟨f, hf⟩ := hs.element b hb
  obtain ⟨p, hp⟩ := hs.last a ha
  have hsame := hs.eq_iff h ha hb he hf
  have hadot := hs.dotFree a ha
  have hbdot := hs.dotFree b hb
  simp only [Node.Leads, Precedes, he, hf, Option.mem_def, Option.some.injEq, forall_eq',
    exists_eq_left']
  rcases Nat.lt_trichotomy e.index f.index with hlt | heq | hlt
  · have hne : a.sid ≠ b.sid := fun hsid => hlt.ne (congrArg Element.index (hsame.mpr hsid))
    rw [h.canFollow_lastPath_of_lt hadot hbdot he hf hp hlt]
    simp [hne, hlt]
  · obtain rfl := h.eq_of_index_eq (h.element?_eq_some_iff.mp he).1
      (h.element?_eq_some_iff.mp hf).1 heq
    have hsid := hsame.mp rfl
    have hpath : b.path s.outer = a.path s.outer := by rw [Node.path, Node.path, hsid]
    rw [hpath, h.canFollow_lastPath_self hadot he hp]
    by_cases hnodes : a.nodes = []
    · simp +contextual [hsid, hnodes]
    · cases t.isRepeated s.outer <;> simp [hsid, hnodes]
  · have hne : a.sid ≠ b.sid := fun hsid => hlt.ne' (congrArg Element.index (hsame.mpr hsid))
    rw [h.canFollow_lastPath_of_gt hadot hbdot he hf hp hlt]
    simp [hne, hlt.not_gt]

/-- The judgement about siblings. -/
theorem isChain_leads_canFollow_iff (h : t.IsLaidOut) (hs : s.AreDeclared t) :
    s.nodes.IsChain (Node.Leads (fun previous path => t.canFollow path previous = true) s.outer) ↔
      s.RepeatsInPlace t ∧ (t.isRepeated s.outer = false → s.IsInOrder t) := by
  rw [← isChain_precedes_iff h hs,
    List.IsChain.iff_of_mem_imp fun a b ha hb => leads_canFollow_iff h hs ha hb,
    RepeatsInPlace]
  simp only [List.isChain_iff_getElem]
  constructor
  · intro hchain
    exact ⟨fun i hi => (hchain i hi).1, fun hrepeated i hi => (hchain i hi).2 hrepeated⟩
  · rintro ⟨hplace, horder⟩ i hi
    exact ⟨hplace i hi, fun hrepeated => horder hrepeated i hi⟩

/-- Siblings in order are only repeated in place where they may be, if no container is empty. -/
theorem IsInOrder.repeatsInPlace (h : s.IsInOrder t)
    (hfull : ∀ n ∈ s.nodes, n.nodes = [] → ∀ e ∈ s.element? t n, e.isContainer = false) :
    s.RepeatsInPlace t := by
  refine h.repeatable.isChain.imp_of_mem_imp fun a b ha hb hrepeatable hsid hnodes e he => ?_
  refine ⟨hrepeatable hsid e he, hfull a ha hnodes e ?_⟩
  rw [s.element?_congr t hsid]
  exact he

end Siblings

/-! Documents. -/

/-- The order is at fault within a node exactly if it holds what does not belong there. -/
theorem Element.forall_kind_ne_outOfOrderStructure {content : Content} :
    (∀ f ∈ e.findings known path content, f.kind ≠ .outOfOrderStructure) ↔ e.Holds content := by
  rw [forall_mem_findings]
  cases content with
  | text value => simp [SimpleField.forall_mem_findings, Finding.kind, Holds]
  | group nodes => simp [Finding.kind, Holds]

namespace Document

variable {d : Document} {dictionary : Dictionary}

/-- No fault with the order is found exactly if nodes hold what belongs there and neighbours among
the declared paths may follow each other. -/
theorem forall_kind_ne_outOfOrderStructure :
    (∀ f ∈ (d.validate t dictionary).findings, f.kind ≠ .outOfOrderStructure) ↔
      (∀ entry ∈ d.flatten, ∀ e, t.element? entry.path = some e → e.Holds entry.content) ∧
      ((d.flatten.map FlatEntry.path).filter t.contains).IsChain
        fun previous path => t.canFollow path previous = true := by
  rw [forall_mem_findings]
  simp only [Element.forall_kind_ne_outOfOrderStructure, forall_mem_attachmentFindings]
  simp [Finding.kind]

/-- Siblings are among the nodes of the document. -/
theorem mem_flatten_of_mem_siblings {n : Node} (hs : s ∈ d.siblings) (hn : n ∈ s.nodes) :
    n.flatten s.outer ⊆ d.flatten := by
  intro entry hentry
  exact flattenAll_subset_flatten hs (mem_flattenAll.mpr ⟨n, hn, hentry⟩)

/-- A node among siblings of a document stands in its flattened form, under its path. -/
theorem entry_mem_flatten_of_mem_siblings {n : Node} (hs : s ∈ d.siblings) (hn : n ∈ s.nodes) :
    ⟨n.path s.outer, n.sid, n.content⟩ ∈ d.flatten := by
  apply mem_flatten_of_mem_siblings hs hn
  rw [n.flatten_eq]
  exact List.mem_cons_self

/-- Siblings are declared if all paths of the flattened document are, and no identifier in it has a
dot. -/
theorem areDeclared_of_mem_siblings (hdotFree : ∀ entry ∈ d.flatten, IsDotFree entry.sid)
    (hdeclared : ∀ entry ∈ d.flatten, t.contains entry.path = true) (hs : s ∈ d.siblings) :
    s.AreDeclared t := by
  refine ⟨fun n hn => ?_, fun n hn => ?_, fun n hn => ?_⟩
  · exact hdotFree _ (entry_mem_flatten_of_mem_siblings hs hn)
  · exact Option.isSome_iff_exists.mp (hdeclared _ (entry_mem_flatten_of_mem_siblings hs hn))
  · obtain ⟨entry, hentry, hpath⟩ := n.exists_path_eq_lastPath s.outer
    rw [← hpath]
    have hmem := mem_flatten_of_mem_siblings hs hn hentry
    exact Option.isSome_iff_exists.mp (hdeclared entry hmem)

/-- Neighbours among the paths of a document may follow each other exactly if no field or empty
container is repeated in place where it must not, and outside of everything repeatable all siblings
are in order. -/
theorem isChain_canFollow_iff (h : t.IsLaidOut)
    (hdotFree : ∀ entry ∈ d.flatten, IsDotFree entry.sid)
    (hdeclared : ∀ entry ∈ d.flatten, t.contains entry.path = true) :
    ((d.flatten.map FlatEntry.path).filter t.contains).IsChain
        (fun previous path => t.canFollow path previous = true) ↔
      ∀ s ∈ d.siblings,
        s.RepeatsInPlace t ∧ (t.isRepeated s.outer = false → s.IsInOrder t) := by
  rw [List.filter_eq_self.mpr (List.forall_mem_map.mpr hdeclared),
    isChain_map_path_iff h.passesDown hdeclared]
  refine forall₂_congr fun s hs => ?_
  exact Siblings.isChain_leads_canFollow_iff h (areDeclared_of_mem_siblings hdotFree hdeclared hs)

/-- For a document of declared nodes, no fault with the order is found exactly if fields hold texts
and containers hold nodes, only repeatable fields are repeated in place, and siblings that are not
in anything repeatable are in canonical order, with only repeatable elements coming again. -/
theorem orderly_iff_siblings_isInOrder {definition : DocumentTypeDefinition} {t : DocumentType}
    (hbuild : DocumentType.build definition = .ok t) (d : Document) (dictionary : Dictionary)
    (hdotFree : ∀ entry ∈ d.flatten, IsDotFree entry.sid)
    (hdeclared : ∀ entry ∈ d.flatten, t.contains entry.path = true) :
    (∀ f ∈ (d.validate t dictionary).findings, f.kind ≠ .outOfOrderStructure) ↔
      (∀ entry ∈ d.flatten, ∀ e, t.element? entry.path = some e → e.Holds entry.content) ∧
      ∀ s ∈ d.siblings, s.RepeatsInPlace t ∧ (t.isRepeated s.outer = false → s.IsInOrder t) := by
  rw [forall_kind_ne_outOfOrderStructure,
    isChain_canFollow_iff (DocumentType.isLaidOut_of_build hbuild) hdotFree hdeclared]

/-- A site with a relation that goes back to its first field after the codes in it. -/
def shuffledRecord : Document where
  documentType := "SI"
  content := [
    .group "CD" [.text "TSK" "SI"],
    .group "RV" [.text "RVEL" "1", .group "RSE" [.text "RSER" "near"], .text "RVEL" "2"]]

/-- No fault is found with the order of the shuffled record, so what is asked of its siblings
holds. -/
theorem shuffledRecord_is_orderly :
    (∀ entry ∈ shuffledRecord.flatten, IsDotFree entry.sid) ∧
      (∀ entry ∈ shuffledRecord.flatten, siteType.contains entry.path = true) ∧
      ∀ s ∈ shuffledRecord.siblings, s.RepeatsInPlace siteType ∧
        (siteType.isRepeated s.outer = false → s.IsInOrder siteType) := by
  have hdotFree : ∀ entry ∈ shuffledRecord.flatten, IsDotFree entry.sid := by decide +kernel
  have hdeclared : ∀ entry ∈ shuffledRecord.flatten, siteType.contains entry.path = true := by
    decide +kernel
  have horderly := orderly_iff_siblings_isInOrder build_siteDefinition shuffledRecord
    kindsOfRecords hdotFree hdeclared
  exact ⟨hdotFree, hdeclared, (horderly.mp (by decide +kernel)).2⟩

/-- Nothing is found wrong with going back within one and the same relation, to a field that comes
before the codes and is not repeatable. -/
theorem disorder_is_overlooked :
    DocumentType.build siteDefinition = .ok siteType ∧
      shuffledRecord.documentType = siteType.sid ∧
      (∀ entry ∈ shuffledRecord.flatten,
        IsDotFree entry.sid ∧ siteType.contains entry.path = true) ∧
      (shuffledRecord.validate siteType kindsOfRecords).findings = [] ∧
      ∃ s ∈ shuffledRecord.siblings, ¬s.IsInOrder siteType := by
  refine ⟨build_siteDefinition, rfl, ?_, ?_, ?_⟩
  · decide +kernel
  · decide +kernel
  · decide +kernel

/-- Where fields hold texts and containers hold something, no fault is found with the order of a
document of declared nodes whose siblings are all in canonical order, with only repeatable elements
coming again. -/
theorem orderly_of_siblings_isInOrder {definition : DocumentTypeDefinition} {t : DocumentType}
    (hbuild : DocumentType.build definition = .ok t) (d : Document) (dictionary : Dictionary)
    (hdotFree : ∀ entry ∈ d.flatten, IsDotFree entry.sid)
    (hdeclared : ∀ entry ∈ d.flatten, t.contains entry.path = true)
    (hholds : ∀ entry ∈ d.flatten, ∀ e, t.element? entry.path = some e →
      e.Holds entry.content ∧ entry.content ≠ .group [])
    (horder : ∀ s ∈ d.siblings, s.IsInOrder t) :
    ∀ f ∈ (d.validate t dictionary).findings, f.kind ≠ .outOfOrderStructure := by
  rw [forall_kind_ne_outOfOrderStructure,
    isChain_canFollow_iff (DocumentType.isLaidOut_of_build hbuild) hdotFree hdeclared]
  refine ⟨fun entry hentry e he => (hholds entry hentry e he).1,
    fun s hs => ⟨?_, fun _ => horder s hs⟩⟩
  refine (horder s hs).repeatsInPlace fun n hn hnodes e he => ?_
  have hentry := hholds _ (entry_mem_flatten_of_mem_siblings hs hn) e he
  cases n with
  | text sid value => exact hentry.1
  | group sid nodes => exact absurd (congrArg Content.group hnodes) hentry.2

/-- The siblings in the site with two rounds of relations are in order. -/
theorem siteRecord_is_orderly :
    (∀ s ∈ siteRecord.siblings, s.IsInOrder siteType) ∧
      ∀ f ∈ (siteRecord.validate siteType .empty).findings, f.kind ≠ .outOfOrderStructure := by
  have horder : ∀ s ∈ siteRecord.siblings, s.IsInOrder siteType := by decide +kernel
  have hfound : ∀ f ∈ (siteRecord.validate siteType kindsOfRecords).findings, False := by
    decide +kernel
  obtain ⟨hconforms, hempty⟩ := (forall_mem_findings_iff_conforms
    (DocumentType.isLaidOut_of_build build_siteDefinition) _ fun _ _ => not_false).mp hfound
  refine ⟨horder, orderly_of_siblings_isInOrder build_siteDefinition siteRecord .empty
    (by decide +kernel) (by decide +kernel) (fun entry hentry e he => ?_) horder⟩
  have hholds := hconforms.holds entry hentry e he
  refine ⟨hholds, fun hcontent => hempty entry hentry e he ?_ hcontent⟩
  rw [hcontent] at hholds
  exact hholds

end Document

end CatalogRecords
