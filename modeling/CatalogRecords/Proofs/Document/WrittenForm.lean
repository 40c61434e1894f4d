import CatalogRecords.Document.Encoding
import CatalogRecords.Proofs.Calendar.Universal
import CatalogRecords.Proofs.Data.Records
import CatalogRecords.Proofs.Json.Rereading

/-!
# Documents as texts

A node is the pair of its identifier and what it holds, and what it holds is told by the kind of
the second value alone: a text is a text whatever its characters are, and a list is a group, also
without nodes. So the content is read as it was written, and with it the whole record, in which
what is not known of the origin is left out. A document that is written in either layout is made of
texts, lists and maps, and is read again if these do not lie too deep in one another.
-/

namespace CatalogRecords

open Data

mutual

/-- A node is read as it was written. -/
theorem Node.decode?_encode : (node : Node) → Node.decode? node.encode = some node
  | .text sid value => by rw [Node.encode, Node.decode?]
  | .group sid nodes => by
    rw [Node.encode, Node.decode?, decodeNodes?_encodeNodes nodes, Option.map_some]

/-- A list of nodes is read as it was written. -/
theorem decodeNodes?_encodeNodes : (nodes : List Node) →
    decodeNodes? (encodeNodes nodes) = some nodes
  | [] => by rw [encodeNodes, decodeNodes?]
  | node :: nodes => by
    rw [encodeNodes, decodeNodes?, Node.decode?_encode node, decodeNodes?_encodeNodes nodes]
    rfl

end

mutual

/-- A node is written with nothing in it but texts, lists and maps. -/
theorem Node.isTextual_encode : (node : Node) → node.encode.isTextual = true
  | .text sid value => by rw [Node.encode]; rfl
  | .group sid nodes => by
    have := textualItems_encodeNodes nodes
    simp [Node.encode, isTextual, textualItems, this]

/-- A list of nodes is written with nothing in it but texts, lists and maps. -/
theorem textualItems_encodeNodes : (nodes : List Node) → textualItems (encodeNodes nodes) = true
  | [] => by rw [encodeNodes, textualItems]
  | node :: nodes => by
    rw [encodeNodes, textualItems, Node.isTextual_encode node, textualItems_encodeNodes nodes]
    rfl

end

namespace Data

/-- A list is textual if all its items are. -/
theorem textualItems_of_forall {items : List Data} (h : ∀ item ∈ items, item.isTextual = true) :
    textualItems items = true := by
  induction items with
  | nil => rw [textualItems]
  | cons item items ih =>
    rw [List.forall_mem_cons] at h
    rw [textualItems, h.1, ih h.2]
    rfl

/-- A record is made of texts, lists and maps if its fields are. -/
theorem textualEntries_written {fields : List (String × Option Data)}
    (h : ∀ field ∈ fields, ∀ value ∈ field.2, value.isTextual = true) :
    textualEntries (written fields) = true := by
  induction fields with
  | nil => rw [written, List.flatMap_nil, textualEntries]
  | cons field fields ih =>
    obtain ⟨name, value?⟩ := field
    rw [List.forall_mem_cons] at h
    rw [written_cons]
    cases value? with
    | none => exact ih h.2
    | some value =>
      rw [entryIfSome, List.singleton_append, textualEntries, h.1 value rfl, ih h.2]
      rfl

/-- A field with a value is written. -/
theorem mem_written {fields : List (String × Option Data)} {name : String} {value : Data}
    (h : (name, some value) ∈ fields) : (name, value) ∈ written fields :=
  List.mem_flatMap.mpr ⟨_, h, List.mem_singleton_self _⟩

/-- A value in a map is nested no deeper than the deepest of its entries. -/
theorem depth_le_depthEntries {entries : List (String × Data)} {name : String} {value : Data}
    (h : (name, value) ∈ entries) : value.depth ≤ depthEntries entries := by
  induction entries with
  | nil => cases h
  | cons entry entries ih =>
    obtain ⟨first, firstValue⟩ := entry
    rw [depthEntries]
    rcases List.mem_cons.mp h with heq | h
    · cases heq
      exact Nat.le_max_left _ _
    · exact Nat.le_trans (ih h) (Nat.le_max_right _ _)

end Data

namespace Attachment

/-- The fields of an attachment's record. -/
def fields (a : Attachment) : List (String × Option Data) := [
  ("field_path", some (.text a.fieldPath)), ("value", some (.text a.value)),
  ("file_name", some (.text a.fileName))]

/-- An attachment is read as it was written. -/
theorem decode?_encode (a : Attachment) : decode? a.encode = some a := by
  obtain ⟨r, hr, h⟩ := exists_record?_of_written .json ["field_path", "value", "file_name"]
    (show a.encode = .map (written a.fields) from rfl) rfl (by decide)
  have hpath := h.required_text (List.mem_of_getElem? (i := 0) rfl)
  have hvalue := h.required_text (List.mem_of_getElem? (i := 1) rfl)
  have hfile := h.required_text (List.mem_of_getElem? (i := 2) rfl)
  rw [decode?, hr]
  simp only [Option.bind_eq_bind, Option.bind_some, hpath, hvalue, hfile]

end Attachment

namespace Document

/-- The fields of a document's record. -/
def fields (d : Document) : List (String × Option Data) := [
  ("document_type", some (.text d.documentType)),
  ("id", d.id.map Data.text),
  ("package_name", some (.text d.packageName)),
  ("author_id", d.authorId.map Data.text),
  ("author_name", d.authorName.map Data.text),
  ("creation_date", d.creationDate.map fun t => .text t.renderUniversal),
  ("last_edit_date", d.lastEditDate.map fun t => .text t.renderUniversal),
  ("last_editor_id", d.lastEditorId.map Data.text),
  ("last_editor_name", d.lastEditorName.map Data.text),
  ("catalogation_level", some (.text d.level.word)),
  ("media_files", some (.list (d.attachments.map Attachment.encode))),
  ("content", some (.list (encodeNodes d.content)))]

/-- A document is written as the map of its fields. -/
theorem encode_eq (d : Document) : d.encode = .map (written d.fields) := by
  simp only [encode, fields, written_cons, textEntry?, Option.map_map, List.append_assoc]
  rfl

/-- Whether the moments of a document are ones that the calendar has. -/
def IsDated (d : Document) : Prop :=
  (∀ t, d.creationDate = some t → t.IsValid) ∧ ∀ t, d.lastEditDate = some t → t.IsValid

/-- A document is read from its record as it was written. -/
theorem decode?_encode {d : Document} (hdated : d.IsDated) : decode? d.encode = some d := by
  obtain ⟨r, hr, h⟩ := exists_record?_of_written .json fieldNames d.encode_eq rfl (by decide)
  have htype := h.required_text (List.mem_of_getElem? (i := 0) rfl)
  have hid := h.optional_text (List.mem_of_getElem? (i := 1) rfl)
  have hpackage : r.defaulted "package_name" "" (fun part => part.1.text?) = some d.packageName :=
    h.defaulted text? (List.mem_of_getElem? (i := 2) rfl)
  have hauthor := h.optional_text (List.mem_of_getElem? (i := 3) rfl)
  have hauthorName := h.optional_text (List.mem_of_getElem? (i := 4) rfl)
  have hmoment : ∀ (name : String) (t? : Option Calendar.DateTime),
      (name, t?.map fun t => Data.text t.renderUniversal) ∈ d.fields →
      (∀ t, t? = some t → t.IsValid) →
      r.optionalDefault name
        (fun part => part.1.text?.bind Calendar.DateTime.readUniversal?) = some t? := by
    intro name t? hfield hvalid
    refine h.optionalDefault (fun value => value.text?.bind Calendar.DateTime.readUniversal?)
      (fun t => .text t.renderUniversal) hfield fun t ht => ⟨?_, rfl⟩
    rw [text?, Option.bind_some, (hvalid t ht).readUniversal?_renderUniversal]
  have hcreation := hmoment _ _ (List.mem_of_getElem? (i := 5) rfl) hdated.1
  have hedit := hmoment _ _ (List.mem_of_getElem? (i := 6) rfl) hdated.2
  have heditor := h.optional_text (List.mem_of_getElem? (i := 7) rfl)
  have heditorName := h.optional_text (List.mem_of_getElem? (i := 8) rfl)
  have hlevel : r.defaulted "catalogation_level" .none
      (fun part => part.1.word? .json Level.words) = some d.level :=
    h.defaulted_word (List.mem_of_getElem? (i := 9) rfl) d.level.lookup_word
  have hattachments : r.defaulted "media_files" []
      (fun part => part.1.list? .json Attachment.decode?) = some d.attachments :=
    h.defaulted_list (List.mem_of_getElem? (i := 10) rfl)
      (mapM_map_eq_some fun a _ => a.decode?_encode)
  have hcontent : r.defaulted "content" [] (fun part => decodeContent? part.1) =
      some d.content :=
    (h.defaulted decodeContent? (List.mem_of_getElem? (i := 11) rfl)).trans
      (decodeNodes?_encodeNodes d.content)
  rw [decode?, hr]
  dsimp only [Option.bind_eq_bind, Option.bind_some]
  simp only [htype, hid, hpackage, hauthor, hauthorName, hcreation, hedit, heditor, heditorName,
    hlevel, hattachments, hcontent, Option.bind_some]

/-- The record of a document is made of texts, lists and maps. -/
theorem isTextual_encode (d : Document) : d.encode.isTextual = true := by
  have htext : ∀ {α : Type} {encode : α → Data} (a? : Option α),
      (∀ a, (encode a).isTextual = true) → ∀ value ∈ a?.map encode, value.isTextual = true := by
    intro α encode a? hencode value hvalue
    obtain ⟨a, -, rfl⟩ := Option.map_eq_some_iff.mp hvalue
    exact hencode a
  have hattachments : textualItems (d.attachments.map Attachment.encode) = true :=
    textualItems_of_forall fun item hitem => by
      obtain ⟨a, -, rfl⟩ := List.mem_map.mp hitem
      rfl
  have hcontent := textualItems_encodeNodes d.content
  rw [encode_eq]
  refine textualEntries_written ?_
  simp only [fields, List.forall_mem_cons, Option.mem_some_iff, forall_eq', isTextual,
    hattachments, hcontent, true_and]
  exact ⟨htext d.id fun _ => rfl, htext d.authorId fun _ => rfl, htext d.authorName fun _ => rfl,
    htext d.creationDate fun _ => rfl, htext d.lastEditDate fun _ => rfl,
    htext d.lastEditorId fun _ => rfl, htext d.lastEditorName fun _ => rfl,
    List.forall_mem_nil _⟩

/-- The content lies one list less deep than in the record. -/
theorem depth_content_lt (d : Document) :
    (Data.list (encodeNodes d.content)).depth < d.encode.depth := by
  have hfield : ("content", some (.list (encodeNodes d.content))) ∈ d.fields :=
    List.mem_of_getElem? (i := 11) rfl
  have hle := depth_le_depthEntries (mem_written hfield)
  rw [encode_eq]
  exact Nat.lt_succ_of_le hle

/-- The document as it stands after its content was to be set from a text: with the content that
the text stands for, if there is one. -/
def afterContentJson (d : Document) (text : String) : Document := (d.setContentJson? text).getD d

/-- A document that does not lie too deep is read from its text as it was written, in either layout,
and its content from the text of the content. Setting the content changes nothing else, and nothing
at all if it fails. -/
theorem written_documents_are_read :
    (∀ d : Document, d.IsDated → d.encode.depth ≤ 127 →
      (∀ laidOut, ofJson? (d.toJson laidOut) = some d) ∧
      ∀ laidOut (e : Document), e.setContentJson? (d.contentJson laidOut) =
        some { e with content := d.content }) ∧
    ∀ (e : Document) (text : String),
      (∀ changed, e.setContentJson? text = some changed →
        changed = { e with content := changed.content }) ∧
      (e.setContentJson? text = none → e.afterContentJson text = e) := by
  refine ⟨fun d hdated hdepth => ⟨fun laidOut => ?_, fun laidOut e => ?_⟩, fun e text => ⟨?_, ?_⟩⟩
  · rw [ofJson?, toJson, Json.readLimited?_render laidOut d.isTextual_encode hdepth,
      Option.bind_some, decode?_encode hdated]
  · have hcontent : (Data.list (encodeNodes d.content)).depth ≤ Json.greatestDepth :=
      Nat.le_trans (Nat.le_of_lt d.depth_content_lt) hdepth
    have htextual : (Data.list (encodeNodes d.content)).isTextual = true :=
      textualItems_encodeNodes d.content
    rw [setContentJson?, contentJson, Json.readLimited?_render laidOut htextual hcontent,
      Option.bind_some, decodeContent?, decodeNodes?_encodeNodes, Option.map_some]
  · intro changed hchanged
    obtain ⟨content, -, rfl⟩ := Option.map_eq_some_iff.mp hchanged
    rfl
  · intro hfailed
    rw [afterContentJson, hfailed, Option.getD_none]

/-- A note with texts that look like other values, groups and identifiers without anything in
them, and little known of its origin. -/
def oddNote : Document where
  documentType := "NO"
  id := some ""
  creationDate := some ⟨⟨-1, 2, 28⟩, ⟨86399, 1500000000⟩⟩
  lastEditDate := some ⟨⟨12011, 3, 1⟩, ⟨3600, 7000⟩⟩
  lastEditorName := some "null"
  level := .provisional
  attachments := [⟨"NO.TX", "1e5", "\x7b\"a\": [1]\x7d"⟩]
  content := [
    .text "" "[[\"A\", \"1\"]]", .group "" [], .group "TX" [.text "TXT" "007", .text "TXT" ""]]

/-- A note of which no more is known than that it is one. -/
def bareNote : Document where
  documentType := "NO"

/-- The note comes back from both layouts, and its content in place of another. -/
theorem oddNote_is_read :
    oddNote.IsDated ∧ oddNote.encode.depth ≤ 127 ∧
      ofJson? (oddNote.toJson true) = some oddNote ∧
      ofJson? (oddNote.toJson false) = some oddNote ∧
      bareNote.setContentJson? (oddNote.contentJson true) =
        some { bareNote with content := oddNote.content } ∧
      bareNote.setContentJson? "[[\"TX\", null]]" = none ∧
      bareNote.afterContentJson "[[\"TX\", null]]" = bareNote := by
  have hdated : oddNote.IsDated := by
    constructor <;> rintro t ⟨⟩ <;> decide
  have hdepth : oddNote.encode.depth ≤ 127 := by decide
  have hfailed : bareNote.setContentJson? "[[\"TX\", null]]" = none := by
    decide +kernel
  obtain ⟨hread, hset⟩ := written_documents_are_read.1 oddNote hdated hdepth
  exact ⟨hdated, hdepth, hread true, hread false, hset true bareNote, hfailed,
    (written_documents_are_read.2 bareNote _).2 hfailed⟩

end Document

end CatalogRecords
