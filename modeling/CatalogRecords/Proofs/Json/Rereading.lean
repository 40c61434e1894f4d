import CatalogRecords.Proofs.Json.Layouts
import Mathlib.Data.List.DropRight

/-!
# Reading what was written

Reading passes over the blanks of a layout, so a value made of texts, lists and maps is read back
from either layout. Each token that is written leaves the reader one step more than it needs, since
a value takes two characters at least.
-/

namespace CatalogRecords.Json

/-! Blanks in front of a token do not matter. -/

/-- Space in front of a text is skipped. -/
theorem skipSpace_append {gap : List Char} (h : ∀ c ∈ gap, isSpace c = true) (cs : List Char) :
    skipSpace (gap ++ cs) = skipSpace cs :=
  List.dropWhile_append_of_pos h

/-- Where a text does not begin with space nothing is skipped. -/
theorem skipSpace_cons {c : Char} (h : isSpace c = false) (cs : List Char) :
    skipSpace (c :: cs) = c :: cs := by
  rw [skipSpace, List.dropWhile_cons_of_neg (Bool.eq_false_iff.mp h)]

/-- Where space was skipped there is none to skip. -/
theorem skipSpace_skipSpace (cs : List Char) : skipSpace (skipSpace cs) = skipSpace cs :=
  List.dropWhile_idempotent isSpace cs

/-- A value is read by what follows the blanks. -/
theorem readValue_congr {cs ds : List Char} (h : skipSpace cs = skipSpace ds) (steps : Nat) :
    readValue steps cs = readValue steps ds := by
  cases steps with
  | zero => rw [readValue, readValue]
  | succ steps => rw [readValue, readValue, h]

/-- Items are read alike from texts that are the same but for the space in front. -/
theorem readItems_congr {cs ds : List Char} (h : skipSpace cs = skipSpace ds) (steps : Nat) :
    readItems steps cs = readItems steps ds := by
  cases steps with
  | zero => rw [readItems, readItems]
  | succ steps => rw [readItems, readItems, readValue_congr h]

/-- Entries are read alike from texts that are the same but for the space in front. -/
theorem readEntries_congr {cs ds : List Char} (h : skipSpace cs = skipSpace ds) (steps : Nat) :
    readEntries steps cs = readEntries steps ds := by
  cases steps with
  | zero => rw [readEntries, readEntries]
  | succ steps => rw [readEntries, readEntries, h]

/-- Space in front of a value does not count. -/
theorem readValue_gap {gap : List Char} (h : ∀ c ∈ gap, isSpace c = true) (steps : Nat)
    (cs : List Char) : readValue steps (gap ++ cs) = readValue steps cs :=
  readValue_congr (skipSpace_append h cs) steps

/-- Space in front of entries does not count. -/
theorem readEntries_gap {gap : List Char} (h : ∀ c ∈ gap, isSpace c = true) (steps : Nat)
    (cs : List Char) : readEntries steps (gap ++ cs) = readEntries steps cs :=
  readEntries_congr (skipSpace_append h cs) steps

/-- A map whose names all have a meaning. -/
theorem mapData_some (entries : List (String × Data)) :
    mapData (entries.map (Prod.map some id)) = .map entries := by
  rw [mapData, if_pos, List.map_map]
  · exact congrArg Data.map (List.map_id entries)
  · rw [List.all_map, List.all_eq_true]
    exact fun _ _ => rfl

/-! The steps of reading. -/

variable {steps : Nat} {cs ds rest : List Char}

/-- A text that was written is read again. -/
theorem readValue_writeText (steps : Nat) (s : String) (rest : List Char) :
    readValue (steps + 1) (writeText s rest) = some (.text s, rest) := by
  rw [writeText, readValue, skipSpace_cons rfl]
  simp only [readText_foldr, Option.map_some, textData, String.ofList_toList]

/-- Two brackets are read as the empty list. -/
theorem readValue_list_nil (steps : Nat) (rest : List Char) :
    readValue (steps + 1) ('[' :: ']' :: rest) = some (.list [], rest) := by
  rw [readValue, skipSpace_cons rfl]
  simp only [skipSpace_cons (c := ']') rfl]

/-- Two braces are read as the empty map. -/
theorem readValue_map_nil (steps : Nat) (rest : List Char) :
    readValue (steps + 1) ('\x7b' :: '\x7d' :: rest) = some (.map [], rest) := by
  rw [readValue, skipSpace_cons rfl]
  simp only [skipSpace_cons (c := '\x7d') rfl]

/-- A list whose first token is no closing bracket is read as its items. -/
theorem readValue_list {c : Char} (h : skipSpace cs = c :: ds) (hc : c ≠ ']') :
    readValue (steps + 1) ('[' :: cs) =
      (readItems steps cs).map fun read => (.list read.1, read.2) := by
  have hitems : readItems steps (c :: ds) = readItems steps cs :=
    readItems_congr (by rw [← h, skipSpace_skipSpace]) steps
  rw [readValue, skipSpace_cons rfl]
  simp only [h]
  split
  · simp_all
  · rw [hitems]

/-- After an opening brace with no closing one behind it entries are read. -/
theorem readValue_map {c : Char} (h : skipSpace cs = c :: ds) (hc : c ≠ '\x7d') :
    readValue (steps + 1) ('\x7b' :: cs) =
      (readEntries steps cs).map fun read => (mapData read.1, read.2) := by
  have hentries : readEntries steps (c :: ds) = readEntries steps cs :=
    readEntries_congr (by rw [← h, skipSpace_skipSpace]) steps
  rw [readValue, skipSpace_cons rfl]
  simp only [h]
  split
  · simp_all
  · rw [hentries]

/-- The last item of a list. -/
theorem readItems_last {item : Data} (hitem : readValue steps cs = some (item, ds))
    (hend : skipSpace ds = ']' :: rest) : readItems (steps + 1) cs = some ([item], rest) := by
  simp only [readItems, hitem, Option.bind_eq_bind, Option.bind_some, hend]

/-- An item of a list that another follows. -/
theorem readItems_cons {item : Data} {items : List Data}
    (hitem : readValue steps cs = some (item, ',' :: ds))
    (hitems : readItems steps ds = some (items, rest)) :
    readItems (steps + 1) cs = some (item :: items, rest) := by
  simp only [readItems, hitem, hitems, Option.bind_eq_bind, Option.bind_some,
    skipSpace_cons (c := ',') rfl]

/-- The last entry of a map. -/
theorem readEntries_last {name : String} {value : Data}
    (hvalue : readValue steps cs = some (value, ds)) (hend : skipSpace ds = '\x7d' :: rest) :
    readEntries (steps + 1) (writeText name (':' :: cs)) = some ([(some name, value)], rest) := by
  simp only [readEntries, writeText, skipSpace_cons (c := '"') rfl, readText_foldr,
    skipSpace_cons (c := ':') rfl, hvalue, Option.bind_eq_bind, Option.bind_some, hend,
    Option.map_some, String.ofList_toList]

/-- An entry of a map that another follows. -/
theorem readEntries_cons {name : String} {value : Data} {entries : List (Option String × Data)}
    (hvalue : readValue steps cs = some (value, ',' :: ds))
    (hentries : readEntries steps ds = some (entries, rest)) :
    readEntries (steps + 1) (writeText name (':' :: cs)) =
      some ((some name, value) :: entries, rest) := by
  simp only [readEntries, writeText, skipSpace_cons (c := '"') rfl, readText_foldr,
    skipSpace_cons (c := ':') rfl, hvalue, hentries, Option.bind_eq_bind, Option.bind_some,
    skipSpace_cons (c := ',') rfl, Option.map_some, String.ofList_toList]

namespace Layout

variable {l : Layout}

/-- A value begins with a quote or a bracket that opens. -/
theorem exists_write_eq_cons (level : Nat) (value : Data) (rest : List Char)
    (h : value.isTextual = true) :
    ∃ c cs, l.write level value rest = c :: cs ∧ isSpace c = false ∧ c ≠ ']' := by
  cases value with
  | text s => exact ⟨_, _, by rw [write, writeText], rfl, by decide⟩
  | list items => cases items <;> exact ⟨_, _, by rw [write], rfl, by decide⟩
  | map entries => cases entries <;> exact ⟨_, _, by rw [write], rfl, by decide⟩
  | _ => cases h

/-- The first item of a list begins like a value. -/
theorem exists_skipSpace_writeItems (level : Nat) (item : Data) (items : List Data)
    (rest : List Char) (h : item.isTextual = true) :
    ∃ c cs, skipSpace (l.writeItems level (item :: items) rest) = c :: cs ∧ c ≠ ']' := by
  have hwritten : ∃ rest', l.writeItems level (item :: items) rest =
      l.line level ++ l.write level item rest' := by
    cases items with
    | nil => exact ⟨rest, by rw [writeItems]⟩
    | cons next items => exact ⟨_, writeItems_cons l level item next items rest⟩
  obtain ⟨rest', hwritten⟩ := hwritten
  obtain ⟨c, cs, hwrite, hspace, hc⟩ := exists_write_eq_cons (l := l) level item rest' h
  refine ⟨c, cs, ?_, hc⟩
  rw [hwritten, skipSpace_append (l.line_isSpace level), hwrite, skipSpace_cons hspace]

/-- The first entry of a map begins with the quote of its name. -/
theorem exists_skipSpace_writeEntries (level : Nat) (entry : String × Data)
    (entries : List (String × Data)) (rest : List Char) :
    ∃ c cs, skipSpace (l.writeEntries level (entry :: entries) rest) = c :: cs ∧ c ≠ '\x7d' := by
  have hwritten : ∃ rest', l.writeEntries level (entry :: entries) rest =
      l.line level ++ writeText entry.1 rest' := by
    cases entries with
    | nil => exact ⟨_, by rw [writeEntries]⟩
    | cons next entries => exact ⟨_, writeEntries_cons l level _ _ next entries rest⟩
  obtain ⟨rest', hwritten⟩ := hwritten
  have hskip := skipSpace_append (l.line_isSpace level) (writeText entry.1 rest')
  rw [← hwritten, writeText, skipSpace_cons rfl] at hskip
  exact ⟨_, _, hskip, by decide⟩

mutual

/-- A value is read as it was written if there are steps enough for its text. -/
theorem readValue_write (level : Nat) : (value : Data) → (steps : Nat) → (rest : List Char) →
    value.isTextual = true →
    (l.write level value rest).length ≤ steps + 1 + rest.length →
      readValue steps (l.write level value rest) = some (value, rest)
  | value, 0, rest, h, hsteps => by
    have := length_write (l := l) level value rest h
    omega
  | .text s, steps + 1, rest, _, _ => by
    rw [write, readValue_writeText]
  | .list [], steps + 1, rest, _, _ => by
    rw [write, readValue_list_nil]
  | .map [], steps + 1, rest, _, _ => by
    rw [write, readValue_map_nil]
  | .list (item :: items), steps + 1, rest, h, hsteps => by
    have hend : skipSpace (l.line level ++ ']' :: rest) = ']' :: rest := by
      rw [skipSpace_append (l.line_isSpace level), skipSpace_cons rfl]
    have hfirst : item.isTextual = true := (Bool.and_eq_true_iff.mp h).1
    obtain ⟨c, cs, hc, hne⟩ := exists_skipSpace_writeItems (l := l) (level + 1) item items
      (l.line level ++ ']' :: rest) hfirst
    rw [write, List.length_cons] at hsteps
    rw [write, readValue_list hc hne, readItems_writeItems (level + 1) item items steps _ rest h
      hend (by simp only [List.length_append, List.length_cons]; omega), Option.map_some]
  | .map (entry :: entries), steps + 1, rest, h, hsteps => by
    have hend : skipSpace (l.line level ++ '\x7d' :: rest) = '\x7d' :: rest := by
      rw [skipSpace_append (l.line_isSpace level), skipSpace_cons rfl]
    obtain ⟨c, cs, hc, hne⟩ := exists_skipSpace_writeEntries (l := l) (level + 1) entry entries
      (l.line level ++ '\x7d' :: rest)
    rw [write, List.length_cons] at hsteps
    rw [write, readValue_map hc hne, readEntries_writeEntries (level + 1) entry entries steps _
      rest h hend (by simp only [List.length_append, List.length_cons]; omega), Option.map_some,
      mapData_some]

/-- Items that were written are read again, in as many steps as they have characters. -/
theorem readItems_writeItems (level : Nat) : (item : Data) → (items : List Data) →
    (steps : Nat) → (after rest : List Char) →
    Data.textualItems (item :: items) = true → skipSpace after = ']' :: rest →
    (l.writeItems level (item :: items) after).length ≤ steps + after.length →
      readItems steps (l.writeItems level (item :: items) after) = some (item :: items, rest)
  | item, items, 0, after, rest, h, hend, hsteps => by
    have := length_writeItems (l := l) level (item :: items) after (List.cons_ne_nil _ _) h
    omega
  | item, [], steps + 1, after, rest, h, hend, hsteps => by
    rw [Data.textualItems, Bool.and_eq_true] at h
    rw [writeItems, List.length_append] at hsteps
    rw [writeItems]
    have hitem := readValue_write level item steps after h.1 (by omega)
    rw [← readValue_gap (l.line_isSpace level)] at hitem
    exact readItems_last hitem hend
  | item, next :: items, steps + 1, after, rest, h, hend, hsteps => by
    rw [Data.textualItems, Bool.and_eq_true] at h
    rw [writeItems_cons, List.length_append] at hsteps
    have hlength := length_write (l := l) level item
      (',' :: l.writeItems level (next :: items) after) h.1
    have hlengths := length_writeItems (l := l) level (next :: items) after
      (List.cons_ne_nil _ _) h.2
    rw [List.length_cons] at hlength
    have hitem := readValue_write level item steps (',' :: l.writeItems level (next :: items) after)
      h.1 (by rw [List.length_cons]; omega)
    rw [← readValue_gap (l.line_isSpace level)] at hitem
    rw [writeItems_cons]
    exact readItems_cons hitem
      (readItems_writeItems level next items steps after rest h.2 hend (by omega))

/-- Entries that were written are read again, in as many steps as they have characters. -/
theorem readEntries_writeEntries (level : Nat) : (entry : String × Data) →
    (entries : List (String × Data)) → (steps : Nat) → (after rest : List Char) →
    Data.textualEntries (entry :: entries) = true → skipSpace after = '\x7d' :: rest →
    (l.writeEntries level (entry :: entries) after).length ≤ steps + after.length →
      readEntries steps (l.writeEntries level (entry :: entries) after) =
        some ((entry :: entries).map (Prod.map some id), rest)
  | entry, entries, 0, after, rest, h, hend, hsteps => by
    have := length_writeEntries (l := l) level (entry :: entries) after (List.cons_ne_nil _ _) h
    omega
  | (name, value), [], steps + 1, after, rest, h, hend, hsteps => by
    rw [Data.textualEntries, Bool.and_eq_true] at h
    have hname := length_writeText name (':' :: (l.afterColon ++ l.write level value after))
    rw [List.length_cons, List.length_append] at hname
    rw [writeEntries, List.length_append] at hsteps
    rw [writeEntries, readEntries_gap (l.line_isSpace level)]
    have hvalue := readValue_write level value steps after h.1 (by omega)
    rw [← readValue_gap l.afterColon_isSpace] at hvalue
    exact readEntries_last hvalue hend
  | (name, value), next :: entries, steps + 1, after, rest, h, hend, hsteps => by
    rw [Data.textualEntries, Bool.and_eq_true] at h
    have hname := length_writeText name (':' :: (l.afterColon ++ l.write level value
      (',' :: l.writeEntries level (next :: entries) after)))
    have hlength := length_write (l := l) level value
      (',' :: l.writeEntries level (next :: entries) after) h.1
    have hlengths := length_writeEntries (l := l) level (next :: entries) after
      (List.cons_ne_nil _ _) h.2
    rw [List.length_cons, List.length_append] at hname
    rw [List.length_cons] at hlength
    rw [writeEntries_cons, List.length_append] at hsteps
    have hvalue := readValue_write level value steps
      (',' :: l.writeEntries level (next :: entries) after) h.1 (by rw [List.length_cons]; omega)
    rw [← readValue_gap l.afterColon_isSpace] at hvalue
    rw [writeEntries_cons, readEntries_gap (l.line_isSpace level)]
    exact readEntries_cons hvalue
      (readEntries_writeEntries level next entries steps after rest h.2 hend (by omega))

end

end Layout

/-- A value made of texts, lists and maps is read back from either layout. -/
theorem read?_render (laidOut : Bool) {value : Data} (h : value.isTextual = true) :
    read? (render laidOut value) = some value := by
  have hvalue := Layout.readValue_write (l := .ofLaidOut laidOut) 0 value
    (((Layout.ofLaidOut laidOut).write 0 value []).length + 1) [] h (by omega)
  simp only [read?, Layout.render_eq, String.toList_ofList, hvalue]
  rfl

/-- The limit on the depth does not matter to what is not too deep. -/
theorem readLimited?_render (laidOut : Bool) {value : Data} (h : value.isTextual = true)
    (hdepth : value.depth ≤ greatestDepth) :
    readLimited? (render laidOut value) = some value := by
  rw [readLimited?, read?_render laidOut h, Option.map_some, Data.limitDepth_of_depth_le _ hdepth]

end CatalogRecords.Json
