import CatalogRecords.Proofs.Json.Texts

/-!
# Layouts

The two layouts of a value differ only in the blanks before items and entries and after colons. A
value made of texts, lists and maps is read from any such layout as itself, and the limit on its
depth leaves it alone if it is not too deep.
-/

namespace CatalogRecords

namespace Data

mutual

/-- Whether a value is made of texts, lists and maps alone. -/
def isTextual : Data → Bool
  | .text _ => true
  | .list items => textualItems items
  | .map entries => textualEntries entries
  | _ => false

/-- `isTextual` of all items. -/
def textualItems : List Data → Bool
  | [] => true
  | item :: items => item.isTextual && textualItems items

/-- `isTextual` of the values of all entries. -/
def textualEntries : List (String × Data) → Bool
  | [] => true
  | (_, value) :: entries => value.isTextual && textualEntries entries

end

mutual

/-- How many lists and maps there are around the innermost values. -/
def depth : Data → Nat
  | .list items => depthItems items + 1
  | .map entries => depthEntries entries + 1
  | _ => 0

/-- The greatest `depth` of an item. -/
def depthItems : List Data → Nat
  | [] => 0
  | item :: items => max item.depth (depthItems items)

/-- The greatest `depth` of the value of an entry. -/
def depthEntries : List (String × Data) → Nat
  | [] => 0
  | (_, value) :: entries => max value.depth (depthEntries entries)

end

mutual

/-- A value that is not too deep is left as it is. -/
theorem limitDepth_of_depth_le {levels : Nat} :
    (value : Data) → value.depth ≤ levels → value.limitDepth levels = value
  | .list items, h => by
    rw [depth] at h
    rw [limitDepth, if_neg (by omega), limitItems_of_depth_le items (by omega)]
  | .map entries, h => by
    rw [depth] at h
    rw [limitDepth, if_neg (by omega), limitEntries_of_depth_le entries (by omega)]
  | .null, _ | .bool _, _ | .int _, _ | .real, _ | .text _, _ | .plain _, _ | .unreadable, _ => by
    rw [limitDepth] <;> simp

/-- No item is cut off where all are within the levels. -/
theorem limitItems_of_depth_le {levels : Nat} :
    (items : List Data) → depthItems items ≤ levels → limitItems levels items = items
  | [], _ => by rw [limitItems]
  | item :: items, h => by
    rw [depthItems] at h
    rw [limitItems, limitDepth_of_depth_le item (by omega),
      limitItems_of_depth_le items (by omega)]

/-- No entry is cut off where all are within the levels. -/
theorem limitEntries_of_depth_le {levels : Nat} :
    (entries : List (String × Data)) → depthEntries entries ≤ levels →
      limitEntries levels entries = entries
  | [], _ => by rw [limitEntries]
  | (name, value) :: entries, h => by
    rw [depthEntries] at h
    rw [limitEntries, limitDepth_of_depth_le value (by omega),
      limitEntries_of_depth_le entries (by omega)]

end

end Data

namespace Json

/-- The blanks of a layout: those in front of what stands on a level, and those after a colon. -/
structure Layout where
  line : Nat → List Char
  afterColon : List Char
  line_isSpace : ∀ level, ∀ c ∈ line level, isSpace c = true
  afterColon_isSpace : ∀ c ∈ afterColon, isSpace c = true

namespace Layout

/-- No blanks at all. -/
def compact : Layout where
  line _ := []
  afterColon := []
  line_isSpace _ := List.forall_mem_nil _
  afterColon_isSpace := List.forall_mem_nil _

/-- Lines that are indented by their level, and a blank after a colon. -/
def pretty : Layout where
  line level := newLine level []
  afterColon := [' ']
  line_isSpace level c hc := by
    rw [newLine, List.append_nil, List.mem_cons] at hc
    rcases hc with rfl | hc
    · rfl
    · rw [List.eq_of_mem_replicate hc]
      rfl
  afterColon_isSpace := List.forall_mem_singleton.mpr rfl

/-- A new line of the pretty writer is the line of the pretty layout. -/
theorem newLine_eq (level : Nat) (rest : List Char) :
    newLine level rest = pretty.line level ++ rest := by
  simp [pretty, newLine]

/-- One of the two layouts. -/
def ofLaidOut (laidOut : Bool) : Layout := if laidOut then pretty else compact

mutual

/-- A value at a level of a layout. -/
def write (l : Layout) (level : Nat) : Data → List Char → List Char
  | .text s, rest => writeText s rest
  | .plain s, rest => writeText s rest
  | .list [], rest => '[' :: ']' :: rest
  | .map [], rest => '\x7b' :: '\x7d' :: rest
  | .list (item :: items), rest =>
    '[' :: writeItems l (level + 1) (item :: items) (l.line level ++ ']' :: rest)
  | .map (entry :: entries), rest =>
    '\x7b' :: writeEntries l (level + 1) (entry :: entries) (l.line level ++ '\x7d' :: rest)
  | other, rest => writeWord other ++ rest

/-- Items at a level of a layout. -/
def writeItems (l : Layout) (level : Nat) : List Data → List Char → List Char
  | [], rest => rest
  | [item], rest => l.line level ++ write l level item rest
  | item :: items, rest =>
    l.line level ++ write l level item (',' :: writeItems l level items rest)

/-- Entries at a level of a layout. -/
def writeEntries (l : Layout) (level : Nat) : List (String × Data) → List Char → List Char
  | [], rest => rest
  | [(name, value)], rest =>
    l.line level ++ writeText name (':' :: (l.afterColon ++ write l level value rest))
  | (name, value) :: entries, rest =>
    l.line level ++ writeText name (':' :: (l.afterColon ++ write l level value
      (',' :: writeEntries l level entries rest)))

end

/-- An item that another follows. -/
theorem writeItems_cons (l : Layout) (level : Nat) (item next : Data) (items : List Data)
    (rest : List Char) :
    l.writeItems level (item :: next :: items) rest =
      l.line level ++ l.write level item (',' :: l.writeItems level (next :: items) rest) := by
  rw [writeItems]
  exact List.cons_ne_nil _ _

/-- An entry that another follows. -/
theorem writeEntries_cons (l : Layout) (level : Nat) (name : String) (value : Data)
    (next : String × Data) (entries : List (String × Data)) (rest : List Char) :
    l.writeEntries level ((name, value) :: next :: entries) rest =
      l.line level ++ writeText name (':' :: (l.afterColon ++ l.write level value
        (',' :: l.writeEntries level (next :: entries) rest))) := by
  rw [writeEntries]
  exact List.cons_ne_nil _ _

mutual

/-- In the compact layout a value is written as the compact writer does, whatever the level. -/
theorem write_compact (level : Nat) :
    (value : Data) → (rest : List Char) →
      compact.write level value rest = writeCompact value rest
  | .list [], rest => by rw [write, writeCompact, compactItems]
  | .map [], rest => by rw [write, writeCompact, compactEntries]
  | .list (item :: items), rest => by
    rw [write, writeCompact, writeItems_compact]
    rfl
  | .map (entry :: entries), rest => by
    rw [write, writeCompact, writeEntries_compact]
    rfl
  | .null, _ | .bool _, _ | .int _, _ | .real, _ | .text _, _ | .plain _, _ | .unreadable, _ => by
    rw [write, writeCompact] <;> simp

/-- In the compact layout items are written as the compact writer does. -/
theorem writeItems_compact (level : Nat) :
    (items : List Data) → (rest : List Char) →
      compact.writeItems level items rest = compactItems items rest
  | [], rest => by rw [writeItems, compactItems]
  | [item], rest => by
    rw [writeItems, compactItems, write_compact]
    rfl
  | item :: next :: items, rest => by
    rw [writeItems, compactItems, write_compact, writeItems_compact] <;> simp [compact]

/-- In the compact layout entries are written as the compact writer does. -/
theorem writeEntries_compact (level : Nat) :
    (entries : List (String × Data)) → (rest : List Char) →
      compact.writeEntries level entries rest = compactEntries entries rest
  | [], rest => by rw [writeEntries, compactEntries]
  | [(name, value)], rest => by
    rw [writeEntries, compactEntries, write_compact]
    rfl
  | (name, value) :: next :: entries, rest => by
    rw [writeEntries, compactEntries, write_compact, writeEntries_compact] <;> simp [compact]

end

mutual

/-- In the pretty layout a value is written as the pretty writer does. -/
theorem write_pretty (level : Nat) :
    (value : Data) → (rest : List Char) →
      pretty.write level value rest = writePretty level value rest
  | .list [], rest => by rw [write, writePretty]
  | .map [], rest => by rw [write, writePretty]
  | .list (item :: items), rest => by
    rw [write, writePretty, writeItems_pretty, newLine_eq]
  | .map (entry :: entries), rest => by
    rw [write, writePretty, writeEntries_pretty, newLine_eq]
  | .null, _ | .bool _, _ | .int _, _ | .real, _ | .text _, _ | .plain _, _ | .unreadable, _ => by
    rw [write, writePretty] <;> simp

/-- In the pretty layout items are written as the pretty writer does. -/
theorem writeItems_pretty (level : Nat) :
    (items : List Data) → (rest : List Char) →
      pretty.writeItems level items rest = prettyItems level items rest
  | [], rest => by rw [writeItems, prettyItems]
  | [item], rest => by
    rw [writeItems, prettyItems, write_pretty, newLine_eq]
  | item :: next :: items, rest => by
    rw [writeItems, prettyItems, write_pretty, writeItems_pretty, newLine_eq] <;> simp

/-- In the pretty layout entries are written as the pretty writer does. -/
theorem writeEntries_pretty (level : Nat) :
    (entries : List (String × Data)) → (rest : List Char) →
      pretty.writeEntries level entries rest = prettyEntries level entries rest
  | [], rest => by rw [writeEntries, prettyEntries]
  | [(name, value)], rest => by
    rw [writeEntries, prettyEntries, write_pretty, newLine_eq]
    rfl
  | (name, value) :: next :: entries, rest => by
    rw [writeEntries, prettyEntries, write_pretty, writeEntries_pretty, newLine_eq] <;>
      simp [pretty]

end

/-- A value in one of the two layouts. -/
theorem render_eq (laidOut : Bool) (value : Data) :
    render laidOut value = String.ofList ((ofLaidOut laidOut).write 0 value []) := by
  cases laidOut with
  | false => exact congrArg String.ofList (write_compact 0 value []).symm
  | true => exact congrArg String.ofList (write_pretty 0 value []).symm

end Layout

/-! What is written in front of a rest of the text is longer than the rest. -/

/-- A character of a text is written as one character at least. -/
theorem length_lt_length_escapeChar (c : Char) (rest : List Char) :
    rest.length < (escapeChar c rest).length := by
  unfold escapeChar
  split
  case h_8 => split <;> simp only [List.length_cons] <;> omega
  all_goals
    simp only [List.length_cons]
    omega

/-- A text takes two characters at least, its quotation marks. -/
theorem length_writeText (s : String) (rest : List Char) :
    rest.length + 2 ≤ (writeText s rest).length := by
  have hchars : ∀ cs : List Char, rest.length < (cs.foldr escapeChar ('"' :: rest)).length := by
    intro cs
    induction cs with
    | nil => exact Nat.lt_succ_self _
    | cons c cs ih => exact Nat.lt_trans ih (length_lt_length_escapeChar _ _)
  have := hchars s.toList
  rw [writeText, List.length_cons]
  omega

namespace Layout

variable {l : Layout}

mutual

/-- A value takes two characters at least. -/
theorem length_write (level : Nat) : (value : Data) → (rest : List Char) →
    value.isTextual = true → rest.length + 2 ≤ (l.write level value rest).length
  | .text s, rest, _ => by
    rw [write]
    exact length_writeText s rest
  | .list [], rest, _ => by simp [write]
  | .map [], rest, _ => by simp [write]
  | .list (item :: items), rest, h => by
    have := length_writeItems (level + 1) (item :: items) (l.line level ++ ']' :: rest)
      (List.cons_ne_nil _ _) h
    simp only [List.length_append, List.length_cons] at this
    rw [write, List.length_cons]
    omega
  | .map (entry :: entries), rest, h => by
    have := length_writeEntries (level + 1) (entry :: entries) (l.line level ++ '\x7d' :: rest)
      (List.cons_ne_nil _ _) h
    simp only [List.length_append, List.length_cons] at this
    rw [write, List.length_cons]
    omega

/-- Items take two characters at least, if there are any. -/
theorem length_writeItems (level : Nat) : (items : List Data) → (rest : List Char) →
    items ≠ [] → Data.textualItems items = true →
      rest.length + 2 ≤ (l.writeItems level items rest).length
  | [], _, hne, _ => absurd rfl hne
  | [item], rest, _, h => by
    rw [Data.textualItems, Bool.and_eq_true] at h
    have := length_write level item rest h.1
    rw [writeItems, List.length_append]
    omega
  | item :: next :: items, rest, _, h => by
    rw [Data.textualItems, Bool.and_eq_true] at h
    have hitem := length_write level item (',' :: l.writeItems level (next :: items) rest) h.1
    have hitems := length_writeItems level (next :: items) rest (List.cons_ne_nil _ _) h.2
    rw [List.length_cons] at hitem
    rw [writeItems_cons, List.length_append]
    omega

/-- Entries take two characters at least, if there are any. -/
theorem length_writeEntries (level : Nat) : (entries : List (String × Data)) →
    (rest : List Char) → entries ≠ [] → Data.textualEntries entries = true →
      rest.length + 2 ≤ (l.writeEntries level entries rest).length
  | [], _, hne, _ => absurd rfl hne
  | [(name, value)], rest, _, h => by
    rw [Data.textualEntries, Bool.and_eq_true] at h
    have hvalue := length_write level value rest h.1
    have hname := length_writeText name (':' :: (l.afterColon ++ l.write level value rest))
    rw [List.length_cons, List.length_append] at hname
    rw [writeEntries, List.length_append]
    omega
  | (name, value) :: next :: entries, rest, _, h => by
    rw [Data.textualEntries, Bool.and_eq_true] at h
    have hvalue := length_write level value
      (',' :: l.writeEntries level (next :: entries) rest) h.1
    have hentries := length_writeEntries level (next :: entries) rest (List.cons_ne_nil _ _) h.2
    have hname := length_writeText name (':' :: (l.afterColon ++ l.write level value
      (',' :: l.writeEntries level (next :: entries) rest)))
    rw [List.length_cons, List.length_append] at hname
    rw [List.length_cons] at hvalue
    rw [writeEntries_cons, List.length_append]
    omega

end

end Layout

end Json

end CatalogRecords
