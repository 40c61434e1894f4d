import CatalogRecords.Data
import CatalogRecords.Number.Binary

/-!
# Decoding records

A decoder asks a value for what it wants: a text, a number below a bound, one of some words, a
list, or a record with named fields. The two notations differ in a few habits. In JSON a record
may also be written as the list of its fields in their declared order, and one of some words as a
map from the word to null; in YAML a value that was left empty is an empty list or record, and a
word without quotes is whatever kind of value is wanted.

The fields of a record carry a proof that they are smaller than the record, so that decoders of
nested records recurse on the value itself.
-/

namespace CatalogRecords

/-- The notation a value was written in. -/
inductive Dialect where
  | json
  | yaml
  deriving DecidableEq, Repr

namespace Data

/-- A value inside `whole`. -/
abbrev Part (whole : Data) := { part : Data // sizeOf part < sizeOf whole }

/-- The fields of a record. In a positional record a field cannot be left out before its default
is known, so one that is missing must have a default. -/
structure Record (whole : Data) where
  entries : List (String × Part whole)
  positional : Bool

/-- Whether a name comes twice among those of interest. -/
def hasTwice (names : List String) : List String → Bool
  | [] => false
  | name :: rest => (names.contains name && rest.contains name) || hasTwice names rest

/-- The entries of a map, each with the proof that it is a part. -/
def mapParts (entries : List (String × Data)) : List (String × Part (.map entries)) :=
  entries.attach.map fun ⟨(name, value), mem⟩ => (name, ⟨value, by
    have := List.sizeOf_lt_of_mem mem
    simp only [Prod.mk.sizeOf_spec] at this
    simp only [Data.map.sizeOf_spec]
    omega⟩)

/-- The items of a list, each with the proof that it is a part. -/
def listParts (items : List Data) : List (Part (.list items)) :=
  items.attach.map fun ⟨item, mem⟩ => ⟨item, by
    have := List.sizeOf_lt_of_mem mem
    simp only [Data.list.sizeOf_spec]
    omega⟩

/-- Reads a value as a record with the given field names. A name among them may not come twice;
other names are skipped over. -/
def record? (dialect : Dialect) (names : List String) : (value : Data) → Option (Record value)
  | .map entries =>
    if hasTwice names (entries.map Prod.fst) then none else some ⟨mapParts entries, false⟩
  | .list items =>
    if dialect = .json ∧ items.length ≤ names.length then
      some ⟨names.zip (listParts items), true⟩
    else none
  | .plain word => if word.isEmpty then some ⟨[], false⟩ else none
  | .null => if dialect = .yaml then some ⟨[], false⟩ else none
  | _ => none

/-- Reads a value as a record that has no other fields than those named. -/
def closedRecord? (dialect : Dialect) (names : List String) (value : Data) :
    Option (Record value) := do
  let record ← record? dialect names value
  if record.entries.all fun (name, _) => names.contains name then some record else none

/-- Whether a value stands for the absence of one. -/
def isAbsent : Data → Bool
  | .null => true
  | .plain word => word.isEmpty || ["~", "null", "Null", "NULL"].contains word
  | _ => false

namespace Record

variable {whole : Data} {α : Type}

/-- The field of a name. -/
def get? (r : Record whole) (name : String) : Option (Part whole) := r.entries.lookup name

/-- A field that must be there. -/
def required (r : Record whole) (name : String) (decode : Part whole → Option α) : Option α := do
  decode (← r.get? name)

/-- A field that has a value when it is left out. -/
def defaulted (r : Record whole) (name : String) (default : α)
    (decode : Part whole → Option α) : Option α :=
  match r.get? name with
  | some part => decode part
  | none => some default

/-- A field that may be absent: left out, except from a positional record, or written as null. -/
def optional (r : Record whole) (name : String) (decode : Part whole → Option α) :
    Option (Option α) :=
  match r.get? name with
  | some part => if part.1.isAbsent then some none else (decode part).map some
  | none => if r.positional then none else some none

/-- A field that may be absent, also from a positional record. -/
def optionalDefault (r : Record whole) (name : String) (decode : Part whole → Option α) :
    Option (Option α) :=
  match r.get? name with
  | some part => if part.1.isAbsent then some none else (decode part).map some
  | none => some none

end Record

/-- Reads a text. -/
def text? : Data → Option String
  | .text s => some s
  | .plain word => some word
  | _ => none

/-- Reads a truth value. -/
def bool? : Data → Option Bool
  | .bool b => some b
  | .plain word =>
    if ["true", "True", "TRUE"].contains word then some true
    else if ["false", "False", "FALSE"].contains word then some false
    else none
  | _ => none

/-- The value of a digit in some base up to sixteen. -/
def digitIn? (base : Nat) (c : Char) : Option Nat :=
  let value? :=
    if c.isDigit then some (c.toNat - '0'.toNat)
    else if 'a' ≤ c ∧ c ≤ 'f' then some (c.toNat - 'a'.toNat + 10)
    else if 'A' ≤ c ∧ c ≤ 'F' then some (c.toNat - 'A'.toNat + 10)
    else none
  value?.filter (· < base)

/-- The value of a numeral in some base. -/
def numeral? (base : Nat) (digits : List Char) : Option Nat :=
  if digits.isEmpty then none
  else digits.foldlM (fun n c => (digitIn? base c).map (base * n + ·)) 0

/-- A numeral with its base in front of it. -/
def basedNumeral? : List Char → Option Nat
  | '0' :: 'x' :: digits => numeral? 16 digits
  | '0' :: 'o' :: digits => numeral? 8 digits
  | '0' :: 'b' :: digits => numeral? 2 digits
  | _ => none

/-- A decimal numeral with no leading zero. -/
def plainNumeral? (digits : List Char) : Option Nat :=
  match digits with
  | '0' :: _ :: _ => none
  | _ => numeral? 10 digits

/-- The integer a word stands for. A word of digits with a leading zero is no number. -/
def wordInt? (word : List Char) : Option Int :=
  match word with
  | '-' :: digits => (basedNumeral? digits <|> plainNumeral? digits).map fun n => -(n : Int)
  | '+' :: digits => (basedNumeral? digits <|> plainNumeral? digits).map Int.ofNat
  | digits => (basedNumeral? digits <|> plainNumeral? digits).map Int.ofNat

/-- Reads an integer from zero up to a greatest value. -/
def nat? (greatest : Nat) (value : Data) : Option Nat :=
  let int? := match value with
    | .int n => some n
    | .plain word => wordInt? word.toList
    | _ => none
  int?.bind fun n => if 0 ≤ n ∧ n ≤ greatest then some n.toNat else none

/-- Reads one of some words. -/
def word? {α : Type} (dialect : Dialect) (words : List (String × α)) : Data → Option α
  | .text s => words.lookup s
  | .plain s => words.lookup s
  | .map [(name, .null)] => if dialect = .json then words.lookup name else none
  | _ => none

/-- Reads a list, decoding its items with the proof that each is a part. -/
def listWith? {α : Type} (dialect : Dialect) :
    (value : Data) → (Part value → Option α) → Option (List α)
  | .list items, decode => (listParts items).mapM decode
  | .plain word, _ => if word.isEmpty then some [] else none
  | .null, _ => if dialect = .yaml then some [] else none
  | _, _ => none

/-- Reads a list. -/
def list? {α : Type} (dialect : Dialect) (decode : Data → Option α) (value : Data) :
    Option (List α) :=
  value.listWith? dialect fun item => decode item.1

/-- Reads a map from texts; a name given twice has the last of its values. -/
def entries? {α : Type} (dialect : Dialect) (decode : Data → Option α) (value : Data) :
    Option (List (String × α)) :=
  match value with
  | .map entries => entries.mapM fun (name, item) => (decode item).map (name, ·)
  | .plain word => if word.isEmpty then some [] else none
  | .null => if dialect = .yaml then some [] else none
  | _ => none

/-- Whether a word is a numeral with a leading zero, which is read as a text: postal codes and
account numbers look like this. -/
def isPaddedNumeral (word : List Char) : Bool :=
  let digits := match word with
    | '-' :: rest => rest
    | '+' :: rest => rest
    | rest => rest
  match digits with
  | '0' :: rest => !rest.isEmpty && rest.all Char.isDigit
  | _ => false

/-- Whether a word stands for a number that is not an integer. No number carries two signs. -/
def isRealWord (word : List Char) : Bool :=
  if isPaddedNumeral word then false
  else match word with
    | '+' :: '+' :: _ => false
    | '+' :: '-' :: _ => false
    | '+' :: rest => infinities.contains (String.ofList rest) || isNumeral rest
    | '-' :: rest => infinities.contains (String.ofList rest) || isNumeral word
    | _ => infinities.contains (String.ofList word) ||
        [".nan", ".NaN", ".NAN"].contains (String.ofList word) || isNumeral word
where
  infinities : List String := [".inf", ".Inf", ".INF"]
  isNumeral (numeral : List Char) : Bool := (Number.readBinary? .double numeral).isSome

/-- The value that a word without quotes stands for when nothing in particular is wanted. -/
def wordValue (word : String) : Data :=
  if (plain word).isAbsent then .null
  else match (plain word).bool? with
    | some b => .bool b
    | none =>
      match wordInt? word.toList with
      | some n =>
        if Number.fitsBits 64 n then .int n
        else if Number.fitsBits 128 n then .unreadable
        else .real
      | none => if isRealWord word.toList then .real else .text word

mutual

/-- The value with every word taken for what it stands for by itself. -/
def settle : Data → Data
  | .plain word => wordValue word
  | .list items => .list (settleItems items)
  | .map entries => .map (settleEntries entries)
  | other => other

/-- `settle` on the items of a list. -/
def settleItems : List Data → List Data
  | [] => []
  | item :: items => item.settle :: settleItems items

/-- `settle` on the entries of a map. -/
def settleEntries : List (String × Data) → List (String × Data)
  | [] => []
  | (name, value) :: entries => (name, value.settle) :: settleEntries entries

end

end Data

end CatalogRecords
