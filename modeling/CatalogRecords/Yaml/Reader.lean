import CatalogRecords.Text.Segments
import CatalogRecords.Yaml.Node

/-!
# Reading YAML

The part of YAML that people write by hand: lists and maps in blocks or in brackets, words without
quotes, texts in single or double quotes, texts kept line by line after a bar, comments, and one
document that may begin with three dashes. There are no anchors, tags or keys that are not scalars
on one line. A text is read by its lines, where the blanks at the start of a line tell what it
belongs to; what is in quotes or brackets may run on over lines.
-/

namespace CatalogRecords.Yaml

/-- A line of a document. -/
abbrev Line := List Char

/-- The characters that separate words within a line. -/
def isGap (c : Char) : Bool := c == ' ' || c == '\t'

/-- How far a line is indented. -/
def indentOf (line : Line) : Nat := (line.takeWhile (· == ' ')).length

/-- A line without its indentation. -/
def contentOf (line : Line) : Line := line.dropWhile (· == ' ')

/-- A line that is indented so far. -/
def indented (indent : Nat) (content : List Char) : Line := List.replicate indent ' ' ++ content

/-- Whether nothing but blanks and a comment is left of a line. -/
def isSpent (cs : List Char) : Bool :=
  match cs.dropWhile isGap with
  | [] => true
  | c :: _ => c == '#'

/-- Whether what follows the end of a quoted or bracketed value is nothing but blanks and a comment,
with a blank before the comment. -/
def endsLine (cs : List Char) : Bool :=
  match cs with
  | '#' :: _ => false
  | cs => isSpent cs

/-- The lines from the first one that holds something. -/
def skipSpent (lines : List Line) : List Line := lines.dropWhile isSpent

/-- Whether nothing or a blank follows. -/
def atGap : List Char → Bool
  | [] => true
  | c :: _ => isGap c || c == '\n'

/-- A text without the blanks at its end. -/
def trimGapEnd (cs : List Char) : List Char := (cs.reverse.dropWhile isGap).reverse

/-! Quoted texts. -/

/-- Skips blanks and line breaks, counting the breaks. -/
def skipBreaks : Nat → List Char → Nat × List Char
  | count, [] => (count, [])
  | count, c :: cs =>
    if c = '\n' then skipBreaks (count + 1) cs
    else if isGap c then skipBreaks count cs
    else (count, c :: cs)

/-- What some line breaks in a row stand for: one is a blank, each further one a line break. -/
def folded (count : Nat) : List Char :=
  if count = 1 then [' '] else List.replicate (count - 1) '\n'

/-- Reads a text in single quotes after the opening one, where two quotes stand for one. -/
def readSingle : Nat → List Char → Option (List Char × List Char)
  | 0, _ => none
  | steps + 1, cs =>
    match cs with
    | [] => none
    | '\'' :: '\'' :: cs => (readSingle steps cs).map fun (text, rest) => ('\'' :: text, rest)
    | '\'' :: cs => some ([], cs)
    | c :: cs =>
      let (breaks, after) := skipBreaks 0 (c :: cs)
      if 0 < breaks then
        (readSingle steps after).map fun (text, rest) => (folded breaks ++ text, rest)
      else (readSingle steps cs).map fun (text, rest) => (c :: text, rest)

/-- The value of hexadecimal digits. -/
def hexValue? (digits : List Char) : Option Nat := Data.numeral? 16 digits

/-- The character that so many hexadecimal digits stand for, and what follows them. -/
def readCode (width : Nat) (cs : List Char) : Option (Char × List Char) := do
  let digits := cs.take width
  let code ← hexValue? digits
  if digits.length = width ∧ code.isValidChar then some (Char.ofNat code, cs.drop width) else none

/-- The character that an escape stands for, after its backslash, and what follows. -/
def readEscape : List Char → Option (Char × List Char)
  | [] => none
  | c :: cs =>
    match c with
    | '0' => some ('\x00', cs)
    | 'a' => some ('\x07', cs)
    | 'b' => some ('\x08', cs)
    | 't' => some ('\t', cs)
    | '\t' => some ('\t', cs)
    | 'n' => some ('\n', cs)
    | 'v' => some ('\x0b', cs)
    | 'f' => some ('\x0c', cs)
    | 'r' => some ('\r', cs)
    | 'e' => some ('\x1b', cs)
    | ' ' => some (' ', cs)
    | '"' => some ('"', cs)
    | '/' => some ('/', cs)
    | '\\' => some ('\\', cs)
    | 'N' => some (Char.ofNat 0x85, cs)
    | '_' => some (Char.ofNat 0xa0, cs)
    | 'L' => some (Char.ofNat 0x2028, cs)
    | 'P' => some (Char.ofNat 0x2029, cs)
    | 'x' => readCode 2 cs
    | 'u' => readCode 4 cs
    | 'U' => readCode 8 cs
    | _ => none

/-- Reads a text in double quotes after the opening one. -/
def readDouble : Nat → List Char → Option (List Char × List Char)
  | 0, _ => none
  | steps + 1, cs =>
    match cs with
    | [] => none
    | '"' :: cs => some ([], cs)
    | '\\' :: '\n' :: cs =>
      let (breaks, after) := skipBreaks 0 cs
      (readDouble steps after).map fun (text, rest) => (List.replicate breaks '\n' ++ text, rest)
    | '\\' :: cs => do
      let (c, cs) ← readEscape cs
      (readDouble steps cs).map fun (text, rest) => (c :: text, rest)
    | c :: cs =>
      let (breaks, after) := skipBreaks 0 (c :: cs)
      if 0 < breaks then
        (readDouble steps after).map fun (text, rest) => (folded breaks ++ text, rest)
      else (readDouble steps cs).map fun (text, rest) => (c :: text, rest)

/-- Reads a quoted text, if there is one. -/
def readQuoted? (cs : List Char) : Option (Option (String × List Char)) :=
  let read? (result : Option (List Char × List Char)) : Option (Option (String × List Char)) :=
    some (result.map fun (text, rest) => (String.ofList text, rest))
  match cs with
  | '"' :: rest => read? (readDouble (rest.length + 1) rest)
  | '\'' :: rest => read? (readSingle (rest.length + 1) rest)
  | _ => none

/-! Words. -/

/-- The characters that no word begins with. -/
def isIndicator (c : Char) : Bool :=
  [',', '[', ']', '\x7b', '\x7d', '#', '&', '*', '!', '|', '>', '\'', '"', '%', '@',
    '\x60'].contains c

/-- Whether a word can begin here. In brackets, what separates values does not go with a dash, a
question mark or a colon. -/
def beginsWord (stop : Char → Bool) : List Char → Bool
  | [] => false
  | c :: cs =>
    if c == '-' || c == '?' || c == ':' then
      !atGap cs && !cs.head?.any stop
    else !isIndicator c && !isGap c

/-- The separators in brackets. -/
def isFlowStop (c : Char) : Bool := [',', '[', ']', '\x7b', '\x7d'].contains c

/-- The part of a word on one line, and what follows it: a colon before a gap, a comment after a
gap, a separator, or nothing. -/
def readWord (stop : Char → Bool) : (afterGap : Bool) → List Char → List Char × List Char
  | _, [] => ([], [])
  | afterGap, c :: cs =>
    let endsKey := c == ':' && (atGap cs || cs.head?.any stop)
    if c == '\n' || stop c || endsKey || (c == '#' && afterGap) then
      ([], c :: cs)
    else
      let (word, rest) := readWord stop (isGap c) cs
      (c :: word, rest)

/-! Values in brackets. -/

/-- Skips blanks, line breaks and comments; the flag says whether a comment may begin here. -/
def skipFlow : (afterGap inComment : Bool) → List Char → List Char
  | _, _, [] => []
  | afterGap, inComment, c :: cs =>
    if c = '\n' then skipFlow true false cs
    else if inComment then skipFlow true true cs
    else if isGap c then skipFlow true false cs
    else if c = '#' ∧ afterGap then skipFlow true true cs
    else c :: cs

/-- Reads a word in brackets, which may go on over lines. -/
def readFlowWord : Nat → List Char → List Char × List Char
  | 0, cs => ([], cs)
  | steps + 1, cs =>
    let (word, rest) := readWord isFlowStop false cs
    match rest with
    | '\n' :: _ =>
      let (breaks, after) := skipBreaks 0 rest
      let (more, rest) := readFlowWord steps after
      let further := if more.isEmpty then [] else folded breaks ++ more
      (trimGapEnd word ++ further, rest)
    | _ => (trimGapEnd word, rest)

mutual

/-- Reads a value in brackets. -/
def readFlow : Nat → List Char → Option (Node × List Char)
  | 0, _ => none
  | steps + 1, cs =>
    match cs with
    | '[' :: cs => (readFlowItems steps (skipFlow true false cs)).map fun (items, rest) =>
        (.list items, rest)
    | '\x7b' :: cs => (readFlowEntries steps (skipFlow true false cs)).map fun (entries, rest) =>
        (.map entries, rest)
    | cs =>
      match readQuoted? cs with
      | some quoted => quoted.map fun (text, rest) => (.scalar false text, rest)
      | none =>
        if beginsWord isFlowStop cs then
          let (word, rest) := readFlowWord cs.length cs
          some (.scalar true (String.ofList word), rest)
        else none

/-- Reads the value after a colon in brackets, if there is a colon. -/
def readFlowValue : Nat → List Char → Option (Option Node × List Char)
  | 0, _ => none
  | steps + 1, cs =>
    match cs with
    | ':' :: cs =>
      match skipFlow true false cs with
      | c :: rest =>
        if isFlowStop c ∧ c ≠ '[' ∧ c ≠ '\x7b' then some (some .absent, c :: rest)
        else (readFlow steps (c :: rest)).map fun (value, rest) =>
          (some value, skipFlow false false rest)
      | [] => none
    | cs => some (none, cs)

/-- Reads the items of a list up to its closing bracket. -/
def readFlowItems : Nat → List Char → Option (List Node × List Char)
  | 0, _ => none
  | steps + 1, cs =>
    match cs with
    | ']' :: rest => some ([], rest)
    | cs => do
      let (first, rest) ← readFlow steps cs
      let (value, rest) ← readFlowValue steps (skipFlow false false rest)
      let item := match value with
        | some value => .map [(first, value)]
        | none => first
      match rest with
      | ']' :: rest => some ([item], rest)
      | ',' :: rest =>
        let (items, rest) ← readFlowItems steps (skipFlow true false rest)
        some (item :: items, rest)
      | _ => none

/-- Reads the entries of a map up to its closing brace. -/
def readFlowEntries : Nat → List Char → Option (List (Node × Node) × List Char)
  | 0, _ => none
  | steps + 1, cs =>
    match cs with
    | '\x7d' :: rest => some ([], rest)
    | cs => do
      let (key, rest) ← readFlow steps cs
      let (value, rest) ← readFlowValue steps (skipFlow false false rest)
      let entry := (key, value.getD .absent)
      match rest with
      | '\x7d' :: rest => some ([entry], rest)
      | ',' :: rest =>
        let (entries, rest) ← readFlowEntries steps (skipFlow true false rest)
        some (entry :: entries, rest)
      | _ => none

end

/-! Texts kept line by line. -/

/-- How a text kept line by line ends: with one line break, with none, or with all there are. -/
inductive Chomping where
  | clip
  | strip
  | keep
  deriving DecidableEq

/-- Reads what may follow the bar: how far the text is indented, if that is said, and its end. -/
def readHeader (cs : List Char) : Option (Option Nat × Chomping) :=
  let step (state : Option Nat × Option Chomping) (c : Char) :
      Option (Option Nat × Option Chomping) :=
    match state, c with
    | (indent, none), '-' => some (indent, some .strip)
    | (indent, none), '+' => some (indent, some .keep)
    | (none, chomping), c =>
      if '1' ≤ c ∧ c ≤ '9' then some (some (c.toNat - '0'.toNat), chomping) else none
    | _, _ => none
  let marks := cs.takeWhile fun c => !isGap c
  if isSpent (cs.dropWhile fun c => !isGap c) then
    (marks.foldlM step (none, none)).map fun (indent, chomping) => (indent, chomping.getD .clip)
  else none

/-- The lines without those at the end that hold nothing but blanks. -/
def trimLines (lines : List Line) : List Line :=
  (lines.reverse.dropWhile fun line => (contentOf line).isEmpty).reverse

/-- Reads a text kept line by line after its bar; its lines are indented by at least `floor`. -/
def readLiteral (floor : Nat) (header : List Char) (lines : List Line) :
    Option (Node × List Line) := do
  let (extra, chomping) ← readHeader header
  let filled := lines.dropWhile fun line => (contentOf line).isEmpty
  let indent := match extra, filled with
    | some extra, _ => floor - 1 + extra
    | none, line :: _ => max floor (indentOf line)
    | none, [] => floor
  let belongs (line : Line) : Bool := (contentOf line).isEmpty || indent ≤ indentOf line
  let kept := (lines.takeWhile belongs).map (List.drop indent)
  let body := trimLines kept
  let ending := match chomping with
    | .strip => []
    | .clip => if body.isEmpty then [] else ['\n']
    | .keep => List.replicate (kept.length - body.length + if body.isEmpty then 0 else 1) '\n'
  some (.scalar false (String.ofList (Text.joinChars '\n' body ++ ending)), lines.dropWhile belongs)

/-! Values after a key or a dash. -/

/-- The further lines of a word: each is indented by at least `floor`, and blank lines between them
are line breaks. -/
def readFurther (floor : Nat) : (blank : Nat) → List Line → Option (List Char × List Line)
  | blank, [] => some ([], List.replicate blank [])
  | blank, line :: lines =>
    let content := line.dropWhile isGap
    if content.isEmpty then readFurther floor (blank + 1) lines
    else if indentOf line < floor ∨ content.head? = some '#' then
      some ([], List.replicate blank [] ++ line :: lines)
    else
      let (word, rest) := readWord (fun _ => false) false content
      match rest with
      | [] => do
        let (more, lines) ← readFurther floor 0 lines
        some (folded (blank + 1) ++ trimGapEnd word ++ more, lines)
      | '#' :: _ => some (folded (blank + 1) ++ trimGapEnd word, lines)
      | _ => none

/-- Reads what stands in brackets or quotes, which may go on over lines, to the end of its last
line. -/
def readRunning (read : List Char → Option (Node × List Char)) (cs : List Char)
    (lines : List Line) : Option (Node × List Line) := do
  let (node, rest) ← read (Text.joinChars '\n' (cs :: lines))
  match Text.splitChars '\n' rest with
  | line :: lines => if endsLine line then some (node, lines) else none
  | [] => some (node, [])

/-- Reads a value that begins on a line; its further lines are indented by at least `floor`. -/
def readInline (floor : Nat) (cs : List Char) (lines : List Line) : Option (Node × List Line) :=
  let running (cs : List Char) := readRunning (fun cs => readFlow (cs.length + 1) cs) cs lines
  match cs with
  | '[' :: _ => running cs
  | '\x7b' :: _ => running cs
  | '"' :: _ => running cs
  | '\'' :: _ => running cs
  | '|' :: header => readLiteral floor header lines
  | cs =>
    if beginsWord (fun _ => false) cs then
      let (word, rest) := readWord (fun _ => false) false cs
      match rest with
      | [] => (readFurther floor 0 lines).map fun (more, lines) =>
          (.scalar true (String.ofList (trimGapEnd word ++ more)), lines)
      | '#' :: _ => some (.scalar true (String.ofList (trimGapEnd word)), lines)
      | _ => none
    else none

/-! Blocks. -/

/-- The key that a line begins with and what follows its colon. -/
def splitKey? (cs : List Char) : Option (Node × List Char) :=
  let afterColon? (rest : List Char) : Option (List Char) :=
    match rest.dropWhile isGap with
    | ':' :: rest => if atGap rest then some rest else none
    | _ => none
  match readQuoted? cs with
  | some quoted => do
    let (text, rest) ← quoted
    (afterColon? rest).map fun rest => (.scalar false text, rest)
  | none =>
    if beginsWord (fun _ => false) cs then
      let (word, rest) := readWord (fun _ => false) false cs
      (afterColon? rest).map fun rest => (.scalar true (String.ofList (trimGapEnd word)), rest)
    else none

/-- What follows the dash of a list item. -/
def splitDash? : List Char → Option (List Char)
  | '-' :: cs => if atGap cs then some cs else none
  | _ => none

mutual

/-- Reads a block that is indented by at least `floor`; there may be none. -/
def readBlock : Nat → (floor : Nat) → List Line → Option (Node × List Line)
  | 0, _, _ => none
  | steps + 1, floor, lines =>
    match skipSpent lines with
    | [] => some (.absent, [])
    | line :: rest =>
      let indent := indentOf line
      let content := contentOf line
      if indent < floor then some (.absent, line :: rest)
      else if (splitDash? content).isSome then
        (readItems steps indent (line :: rest)).map fun (items, lines) => (.list items, lines)
      else if (splitKey? content).isSome then
        (readEntries steps indent (line :: rest)).map fun (entries, lines) => (.map entries, lines)
      else readInline floor content rest

/-- Reads the items of a list with the given indentation. -/
def readItems : Nat → (indent : Nat) → List Line → Option (List Node × List Line)
  | 0, _, _ => none
  | steps + 1, indent, lines =>
    match skipSpent lines with
    | [] => some ([], [])
    | line :: rest =>
      if indent < indentOf line then none
      else
        match splitDash? (contentOf line) with
        | some after =>
          if indentOf line < indent then some ([], line :: rest)
          else do
            let inner := if isSpent after then rest else indented (indent + 1) after :: rest
            let (item, lines) ← readBlock steps (indent + 1) inner
            let (items, lines) ← readItems steps indent lines
            some (item :: items, lines)
        | none => some ([], line :: rest)

/-- Reads the entries of a map with the given indentation. A list may be indented as far as the
key it belongs to. -/
def readEntries : Nat → (indent : Nat) → List Line → Option (List (Node × Node) × List Line)
  | 0, _, _ => none
  | steps + 1, indent, lines =>
    match skipSpent lines with
    | [] => some ([], [])
    | line :: rest =>
      if indentOf line < indent then some ([], line :: rest)
      else if indent < indentOf line then none
      else do
        let (key, after) ← splitKey? (contentOf line)
        let (value, lines) ←
          if isSpent after then
            match skipSpent rest with
            | next :: further =>
              if indentOf next = indent ∧ (splitDash? (contentOf next)).isSome then
                (readItems steps indent (next :: further)).map fun (items, lines) =>
                  (Node.list items, lines)
              else readBlock steps (indent + 1) rest
            | [] => some (.absent, [])
          else readInline (indent + 1) (after.dropWhile isGap) rest
        let (entries, lines) ← readEntries steps indent lines
        some ((key, value) :: entries, lines)

end

/-! Documents. -/

/-- Whether a line begins with three times a mark, followed by nothing or a blank. -/
def isMarker (mark : Char) (line : Line) : Bool :=
  line.take 3 == [mark, mark, mark] && atGap (line.drop 3)

/-- What stands behind the dashes that begin the only document, if there are any, and its further
lines, up to the dots that end it. -/
def documentLines? (lines : List Line) : Option (List Char × List Line) :=
  let isPreamble (line : Line) := isSpent line || line.head? == some '%'
  let (first, started) := match lines.dropWhile isPreamble with
    | line :: rest => if isMarker '-' line then (line.drop 3, rest) else ([], skipSpent lines)
    | [] => ([], [])
  let isEnd (line : Line) := isMarker '-' line || isMarker '.' line
  match started.dropWhile fun line => !isEnd line with
  | [] => some (first, started)
  | line :: rest =>
    if isMarker '.' line && rest.all isSpent then
      some (first, started.takeWhile fun line => !isEnd line)
    else none

/-- A line without the carriage return at its end. -/
def trimReturn (line : Line) : Line :=
  if line.getLast? = some '\r' then line.dropLast else line

/-- Reads a text that holds one document. Behind the dashes that begin it no block can begin. -/
def read? (text : String) : Option Node := do
  let cs := match text.toList with
    | '\ufeff' :: cs => cs
    | cs => cs
  let (first, lines) ← documentLines? ((Text.splitChars '\n' cs).map trimReturn)
  let (node, rest) ←
    if isSpent first then readBlock (2 * cs.length + 8) 0 lines
    else readInline 0 (first.dropWhile isGap) lines
  if rest.all isSpent then some node else none

end CatalogRecords.Yaml
