import CatalogRecords.Text.Segments

/-!
# Arguments of the command line

A call names a command, perhaps in two steps, and gives options and arguments. The options of a
command may stand anywhere after its name, those for all commands also before it; an option that
wants a value takes what follows an equals sign, or else the next argument, which may not look like
an option. After two dashes alone everything is an argument.
-/

namespace CatalogRecords.CommandLine

/-- The commands, with those that only lead to others. -/
inductive CommandName where
  | catalog
  | inspect
  | validate
  | checkQuery
  | eval
  | terms
  | termsAdd
  | termsRemove
  | termsList
  | migrate
  | migrateUp
  | migrateDown
  | migrateSeed
  | migrateRefresh
  | migrateStatus
  deriving DecidableEq, Repr

/-- The options of commands. -/
inductive OptionName where
  | config
  | verbose
  | schemas
  | dictionary
  | tablePrefix
  | json
  | allowStorageOnly
  | lenient
  | decimal
  | db
  | url
  | startsWith
  | source
  deriving DecidableEq, Repr

/-- What an option or an argument accepts. -/
inductive ValueKind where
  | text
  | path
  /-- The word for a decimal separator. -/
  | separator
  deriving DecidableEq, Repr

/-- Whether a text is a value of a kind. -/
def ValueKind.accepts : ValueKind → String → Bool
  | text, _ => true
  | path, value => !value.isEmpty
  | separator, value => ["point", "comma"].contains value

namespace OptionName

/-- The word for an option. -/
def word : OptionName → String
  | config => "config"
  | verbose => "verbose"
  | schemas => "schemas"
  | dictionary => "dictionary"
  | tablePrefix => "prefix"
  | json => "json"
  | allowStorageOnly => "allow-storage-only"
  | lenient => "lenient"
  | decimal => "decimal"
  | db => "db"
  | url => "url"
  | startsWith => "starts-with"
  | source => "source"

/-- What an option accepts; some are given without a value. -/
def value? : OptionName → Option ValueKind
  | config => some .path
  | schemas => some .path
  | dictionary => some .path
  | db => some .path
  | source => some .path
  | tablePrefix => some .text
  | url => some .text
  | startsWith => some .text
  | decimal => some .separator
  | verbose => none
  | json => none
  | allowStorageOnly => none
  | lenient => none

end OptionName

/-- What arguments a command wants, besides its options. -/
structure Parameters where
  /-- The arguments that come first. -/
  required : List ValueKind
  /-- Arguments that may follow. -/
  optional : List ValueKind := []
  /-- Arguments of which there is at least one after the required ones. -/
  repeated : Option ValueKind := none

/-- What an argument has to be when so many came before it. -/
def Parameters.kind? (p : Parameters) (count : Nat) : Option ValueKind :=
  (p.required ++ p.optional)[count]? <|> p.repeated

/-- The least number of arguments. -/
def Parameters.least (p : Parameters) : Nat :=
  p.required.length + if p.repeated.isSome then 1 else 0

namespace CommandName

/-- The commands that a command leads to. -/
def subcommands : CommandName → List (String × CommandName)
  | catalog => [("inspect", inspect), ("validate", validate), ("check-query", checkQuery),
      ("eval", eval), ("terms", terms), ("migrate", migrate)]
  | terms => [("add", termsAdd), ("remove", termsRemove), ("list", termsList)]
  | migrate => [("up", migrateUp), ("down", migrateDown), ("seed", migrateSeed),
      ("refresh", migrateRefresh), ("status", migrateStatus)]
  | _ => []

/-- Whether a command only leads to others. -/
def isGroup (c : CommandName) : Bool := !c.subcommands.isEmpty

/-- The options that only some commands have. -/
def ownOptions : CommandName → List OptionName
  | inspect => [.schemas]
  | validate => [.schemas, .dictionary, .tablePrefix, .json]
  | checkQuery => [.schemas, .allowStorageOnly, .lenient]
  | eval => [.schemas, .decimal]
  | termsAdd => [.db, .tablePrefix, .url]
  | termsRemove => [.db, .tablePrefix]
  | termsList => [.db, .tablePrefix, .startsWith, .json]
  | migrateUp => [.db, .tablePrefix]
  | migrateDown => [.db, .tablePrefix]
  | migrateSeed => [.db, .tablePrefix, .source]
  | migrateRefresh => [.db, .tablePrefix, .source]
  | migrateStatus => [.db, .tablePrefix]
  | catalog => []
  | terms => []
  | migrate => []

/-- The options of a command. -/
def options (c : CommandName) : List OptionName := [.config, .verbose] ++ c.ownOptions

/-- The options that have to be given. -/
def requiredOptions : CommandName → List OptionName
  | migrateSeed => [.source]
  | migrateRefresh => [.source]
  | _ => []

/-- The arguments that a command wants. -/
def parameters : CommandName → Parameters
  | inspect => ⟨[.text], [], none⟩
  | validate => ⟨[], [], some .path⟩
  | checkQuery => ⟨[.text], [], none⟩
  | eval => ⟨[.text], [], some .path⟩
  | termsAdd => ⟨[.text, .text], [], none⟩
  | termsRemove => ⟨[.text], [.text], none⟩
  | termsList => ⟨[.text], [], none⟩
  | _ => ⟨[], [], none⟩

/-- Whether names lead to a command from this one; the last may ask for help. -/
def leads (c : CommandName) : List String → Bool
  | [] => true
  | name :: names =>
    match c.subcommands.lookup name with
    | some inner => inner.leads names
    | none => name == "help" && c.isGroup && names.isEmpty

end CommandName

/-- A command with what is given to it. An option that is given at several places has the value
that comes last. -/
structure Call where
  command : CommandName := .catalog
  /-- The options given before the name of the command. -/
  outer : List (OptionName × String) := []
  /-- The options given after the name of the command. -/
  inner : List (OptionName × String) := []
  arguments : List String := []
  deriving Repr

/-- Why no command is run. -/
inductive Halt where
  | help
  | version
  | misuse
  deriving DecidableEq, Repr

namespace Call

/-- The value of an option. -/
def value? (c : Call) (name : OptionName) : Option String :=
  ((c.outer ++ c.inner).reverse).lookup name

/-- Whether an option is given. -/
def has (c : Call) (name : OptionName) : Bool := (c.value? name).isSome

/-- The option of a word. -/
def option? (c : Call) (word : String) : Option OptionName :=
  c.command.options.find? fun name => name.word == word

/-- Gives a value to an option, which may not have one at this place. -/
def withOption (c : Call) (name : OptionName) (value : String) : Except Halt Call :=
  let isValue := match name.value? with
    | some kind => kind.accepts value
    | none => true
  if isValue && !(c.inner.map Prod.fst).contains name then
    .ok { c with inner := c.inner ++ [(name, value)] }
  else .error .misuse

/-- Gives an argument. -/
def withArgument (c : Call) (value : String) : Except Halt Call :=
  match c.command.parameters.kind? c.arguments.length with
  | some kind =>
    if kind.accepts value then .ok { c with arguments := c.arguments ++ [value] }
    else .error .misuse
  | none => .error .misuse

/-- Goes on to a command that this one leads to. -/
def enter (c : Call) (command : CommandName) : Call :=
  { command := command, outer := c.outer ++ c.inner }

/-- Reads letters after one dash. -/
def withLetters (c : Call) : List Char → Except Halt Call
  | [] => .ok c
  | letter :: letters =>
    if letter = 'h' then .error .help
    else if letter = 'V' ∧ c.command = .catalog then .error .version
    else if letter = 'v' then do (← c.withOption .verbose "").withLetters letters
    else .error .misuse

/-- The call if nothing is missing. -/
def complete (c : Call) : Except Halt Call :=
  if !c.command.isGroup && c.command.parameters.least ≤ c.arguments.length &&
      c.command.requiredOptions.all c.has then .ok c
  else .error .misuse

/-- Reads arguments of which none is an option. -/
def readArguments (c : Call) (args : List String) : Except Halt Call := do
  (← args.foldlM withArgument c).complete

/-- Reads a word after two dashes: an option with or without its value. The option that waits for
its value is given back. -/
def readWord (c : Call) (word : String) : Except Halt (Call × Option OptionName) :=
  let (name, attached) := match Text.splitOnce? '=' word with
    | some (name, value) => (name, some value)
    | none => (word, none)
  if name = "help" ∧ attached = none then .error .help
  else if name = "version" ∧ c.command = .catalog ∧ attached = none then .error .version
  else match c.option? name with
    | none => .error .misuse
    | some option =>
      match option.value?, attached with
      | some _, some value => (c.withOption option value).map (·, none)
      | some _, none => .ok (c, some option)
      | none, none => (c.withOption option "").map (·, none)
      | none, some _ => .error .misuse

/-- Reads the arguments of a call; `waiting` is the option whose value comes next. -/
def read (c : Call) : (waiting : Option OptionName) → List String → Except Halt Call
  | some _, [] => .error .misuse
  | none, [] => c.complete
  | waiting, arg :: args =>
    match waiting, arg.toList with
    | some _, '-' :: _ :: _ => .error .misuse
    | some option, _ => do (← c.withOption option arg).read none args
    | none, ['-', '-'] => c.readArguments args
    | none, '-' :: '-' :: word => do
      let (c, waiting) ← c.readWord (String.ofList word)
      c.read waiting args
    | none, '-' :: letter :: letters => do (← c.withLetters (letter :: letters)).read none args
    | none, _ =>
      if c.command.isGroup then
        match c.command.subcommands.lookup arg with
        | some command => (c.enter command).read none args
        | none => .error (if arg = "help" ∧ c.command.leads args then .help else .misuse)
      else do (← c.withArgument arg).read none args

/-- Reads a call from the arguments of the command line. -/
def ofArguments (args : List String) : Except Halt Call := ({} : Call).read none args

end Call

end CatalogRecords.CommandLine
