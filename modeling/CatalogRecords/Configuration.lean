import CatalogRecords.Registry
import CatalogRecords.Value
import CatalogRecords.Yaml.Writer

/-!
# Configurations

A configuration says where definitions and dictionaries are and how numbers and queries are read.
Everything in it may be left out. In a file, words stand for what they look like, so that a version
has to be quoted to be a text.
-/

namespace CatalogRecords

open Data (text? bool? list?)

/-- Where definitions are, in the order in which they are tried: directories, then bundles. -/
structure SchemaSources where
  directories : List String := []
  bundles : List String := []
  deriving DecidableEq, Repr

/-- Where the terms of dictionaries are. -/
structure DictionarySettings where
  path : String
  tablePrefix : String := "cat_"
  deriving DecidableEq, Repr

/-- How queries are read and checked. -/
structure QuerySettings where
  lenientParsing : Bool := false
  allowStorageOnly : Bool := false
  deriving DecidableEq, Repr

/-- Where definitions and dictionaries are and how numbers and queries are read. -/
structure Configuration where
  version : String := "1.0"
  convention : DecimalConvention := .point
  schemas : SchemaSources := {}
  dictionary : Option DictionarySettings := none
  query : QuerySettings := {}
  deriving DecidableEq, Repr

/-- Reads where definitions are. -/
def SchemaSources.decode? (dialect : Dialect) (value : Data) : Option SchemaSources := do
  let r ← value.record? dialect ["dirs", "bundles"]
  some {
    directories := ← r.defaulted "dirs" [] fun part => list? dialect text? part.1
    bundles := ← r.defaulted "bundles" [] fun part => list? dialect text? part.1 }

/-- The sources as they are written. -/
def SchemaSources.encode (s : SchemaSources) : Data :=
  .map [("dirs", .ofTexts s.directories), ("bundles", .ofTexts s.bundles)]

/-- Reads where the terms of dictionaries are. -/
def DictionarySettings.decode? (dialect : Dialect) (value : Data) : Option DictionarySettings := do
  let r ← value.record? dialect ["path", "prefix"]
  some {
    path := ← r.required "path" fun part => text? part.1
    tablePrefix := ← r.defaulted "prefix" "cat_" fun part => text? part.1 }

/-- The place of the terms as it is written. -/
def DictionarySettings.encode (s : DictionarySettings) : Data :=
  .map [("path", .text s.path), ("prefix", .text s.tablePrefix)]

/-- Reads how queries are read and checked. -/
def QuerySettings.decode? (dialect : Dialect) (value : Data) : Option QuerySettings := do
  let r ← value.record? dialect ["lenient_parsing", "allow_storage_only_metafields"]
  some {
    lenientParsing := ← r.defaulted "lenient_parsing" false fun part => bool? part.1
    allowStorageOnly := ← r.defaulted "allow_storage_only_metafields" false fun part =>
      bool? part.1 }

/-- The settings of queries as they are written. -/
def QuerySettings.encode (s : QuerySettings) : Data :=
  .map [("lenient_parsing", .bool s.lenientParsing),
    ("allow_storage_only_metafields", .bool s.allowStorageOnly)]

namespace Configuration

/-- Reads a configuration. -/
def decode? (dialect : Dialect) (value : Data) : Option Configuration := do
  let r ← value.record? dialect ["version", "decimal_separator", "schemas", "dictionary", "query"]
  some {
    version := ← r.defaulted "version" "1.0" fun part => text? part.1
    convention := ← r.defaulted "decimal_separator" .point fun part =>
      part.1.word? dialect DecimalConvention.words
    schemas := ← r.defaulted "schemas" {} fun part => SchemaSources.decode? dialect part.1
    dictionary := ← r.optionalDefault "dictionary" fun part =>
      DictionarySettings.decode? dialect part.1
    query := ← r.defaulted "query" {} fun part => QuerySettings.decode? dialect part.1 }

/-- A configuration as it is written. -/
def encode (c : Configuration) : Data :=
  .map ([("version", .text c.version), ("decimal_separator", .text c.convention.word),
    ("schemas", c.schemas.encode)] ++
    Data.entryIfSome "dictionary" (c.dictionary.map DictionarySettings.encode) ++
    [("query", c.query.encode)])

/-- Reads the text of a file; one that holds nothing is a configuration with nothing in it. -/
def ofText? (text : String) : Option Configuration :=
  if Text.isBlankText text then some {}
  else do
    let node ← Yaml.read? text
    match ← node.settled? with
    | .null => some {}
    | value => decode? .yaml value

/-- Loads the configuration in a file. -/
def load (w : Workspace) (path : String) : Except LoadError Configuration :=
  match w.readText path with
  | .ok text =>
    match ofText? text with
    | some c => .ok c
    | none => .error (.badYaml path)
  | .error reason => .error (.fault reason)

/-- The text of a configuration. -/
def text (c : Configuration) : String := Yaml.write c.encode

/-- Saves a configuration in a file. -/
def save (c : Configuration) (w : Workspace) (path : String) : Except LoadError Workspace :=
  (w.write path (.text c.text)).mapError .fault

/-- The sources of definitions in the order in which they are tried. -/
def sources (c : Configuration) : List RegistrySource :=
  c.schemas.directories.map .directory ++ c.schemas.bundles.map .bundle

/-- The registry of the first source that can be loaded. -/
def registry (c : Configuration) (w : Workspace) : Except LoadError Registry :=
  Registry.ofFirst w c.sources

end Configuration

end CatalogRecords
