import CatalogRecords.Files.Format

/-!
# Seeds from files

The seeds of a directory are those of its files that can be decoded, in the order of the files'
names. Term tables are seeded from a directory as a whole: when one of its files cannot be loaded,
nothing is put into the table.
-/

namespace CatalogRecords

namespace Workspace

/-- The seeds of the files in a directory, with the paths of the files. -/
def seedFiles (w : Workspace) (directory : String) : Except LoadError (List (String × Seed)) :=
  w.loadAll Seed.decode? directory

/-- The seeds of the files in a directory. -/
def seeds (w : Workspace) (directory : String) : Except LoadError (List Seed) :=
  (w.seedFiles directory).map fun files => files.map Prod.snd

end Workspace

namespace TermDatabase

/-- Seeds the table of a dictionary from a directory. -/
def seedFrom (db : TermDatabase) (p : TablePrefix) (w : Workspace) (directory : String) :
    Except TermStoreError (SeedReport × TermDatabase) :=
  db.seed p (w.seeds directory)

/-- Drops the table of a dictionary, creates it and seeds it from a directory. -/
def refreshFrom (db : TermDatabase) (p : TablePrefix) (w : Workspace) (directory : String) :
    Except TermStoreError SeedReport × TermDatabase :=
  db.refresh p (w.seeds directory)

end TermDatabase

end CatalogRecords
