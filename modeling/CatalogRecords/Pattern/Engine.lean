import CatalogRecords.Pattern.Search

/-!
# Engines of regular expressions

A document type does not read patterns itself: an engine compiles their sources, and may refuse
them. What is compiled can be asked whether it matches a text, and which part of it first. All that
depends on patterns takes the engine as a parameter. The engine that is used when no other is given
has the syntax of `CatalogRecords.Pattern.Reader`; that is the common part of the usual syntax,
without classes named by properties of characters, without the flags for blanks, comments and line
ends of two characters, and without a limit on how deep groups are nested.
-/

namespace CatalogRecords

/-- What is asked of a compiled regular expression. -/
structure Pattern.Matcher where
  /-- Whether it matches some part of a text. -/
  isMatch : String → Bool
  /-- The part of a text that it matches first. -/
  find? : String → Option String

/-- An engine compiles the sources of regular expressions, or refuses them. -/
class PatternEngine where
  /-- The compiled source, unless it is refused. -/
  compile? : String → Option Pattern.Matcher

/-- A pattern: the source as it was declared, and what it was compiled to. -/
structure Pattern where
  source : String
  matcher : Pattern.Matcher

namespace Pattern

/-- What an expression answers. -/
def Expression.matcher (a : Expression) : Matcher := ⟨a.isMatch, a.find?⟩

/-- The engine that reads a source as an expression and searches with that. -/
instance expressionEngine : PatternEngine where
  compile? source := (read? source).map Expression.matcher

/-- The text between anchors at both ends of the value. -/
def wholeValue (source : String) : String := "^(?:" ++ source ++ ")$"

/-- Compiles a pattern that may match anywhere in a value. -/
def compile? [PatternEngine] (source : String) : Option Pattern :=
  (PatternEngine.compile? source).map fun matcher => ⟨source, matcher⟩

/-- The first part of a text that the pattern matches. -/
def find? (p : Pattern) (text : String) : Option String := p.matcher.find? text

/-- Whether the pattern matches a text. -/
def isMatch (p : Pattern) (text : String) : Bool := p.matcher.isMatch text

end Pattern

end CatalogRecords
