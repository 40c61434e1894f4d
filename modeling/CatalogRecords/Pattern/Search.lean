import CatalogRecords.Pattern.Matching

/-!
# Searching with patterns

The part of a text that an expression matches first: of all matches those that begin leftmost, and
of these the one that is preferred. The text is gone through once with a list of threads in order
of preference, no two of them in the same state. At every place each thread shows how it can go
on; the first that can end cuts off those behind it.

How a thread can go on is found by following its state without taking a character, preferred ways
first, and no way twice: a state that was seen on the way leads nowhere new. So a repetition does
not go round without taking a character.
-/

namespace CatalogRecords.Pattern

/-- How a state can go on: by ending, or by taking a character from a set, after which another
state is left. -/
inductive Move where
  | finish
  | take (s : CharSet) (left : State)
  deriving DecidableEq, Repr

/-- The states seen at a place, and the moves found there, preferred ones first. -/
abbrev Survey := List State × List Move

/-- Goes on from a state unless it was seen. -/
def unlessSeen (state : State) (onward : List State → Survey) (seen : List State) : Survey :=
  if seen.contains state then (seen, []) else onward (state :: seen)

/-- Goes one way and then another. -/
def oneThenOther (one other : List State → Survey) (seen : List State) : Survey :=
  let (seen, first) := one seen
  let (seen, second) := other seen
  (seen, first ++ second)

/-- The moves of an expression that others follow, between two characters; `onward` goes on with
those that follow. -/
def Expression.moves (before after : Option Char) :
    Expression → (following : State) → (onward : List State → Survey) → List State → Survey
  | .empty, _, onward, seen => onward seen
  | .set s, following, _, seen => (seen, [.take s following])
  | .anchor a, _, onward, seen => if a.holds before after then onward seen else (seen, [])
  | .cat a b, following, onward, seen =>
    a.moves before after (b :: following) (b.moves before after following onward) seen
  | .alt a b, following, onward, seen =>
    unlessSeen (.alt a b :: following)
      (oneThenOther (a.moves before after following onward)
        (b.moves before after following onward)) seen
  | .plus greedy a, following, onward, seen =>
    a.moves before after (.again greedy a :: following)
      (unlessSeen (.again greedy a :: following) onward) seen
  | .again greedy a, following, onward, seen =>
    let round := a.moves before after (.again greedy a :: following) fun seen => (seen, [])
    unlessSeen (.again greedy a :: following)
      (if greedy then oneThenOther round onward else oneThenOther onward round) seen

/-- The moves of a state between two characters. -/
def State.moves (before after : Option Char) : State → List State → Survey
  | [], seen => (seen, [.finish])
  | a :: rest, seen => a.moves before after rest (State.moves before after rest) seen

/-- A state, and where its match began. -/
structure Thread where
  start : Nat
  left : State

/-- The threads that go on with a character, and whether one of them ends before it. -/
def advance (before after : Option Char) (position : Nat) :
    List Thread → List (CharSet × Thread) × Option (Nat × Nat)
  | [] => ([], none)
  | t :: threads =>
    let moves := (State.moves before after t.left []).2
    let takes := (moves.takeWhile (· != .finish)).filterMap fun
      | .take s left => some (s, { t with left := left })
      | .finish => none
    if moves.contains .finish then (takes, some (t.start, position))
    else
      let (others, found) := advance before after position threads
      (takes ++ others, found)

/-- The threads without those in a state of one before them. -/
def distinctThreads (seen : List State) : List Thread → List Thread
  | [] => []
  | t :: threads =>
    if seen.contains t.left then distinctThreads seen threads
    else t :: distinctThreads (t.left :: seen) threads

/-- Goes through a text: the bounds of the match, in characters from the start of the text. -/
def findFrom (whole : Expression) (before : Option Char) (position : Nat) (threads : List Thread)
    (best : Option (Nat × Nat)) (cs : List Char) : Option (Nat × Nat) :=
  let threads := if best.isNone then threads ++ [⟨position, [whole]⟩] else threads
  let (takes, found) := advance before cs.head? position threads
  let best := found.or best
  match cs with
  | [] => best
  | c :: rest =>
    let next := distinctThreads [] ((takes.filter fun (s, _) => s.has c).map Prod.snd)
    findFrom whole (some c) (position + 1) next best rest

/-- The part of a text that an expression matches first. -/
def Expression.find? (a : Expression) (text : String) : Option String :=
  (findFrom a none 0 [] none text.toList).map fun (first, last) =>
    String.ofList ((text.toList.drop first).take (last - first))

end CatalogRecords.Pattern
