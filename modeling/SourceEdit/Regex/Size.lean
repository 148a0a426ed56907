import SourceEdit.Regex.Basic
import SourceEdit.Regex.Encoding

/-!
# Size limits

An expression is refused if the automaton for it is too large: the one that reads a text forward or
the one that reads it backward.  Both read bytes.  The states of an expression that is repeated a
fixed number of times are there as often as it is repeated.
-/

namespace SourceEdit.Regex

open Unicode

/-- The direction in which an automaton reads. -/
inductive Direction where
  | forward
  | backward
deriving DecidableEq, Repr

/-- The room for a state without a list, in bytes. -/
private def stateRoom : Nat := 32

/-- The room for a state with a list of transitions over bytes. -/
private def branchingRoom (transitions : Nat) : Nat := stateRoom + 8 * transitions

/-- The room for a state with a list of states that it is left for. -/
private def choiceRoom (choices : Nat) : Nat := stateRoom + 4 * choices

/-! ### Sets of characters -/

/-- The transitions of a state over bytes; `none` leads to the end. -/
private abbrev Transitions := List (ByteRange × Option Nat)

/-- Adds the states that read the given sequences, up to `n` bytes long and in increasing order, to
a list of states. A state that is there already is used again. The result has the place of the first
of them. -/
private def addStates : Nat → List (List ByteRange) → List Transitions → Nat × List Transitions
  | 0, _, states => (0, states)
  | n + 1, sequences, states =>
    let groups := sequences.splitBy fun p q => p.head? == q.head?
    let (transitions, states) := groups.foldl
      (fun (found, states) (group : List (List ByteRange)) =>
        let range := (group.head?.bind List.head?).getD (0, 0)
        let tails := (group.map (List.drop 1)).filter (!·.isEmpty)
        if tails.isEmpty then ((range, none) :: found, states)
        else
          let (next, states) := addStates n tails states
          ((range, some next) :: found, states))
      (([] : Transitions), states)
    match states.idxOf? transitions with
    | some i => (i, states)
    | none => (states.length, states ++ [transitions])

/-- The room for reading a set forward: sequences share their heads and their tails. -/
private def forwardRoom (s : Ranges) : Nat :=
  let states := (addStates 4 (sequences s) []).2
  states.foldl (fun room transitions => room + branchingRoom transitions.length) stateRoom

/-- Adds the states that read a sequence backward. A state is known by its byte range and by the
place of the state after it, and one that is there already is used again. -/
private def addBackward (states : List (ByteRange × Option Nat)) (sequence : List ByteRange) :
    List (ByteRange × Option Nat) :=
  (sequence.foldl (fun (next, states) range =>
    match states.idxOf? (range, next) with
    | some i => (some i, states)
    | none => (some states.length, states ++ [(range, next)])) ((none : Option Nat), states)).2

/-- The room for reading a set backward: there is a choice among all sequences. -/
private def backwardRoom (s : Ranges) : Nat :=
  let all := sequences s
  choiceRoom all.length + stateRoom + stateRoom * (all.foldl addBackward []).length

/-- The room for a set. A single character is read byte by byte, and a set of ASCII characters takes
one state. -/
private def setRoom (d : Direction) (s : Ranges) : Nat :=
  match s.pairs with
  | [(a, b)] => if a = b then stateRoom * (encode a).length else manyRoom
  | _ => manyRoom
where
  manyRoom : Nat :=
    if s.pairs.all (·.2 < 0x80) then stateRoom + branchingRoom s.pairs.length
    else match d with
      | .forward => forwardRoom s
      | .backward => backwardRoom s

/-! ### Expressions -/

/-- Whether an expression can match the empty text. -/
private def canBeEmpty : Regex → Bool
  | .empty | .look _ => true
  | .chars set => set.pairs.isEmpty
  | .cat a b => canBeEmpty a && canBeEmpty b
  | .alt a b => canBeEmpty a || canBeEmpty b
  | .rep a min _ => min = 0 || canBeEmpty a
  | .group a => canBeEmpty a

/-- The room for a branch of an alternative, given the room for the branch by itself. Alternatives
of an alternative are its own branches. -/
private def asBranch (a : Regex) (room : Nat) : Nat :=
  match a with
  | .alt _ _ => room - (stateRoom + choiceRoom 0)
  | _ => room + choiceRoom 1 - choiceRoom 0

/-- The room for the automaton of an expression. -/
def room (d : Direction) : Regex → Nat
  | .empty | .look _ => stateRoom
  | .chars set => setRoom d set
  | .cat a b => room d a + room d b
  | .alt a b => stateRoom + choiceRoom 0 + asBranch a (room d a) + asBranch b (room d b)
  | .group a =>
    match d with
    | .forward => 2 * stateRoom + room d a
    | .backward => room d a
  | .rep a min max =>
    let once := room d a
    match min, max with
    | 0, some 1 => choiceRoom 2 + stateRoom + once
    | 0, none =>
      if canBeEmpty a then 2 * choiceRoom 2 + stateRoom + once else choiceRoom 2 + once
    | min, none => min * once + choiceRoom 2
    | min, some max =>
      let fixed := if min = 0 then stateRoom else min * once
      if min = max then fixed else fixed + stateRoom + (max - min) * (choiceRoom 2 + once)

/-- The room for what is around an expression: skipping what is before a match, and the match. -/
private def frameRoom (d : Direction) : Nat :=
  let skipping := choiceRoom 2 + stateRoom + branchingRoom 1
  match d with
  | .forward => skipping + 3 * stateRoom
  | .backward => skipping + stateRoom

/-- The room that an automaton may take, in bytes. -/
def roomLimit : Nat := 10 * 1024 * 1024

/-- Whether the automata of an expression are small enough. -/
def isSmall (r : Regex) : Bool :=
  [Direction.forward, .backward].all fun d => frameRoom d + room d r ≤ roomLimit

end SourceEdit.Regex
