import TokenGrammar.Pattern.Footprint

/-!
# Programs

A pattern is compiled into instructions that name their successors. Every part is compiled towards
the place that follows it, so a part is an entry into code that ends there. Of the two successors of
a fork the first is preferred.

A greedy repetition of a part that may be empty is compiled as an optional repetition of at least
one. Its first pass may then be empty, and a further pass is never taken for an empty text.
-/

namespace TokenGrammar

inductive Instruction where
  | accept
  | consume (members : CharSet) (next : Nat)
  | look (condition : Look) (next : Nat)
  | fork (preferred other : Nat)
deriving DecidableEq, Repr, Inhabited

abbrev Code := Array Instruction

namespace Code

def emit (code : Code) (instruction : Instruction) : Code × Nat :=
  let place := code.size
  (code.push instruction, place)

/-- The fork that prefers to go on if it is greedy and to stop otherwise. -/
def choose (greedy : Bool) (goOn stop : Nat) : Instruction :=
  if greedy then .fork goOn stop else .fork stop goOn

def copies (body : Code → Nat → Code × Nat) : Nat → Code → Nat → Code × Nat
  | 0, code, next => (code, next)
  | count + 1, code, next =>
      let (code, entry) := body code next
      copies body count code entry

/-- A part at most a number of times: each copy may be followed by the next one or by the end. -/
def options (body : Code → Nat → Code × Nat) (greedy : Bool) (stop : Nat) :
    Nat → Code → Nat → Code × Nat
  | 0, code, next => (code, next)
  | count + 1, code, next =>
      let (code, entry) := body code next
      let (code, fork) := code.emit (choose greedy entry stop)
      options body greedy stop count code fork

/-- A part once or more. Yields the entry of the part and the fork after it. -/
def loop (body : Code → Nat → Code × Nat) (greedy : Bool) (code : Code) (next : Nat) :
    Code × Nat × Nat :=
  let (code, fork) := code.emit .accept
  let (code, entry) := body code fork
  (code.setIfInBounds fork (choose greedy entry next), entry, fork)

def star (body : Code → Nat → Code × Nat) (nullable greedy : Bool) (code : Code) (next : Nat) :
    Code × Nat :=
  let (code, entry, fork) := loop body greedy code next
  if nullable then code.emit (choose greedy entry next) else (code, fork)

def text (content : List Char) (code : Code) (next : Nat) : Code × Nat :=
  content.foldr (fun c (code, next) => code.emit (.consume (.single c) next)) (code, next)

/-- Compiles a pattern towards the place that follows it. Yields the entry. -/
def add : Pattern → Code → Nat → Code × Nat
  | .empty, code, next => (code, next)
  | .literal content, code, next => text content code next
  | .char members, code, next => code.emit (.consume members next)
  | .look condition, code, next => code.emit (.look condition next)
  | .seq first rest, code, next =>
      let (code, entry) := add rest code next
      add first code entry
  | .choice first rest, code, next =>
      let (code, preferred) := add first code next
      let (code, other) := add rest code next
      code.emit (.fork preferred other)
  | .repeated body least most? greedy, code, next =>
      match most?, least with
      | some most, least =>
          let (code, entry) := options (add body) greedy next (most - least) code next
          copies (add body) least code entry
      | none, 0 => star (add body) body.mayBeEmpty greedy code next
      | none, least + 1 =>
          let (code, entry, _) := loop (add body) greedy code next
          copies (add body) least code entry
  | .capture _ _ body, code, next => add body code next

end Code

/-- A program is anchored if every text that it accepts begins at the beginning of the input. -/
structure Program where
  code : Code
  entry : Nat
  anchored : Bool
deriving DecidableEq, Repr

def Program.ofPattern (pattern : Pattern) : Program :=
  let (code, accept) := Code.emit #[] .accept
  let (code, entry) := Code.add pattern code accept
  ⟨code, entry, pattern.isAnchored .forward⟩

end TokenGrammar
