import TokenGrammar.Grammar.Linking
import TokenGrammar.Grammar.Operators
import TokenGrammar.Grammar.Text

/-!
# Parsing with a grammar

A grammar that was built is a parser over the workspace its links lead into. Parsing descends
through the parts of the grammar. Where a part is reached through a link, or is built on the way, a
new grammar is entered, and a depth bounds how many may be entered inside each other. The grammars
entered so far are held, and keep what they link to while they are parsed.

What becomes of a traced part depends on the build. With the feature `trace-stderr` it is reported
when the part is entered and when it is left, and without it the part passes through. Parsing is
that of the build that reports, unless it is said otherwise.
-/

namespace TokenGrammar

/-- How to go on with another grammar, while some grammars are held. -/
abbrev Enter := List Grammar → Grammar → Parser Run Value

/-- What becomes of a part and its parser where the part is traced under a label. -/
abbrev Tracing := List Grammar → String → Grammar → Parser Run Value → Parser Run Value

namespace Leaf

def parseNoting (matcher : Leaf) : Parser Run Value := fun chain start => do
  let outcome ← matcher.parser chain start
  match outcome with
  | .success .. => return outcome
  | .failure diagnostic =>
      Run.noteMiss diagnostic
      return outcome

end Leaf

namespace Run

/-- With the feature `trace-stderr`: reports when a part is entered and when it is left. The
representation is that of the part at the time it is entered. -/
def traced : Tracing := fun held label part p chain start => do
  let text ← demand .unprintable ((← get).textOf? held part)
  noteEvent (.entered label text start)
  let outcome ← p chain start
  noteEvent (.ofOutcome label outcome)
  return outcome

/-- Without the feature: a traced part passes through. -/
def passed : Tracing := fun _ _ _ p => p

def build (site : Site) (home? : Option Nat) (part : Grammar) : Run Grammar := do
  noteBuild site
  part.link home?

/-- A part that is built each time it is reached. -/
def partContent (part : Grammar) : Run Grammar := do
  noteEntry (.part part)
  build (.part part) none part

/-- What a cell holds, built now if it was not built before. -/
def cellContent (place : Nat) : Run Grammar := do
  noteEntry (.cell place)
  let cell ← demand .unbuilt (← get).cells[place]?
  match cell.built? with
  | some built => return built
  | none =>
      let built ← build (.cell place) none cell.body
      modify (·.fillCell place built)
      return built

/-- The grammar of a production, built now unless its module kept it. -/
def productionContent (place index : Nat) : Run Grammar := do
  noteEntry (.production place index)
  match (← get).productionContent? place index with
  | some built => return built
  | none =>
      let definition ← demand .unbuilt ((← get).definition? place index)
      let built ← build (.production place index) (some place) definition
      modify (·.fillProduction place index built)
      return built

def demandAlive (held : List Grammar) (keepable : Keepable) (fault : Fault) : Run Unit := do
  if (← get).isAlive held keepable then return () else throw fault

end Run

namespace Link

/-- Goes on with what a link leads to. Following a handle or a reference keeps it meanwhile. -/
def parser (enter : Enter) (held : List Grammar) : Link → Parser Run Value
  | .rule place, chain, start => do
      let pattern ← Run.demand .unsetRule ((← get).pattern? place)
      enter held pattern chain start
  | .handle place, chain, start => do
      Run.demandAlive held (.slot place) .droppedRule
      let pattern ← Run.demand .unsetRule ((← get).pattern? place)
      enter (.linked (.rule place) :: held) pattern chain start
  | .cell place, chain, start => do
      let built ← Run.cellContent place
      enter held built chain start
  | .production place index, chain, start => do
      let built ← Run.productionContent place index
      enter (built :: held) built chain start
  | .reference place index, chain, start => do
      Run.demandAlive held (.module place) .droppedModule
      let built ← Run.productionContent place index
      enter (.linked (.production place index) :: built :: held) built chain start

end Link

namespace Grammar

/-- The parser of a grammar that was built, given what becomes of traced parts and how to go on with
the grammars that it enters. -/
def parserTracing (tracing : Tracing) (enter : Enter) (held : List Grammar) :
    Grammar → Parser Run Value
  | leaf matcher => matcher.parseNoting
  | unary operator part => operator.parser (part.parserTracing tracing enter held)
  | binary operator first second =>
      operator.parser (first.parserTracing tracing enter held)
        (second.parserTracing tracing enter held)
  | bind part next => (part.parserTracing tracing enter held).bind fun value chain start => do
      let selected ← (next.select value).link none
      enter (selected :: held) selected chain start
  | traced label part => tracing held label part (part.parserTracing tracing enter held)
  | deferred part => fun chain start => do
      let built ← Run.partContent part
      enter (built :: held) built chain start
  | linked target => target.parser enter held
  | _ => fun _ _ => throw .unbuilt

abbrev parser : Enter → List Grammar → Grammar → Parser Run Value := parserTracing Run.traced

/-- Parsing with at most a number of grammars entered inside each other. -/
def parseTracingWithin (tracing : Tracing) : Nat → Enter
  | 0, _, _ => fun _ _ => throw .endless
  | depth + 1, held, grammar =>
      grammar.parserTracing tracing (parseTracingWithin tracing depth) held

abbrev parseWithin : Nat → Enter := parseTracingWithin Run.traced

/-- Grammars that go deeper than this are taken to be endless. -/
def depthLimit : Nat := 1 <<< 24

def parse (grammar : Grammar) : Parser Run Value := parseWithin depthLimit [grammar] grammar

end Grammar

end TokenGrammar
