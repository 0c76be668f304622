import TokenGrammar.Outcome

/-!
# Evaluating an outcome

A caller usually wants the value of the one candidate that read the whole chain. Dropping the
candidates that stopped early may leave none, and then the diagnostics of the places where they
stopped compete with the one that was carried.
-/

namespace TokenGrammar

/-- Why an outcome has no single value. -/
inductive Shortfall where
  | unparsed (diagnostic : Diagnostic)
  | noResult
  | ambiguous (count : Nat)
deriving DecidableEq, Repr

namespace Shortfall

def message : Shortfall → String
  | unparsed diagnostic => diagnostic.message
  | noResult => "No result is returned."
  | ambiguous _ => "Multiple results are returned."

end Shortfall

variable {α : Type}

namespace Candidate

/-- The diagnostic for a candidate that left tokens unread. -/
def stoppedEarly? (chain : Chain) (candidate : Candidate α) : Option Diagnostic :=
  chain[candidate.stop]?.map Diagnostic.notAtEnd

end Candidate

namespace Outcome

/-- Keeps the candidates that read the whole chain. The furthest early stop replaces the carried
diagnostic unless that one lies strictly further. -/
def complete (chain : Chain) : Outcome α → Outcome α
  | failure diagnostic => failure diagnostic
  | success candidates carried? =>
      let stopped? := candidates.foldl
        (fun seen candidate => Diagnostic.furthest seen (candidate.stoppedEarly? chain)) none
      settle chain chain.size
        (candidates.filter fun candidate => (candidate.stoppedEarly? chain).isNone)
        (Diagnostic.furthest stopped? carried?)

def single : Outcome α → Except Shortfall α
  | failure diagnostic => .error (.unparsed diagnostic)
  | success [] _ => .error .noResult
  | success [candidate] _ => .ok candidate.value
  | success candidates _ => .error (.ambiguous candidates.length)

def values : Outcome α → Except Shortfall (List α)
  | failure diagnostic => .error (.unparsed diagnostic)
  | success candidates _ => .ok (candidates.map (·.value))

end Outcome

end TokenGrammar
