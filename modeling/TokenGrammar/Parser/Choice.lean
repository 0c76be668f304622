import TokenGrammar.Parser.Match

/-!
# Choices

An exhaustive choice explores every branch and keeps the candidates of all of them. A committed
choice looks at a later branch only when the earlier one has failed.
-/

namespace TokenGrammar.Parser

variable {m : Type → Type} [Monad m] {α : Type}

/-- The candidates of both branches, the first branch first. -/
@[specialize] def either (p q : Parser m α) : Parser m α := fun chain start => do
  let first ← p chain start
  let second ← q chain start
  return .settle chain start (first.candidates ++ second.candidates)
    (Diagnostic.furthest first.diagnostic? second.diagnostic?)

/-- The second branch where the first one fails, with the diagnostics of both. -/
@[specialize] def orElse (p q : Parser m α) : Parser m α := fun chain start => do
  match ← p chain start with
  | .success candidates carried? => return .success candidates carried?
  | .failure diagnostic =>
      match ← q chain start with
      | .success candidates carried? =>
          return .success candidates (Diagnostic.furthest (some diagnostic) carried?)
      | .failure later => return .failure (diagnostic.further later)

/-- Every candidate of the part, and then the choice of leaving it out. -/
@[specialize] def optional (p : Parser m α) : Parser m (Option α) := fun chain start => do
  let outcome ← p chain start
  return .success (outcome.candidates.map (·.map some) ++ [.still start none]) outcome.diagnostic?

/-- The part where it can be read; otherwise it is left out. -/
@[specialize] def optionalGreedy (p : Parser m α) : Parser m (Option α) := fun chain start => do
  match ← p chain start with
  | .success candidates carried? => return (Outcome.success candidates carried?).map some
  | .failure diagnostic => return .success [.still start none] (some diagnostic)

end TokenGrammar.Parser
