import TokenGrammar.Parser.Match

/-!
# Messages and recovery

A grammar may put a message of its own in place of a diagnostic. It may also go on past a mistake
with a default value; the diagnostic is then carried.
-/

namespace TokenGrammar.Parser

variable {m : Type → Type} [Monad m] {α : Type}

/-- On failure, a message in place of the one found. A success keeps what it carries. -/
@[inline] def relabel (message : String) (p : Parser m α) : Parser m α := fun chain start => do
  match ← p chain start with
  | .success candidates carried? => return .success candidates carried?
  | .failure diagnostic => return .failure (diagnostic.relabelled message)

/-- On failure, a default value that reads nothing and carries the relabelled diagnostic. -/
@[inline] def recover (message : String) (value : α) (p : Parser m α) : Parser m α :=
  fun chain start => do
    match ← p chain start with
    | .success candidates carried? => return .success candidates carried?
    | .failure diagnostic =>
        return .success [.still start value] (some (diagnostic.relabelled message))

end TokenGrammar.Parser
