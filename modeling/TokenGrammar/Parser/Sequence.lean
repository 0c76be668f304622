import TokenGrammar.Parser.Match

/-!
# Sequences

The second part of a sequence is read from the end of every candidate of the first part. The
sequence fails only if no pair of parts fits together.
-/

namespace TokenGrammar.Parser

variable {m : Type → Type} [Monad m] {α β : Type}

@[specialize] def seq (p : Parser m α) (q : Parser m β) : Parser m (α × β) :=
  fun chain start => do
    let firsts ← p chain start
    let parts ← firsts.candidates.mapM fun first => do
      let seconds ← q chain first.stop
      return seconds.map fun value => (first.value, value)
    return .gather chain start firsts.diagnostic? parts

/-- Both parts, of which the value of the first is kept. -/
@[inline] def seqLeft (p : Parser m α) (q : Parser m β) : Parser m α := (seq p q).map Prod.fst

/-- Both parts, of which the value of the second is kept. -/
@[inline] def seqRight (p : Parser m α) (q : Parser m β) : Parser m β := (seq p q).map Prod.snd

@[specialize] def bind (p : Parser m α) (next : α → Parser m β) : Parser m β :=
  fun chain start => do
    let firsts ← p chain start
    let parts ← firsts.candidates.mapM fun first => next first.value chain first.stop
    return .gather chain start firsts.diagnostic? parts

end TokenGrammar.Parser
