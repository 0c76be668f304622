import TokenGrammar.Parser.Match

/-!
# Grouping by end

An ambiguous part has several candidates over the same stretch of the chain. Grouping turns them
into one candidate for each end, whose value lists all of theirs. Groups stand in the order in
which their ends are first reached. While they grow, groups hold their values latest first.
-/

namespace TokenGrammar

variable {m : Type → Type} [Monad m] {α : Type}

/-- Adds a candidate to the group with its end, or opens a new group behind the others. -/
def addToGroup (candidate : Candidate α) :
    List (Candidate (List α)) → List (Candidate (List α))
  | [] => [candidate.map fun value => [value]]
  | group :: groups =>
      if group.stop = candidate.stop then group.map (candidate.value :: ·) :: groups
      else group :: addToGroup candidate groups

/-- One candidate for each end, with the values of all candidates that end there. -/
def groupByStop (candidates : List (Candidate α)) : List (Candidate (List α)) :=
  (candidates.foldl (fun groups candidate => addToGroup candidate groups) []).map
    (·.map List.reverse)

namespace Parser

@[inline] def grouped (p : Parser m α) : Parser m (List α) := fun chain start =>
  return (← p chain start).mapCandidates groupByStop

end Parser

end TokenGrammar
