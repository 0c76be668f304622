import TokenGrammar.Session
import TokenGrammar.Outcome.Evaluate
import TokenGrammar.Proofs.Merging
import TokenGrammar.Proofs.Commitment
import TokenGrammar.Proofs.Furthest
import TokenGrammar.Proofs.WellFormed
import TokenGrammar.Proofs.Positions
import TokenGrammar.Proofs.Determinism
import TokenGrammar.Proofs.Grouping
import TokenGrammar.Proofs.Indifference
import TokenGrammar.Proofs.Caching.Unobservable
import TokenGrammar.Proofs.Faultless
import TokenGrammar.Proofs.Tracing.Transparency
import TokenGrammar.Proofs.WriteOnce
import TokenGrammar.Proofs.Modules
import TokenGrammar.Proofs.Repetition.BreadthFirst
import TokenGrammar.Proofs.Repetition.Counting
import TokenGrammar.Proofs.Repetition.Folding
import TokenGrammar.Proofs.Division
import TokenGrammar.Proofs.Evaluation
import TokenGrammar.Proofs.Laws.Binding
import TokenGrammar.Proofs.Laws.Alternatives
import TokenGrammar.Proofs.Laws.Compositions
import TokenGrammar.Proofs.Lexing.Restarting
import TokenGrammar.Proofs.Lexing.RuleLists
import TokenGrammar.Proofs.Lexing.Anchoring
