import TokenGrammar.Grammar.Basic
import TokenGrammar.Parser.Choice
import TokenGrammar.Parser.Group
import TokenGrammar.Parser.Recover
import TokenGrammar.Parser.Repeat

/-!
# What the operators of grammars do

Leaves and operators stand for parsers and combinators over values, in any monad.
-/

namespace TokenGrammar

variable {m : Type → Type} [Monad m]

namespace Leaf

@[specialize] def parser : Leaf → Parser m Value
  | nothing => Parser.succeed .unit
  | succeed value => Parser.succeed value
  | fail message => Parser.fail message
  | literal text => (Parser.literal text).map .token
  | kind name => (Parser.kind name).map .token
  | range low high => (Parser.range low high).map .token

end Leaf

namespace UnaryOperator

@[specialize] def parser : UnaryOperator → Parser m Value → Parser m Value
  | mapped transform, part => part.map transform.apply
  | spanned view, part =>
      part.mapCandidate fun chain candidate =>
        view.apply chain candidate.start candidate.stop candidate.value
  | optional, part => part.optional.map .ofOption
  | optionalGreedy, part => part.optionalGreedy.map .ofOption
  | manyShortestFirst, part => part.manyShortestFirst.map .list
  | manyLongestFirst, part => part.manyLongestFirst.map .list
  | manyGreedy, part => part.manyGreedy.map .list
  | exactly count, part => (Parser.exactly count part).map .list
  | grouped, part => part.grouped.map .list
  | relabelled message, part => part.relabel message
  | recovered message value, part => part.recover message value

end UnaryOperator

namespace BinaryOperator

@[specialize] def parser : BinaryOperator → Parser m Value → Parser m Value → Parser m Value
  | seq, first, second => (first.seq second).map .ofPair
  | seqLeft, first, second => first.seqLeft second
  | seqRight, first, second => first.seqRight second
  | either, first, second => first.either second
  | orElse, first, second => first.orElse second
  | separated, part, separator => (part.separated separator).map .list
  | separatedGreedy, part, separator => (part.separatedGreedy separator).map .list
  | separatedExactly count, part, separator =>
      (Parser.separatedExactly count part separator).map .list
  | folded fold, first, second => Parser.folded fold.apply first second
  | foldedGreedy fold, first, second => Parser.foldedGreedy fold.apply first second

end BinaryOperator

end TokenGrammar
