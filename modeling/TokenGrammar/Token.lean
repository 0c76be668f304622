/-!
# Tokens and chains

A chain is the sequence of tokens that a grammar reads. A cursor says how much of the chain has been
read: it is the ordinal of the next token, and the length of the chain once nothing is left. Two
tokens of a chain are told apart by their ordinals alone, so equal texts and equal positions never
make two places the same.
-/

namespace TokenGrammar

/-- Where a token stands in its source: a byte offset, and the rows and columns, both counted from
one, of its first character and of the character after its last. -/
structure Position where
  index : Nat
  rowBegin : Nat
  columnBegin : Nat
  rowEnd : Nat
  columnEnd : Nat
deriving DecidableEq, Repr, Inhabited

namespace Position

def place (position : Position) : String :=
  toString position.rowBegin ++ ":" ++ toString position.columnBegin

end Position

structure Token where
  kind : String
  text : String
  position : Position
deriving DecidableEq, Repr, Inhabited

abbrev Chain := Array Token

abbrev Cursor := Nat

/-- A token together with its place in the chain. -/
structure Occurrence where
  ordinal : Cursor
  token : Token
deriving DecidableEq, Repr

/-- What stands for the token where the chain has ended. -/
def endMark : String := "<END-OF-FILE>"

namespace Chain

/-- The cursor before the token with an ordinal, every ordinal past the last token being the end. -/
def cursor (chain : Chain) (ordinal : Nat) : Cursor := min ordinal chain.size

def remaining (chain : Chain) (cursor : Cursor) : Nat := chain.size - cursor

def position? (chain : Chain) (cursor : Cursor) : Option Position :=
  chain[cursor]?.map (·.position)

end Chain

end TokenGrammar
