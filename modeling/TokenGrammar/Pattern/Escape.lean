import TokenGrammar.Pattern.Basic
import TokenGrammar.Pattern.ClassName

/-!
# Flags and escapes

Flags change the meaning of what follows them inside their group. In verbose text, blanks and
comments may stand between any two parts of a pattern, so every reader skips them after each
character that it takes. Readers yield what they read and the rest of the text, or nothing where
the text is no pattern.
-/

namespace TokenGrammar.Pattern

structure Flags where
  caseless : Bool := false
  multiline : Bool := false
  dotAll : Bool := false
  lazyFirst : Bool := false
  returns : Bool := false
  verbose : Bool := false
deriving DecidableEq, Repr

/-- Skips blanks, and comments from a hash to the end of its line. -/
def skipBlanks (inComment : Bool) : List Char → List Char
  | [] => []
  | c :: rest =>
      if inComment then skipBlanks (c != '\n') rest
      else if Text.isWhiteSpace c then skipBlanks false rest
      else if c == '#' then skipBlanks true rest
      else c :: rest

namespace Flags

/-- Skips what verbose text may hold between two parts. -/
def skip (flags : Flags) (rest : List Char) : List Char :=
  if flags.verbose then skipBlanks false rest else rest

/-- Sets or clears the flag with a letter. Characters are always those of the whole repertoire, so
`u` can be set and never cleared. -/
def assign? (flags : Flags) (letter : Char) (value : Bool) : Option Flags :=
  match letter with
  | 'i' => some { flags with caseless := value }
  | 'm' => some { flags with multiline := value }
  | 's' => some { flags with dotAll := value }
  | 'U' => some { flags with lazyFirst := value }
  | 'R' => some { flags with returns := value }
  | 'x' => some { flags with verbose := value }
  | 'u' => if value then some flags else none
  | _ => none

def literal (flags : Flags) (c : Char) : Pattern :=
  if flags.caseless then .ofSet (.variants c) else .literal [c]

def dot (flags : Flags) : CharSet :=
  if flags.dotAll then .any
  else if flags.returns then (CharSet.ofPoints ['\n'.toNat, '\r'.toNat]).complement
  else (CharSet.single '\n').complement

def lineStart (flags : Flags) : Look :=
  if !flags.multiline then .textStart
  else if flags.returns then .lineStartOrReturn else .lineStart

def lineEnd (flags : Flags) : Look :=
  if !flags.multiline then .textEnd
  else if flags.returns then .lineEndOrReturn else .lineEnd

end Flags

/-! ### Numbers -/

def hexDigit? (c : Char) : Option Nat :=
  if '0' ≤ c && c ≤ '9' then some (c.toNat - '0'.toNat)
  else if 'a' ≤ c && c ≤ 'f' then some (c.toNat - 'a'.toNat + 10)
  else if 'A' ≤ c && c ≤ 'F' then some (c.toNat - 'A'.toNat + 10)
  else none

def charOf? (point : Nat) : Option Char :=
  if point.isValidChar then some (Char.ofNat point) else none

def readHexDigits (flags : Flags) : Nat → Nat → List Char → Option (Nat × List Char)
  | 0, value, rest => some (value, rest)
  | _ + 1, _, [] => none
  | count + 1, value, c :: rest => do
      let digit ← hexDigit? c
      readHexDigits flags count (16 * value + digit) (flags.skip rest)

def readBraced (flags : Flags) : Nat → List Char → List Char → Option (List Char × List Char)
  | 0, _, _ => none
  | fuel + 1, taken, rest =>
      match flags.skip rest with
      | [] => none
      | '}' :: rest => some (taken.reverse, rest)
      | c :: rest => readBraced flags fuel (c :: taken) rest

def hexValue? (digits : List Char) : Option Nat :=
  if digits.isEmpty then none
  else digits.foldlM (fun value c => do return 16 * value + (← hexDigit? c)) 0

/-- Reads a code point of a fixed number of digits, or of any number between braces. -/
def readCodePoint (flags : Flags) (digits : Nat) (rest : List Char) :
    Option (Char × List Char) := do
  match flags.skip rest with
  | '{' :: rest =>
      let (digits, rest) ← readBraced flags (rest.length + 1) [] rest
      return (← charOf? (← hexValue? digits), rest)
  | rest =>
      let (value, rest) ← readHexDigits flags digits 0 rest
      return (← charOf? value, rest)

/-! ### Escapes -/

/-- What an escape may stand for. -/
inductive Atom where
  | literal (c : Char)
  | members (members : CharSet)
  | look (condition : Look)
deriving DecidableEq, Repr

/-- The class that a property between braces stands for, and whether it is excluded. The property
may be given with a value, which is required or excluded. -/
def bracedProperty? (text : List Char) : Option (CharSet × Bool) :=
  let isSign (c : Char) := c == ':' || c == '='
  match text.span (· != '!') with
  | (property, '!' :: '=' :: value) =>
      (CharSet.propertyValue? property value).map fun members => (members, true)
  | _ =>
      match text.span (!isSign ·) with
      | (property, _ :: value) =>
          (CharSet.propertyValue? property value).map fun members => (members, false)
      | (name, []) => (CharSet.property? name).map fun members => (members, false)

/-- Reads the name of a property: one letter, or any name between braces. An exclusion that is
excluded is none. -/
def readProperty (flags : Flags) (negate : Bool) (rest : List Char) :
    Option (Atom × List Char) := do
  match flags.skip rest with
  | [] => none
  | '\\' :: _ => none
  | '{' :: rest =>
      let (name, rest) ← readBraced flags (rest.length + 1) [] rest
      let (members, excluded) ← bracedProperty? name
      return (.members ((members.foldedIf flags.caseless).complementIf (negate != excluded)), rest)
  | c :: rest =>
      let members ← CharSet.property? [c]
      return (.members ((members.foldedIf flags.caseless).complementIf negate), rest)

def boundaryNamed? : String → Option Look
  | "start" => some .wordStart
  | "end" => some .wordEnd
  | "start-half" => some .wordStartHalf
  | "end-half" => some .wordEndHalf
  | _ => none

def isBoundaryLetter (c : Char) : Bool := c.isAlpha || c == '-'

/-- Reads the name of a kind of word boundary after an opening brace. A brace that no letter
follows is left alone: it counts repetitions. -/
def readBoundary (flags : Flags) (rest : List Char) : Option (Look × List Char) := do
  match rest with
  | '{' :: inner =>
      match flags.skip inner with
      | [] => none
      | c :: _ =>
          if isBoundaryLetter c then
            let (name, rest) ← readBraced flags (inner.length + 1) [] inner
            if name.all isBoundaryLetter then
              return (← boundaryNamed? (String.ofList name), rest)
            else none
          else return (.wordBoundary, rest)
  | rest => return (.wordBoundary, rest)

/-- Signs stand for themselves after a backslash; letters and digits are reserved, and so are the
two angle brackets. -/
def isEscapable (c : Char) : Bool :=
  decide (c.toNat < 128) && !c.isAlphanum && c != '<' && c != '>'

def readEscape (flags : Flags) : List Char → Option (Atom × List Char)
  | [] => none
  | c :: rest =>
      match c with
      | 'x' => (readCodePoint flags 2 rest).map fun (c, rest) => (.literal c, rest)
      | 'u' => (readCodePoint flags 4 rest).map fun (c, rest) => (.literal c, rest)
      | 'U' => (readCodePoint flags 8 rest).map fun (c, rest) => (.literal c, rest)
      | 'p' => readProperty flags false rest
      | 'P' => readProperty flags true rest
      | 'd' => some (.members .decimal, rest)
      | 'D' => some (.members CharSet.decimal.complement, rest)
      | 's' => some (.members .space, rest)
      | 'S' => some (.members CharSet.space.complement, rest)
      | 'w' => some (.members .word, rest)
      | 'W' => some (.members CharSet.word.complement, rest)
      | 'a' => some (.literal '\x07', rest)
      | 'f' => some (.literal '\x0c', rest)
      | 't' => some (.literal '\t', rest)
      | 'n' => some (.literal '\n', rest)
      | 'r' => some (.literal '\r', rest)
      | 'v' => some (.literal '\x0b', rest)
      | 'A' => some (.look .textStart, rest)
      | 'z' => some (.look .textEnd, rest)
      | 'b' => (readBoundary flags rest).map fun (condition, rest) => (.look condition, rest)
      | 'B' => some (.look .noWordBoundary, rest)
      | '<' => some (.look .wordStart, rest)
      | '>' => some (.look .wordEnd, rest)
      | c => if isEscapable c then some (.literal c, rest) else none

end TokenGrammar.Pattern
