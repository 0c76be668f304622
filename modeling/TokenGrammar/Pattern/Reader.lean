import TokenGrammar.Pattern.Bracket
import TokenGrammar.Pattern.Footprint
import TokenGrammar.Text.Alphabetic

/-!
# Reading patterns

A pattern is read from the left, one part at a time. A quantifier applies to the part before it, so
a branch keeps its parts latest first. The groups that are still open form a stack; each remembers
the flags to go back to, because flags that are set inside a group end with it. Alternatives of one
group share their flags. Groups that are not said to be plain are counted, in the order in which
they open.

How deep a text nests is not seen in the pattern that it describes, which is simpler. So each part
carries the depth of its text: groups, quantifiers, brackets, branches of two or more items and
choices between branches each nest what they hold one deeper.
-/

namespace TokenGrammar.Pattern

/-- A pattern that was read, with the depth of its text. -/
structure Part where
  pattern : Pattern
  depth : Nat
deriving DecidableEq, Repr

/-- An item of a branch. Setting flags is an item that no quantifier may follow. -/
inductive Piece where
  | part (part : Part)
  | setting
deriving DecidableEq, Repr

/-- The number and the name of a group that is counted. -/
structure CaptureLabel where
  index : Nat
  name? : Option String
deriving DecidableEq, Repr

/-- An open group: the flags outside it, its label if it is counted, its finished branches and the
items of its last branch, each latest first. -/
structure Group where
  outerFlags : Flags := {}
  label? : Option CaptureLabel := none
  branches : List Part := []
  pieces : List Piece := []
deriving DecidableEq, Repr

def depthOf (depths : List Nat) : Nat :=
  match depths with
  | [depth] => depth
  | [] => 0
  | depths => depths.foldl max 0 + 1

namespace Piece

def pattern? : Piece → Option Pattern
  | .part content => some content.pattern
  | .setting => none

def depth : Piece → Nat
  | .part content => content.depth
  | .setting => 0

end Piece

namespace Group

def branch (group : Group) : Part :=
  let pieces := group.pieces.reverse
  ⟨concat (pieces.filterMap Piece.pattern?), depthOf (pieces.map Piece.depth)⟩

def content (group : Group) : Part :=
  match (group.branch :: group.branches).reverse with
  | [branch] => branch
  | branches => ⟨alternation (branches.map (·.pattern)), depthOf (branches.map (·.depth))⟩

def close (group : Group) : Part :=
  let content := group.content
  let pattern := match group.label? with
    | some label => capture label.index label.name? content.pattern
    | none => content.pattern
  ⟨pattern, content.depth + 1⟩

def push (group : Group) (part : Part) : Group :=
  { group with pieces := .part part :: group.pieces }

end Group

def nestingLimit : Nat := 250

/-! ### Quantifiers -/

def countLimit : Nat := UInt32.size - 1

def readDigits (flags : Flags) : Nat → List Char → List Char → List Char × List Char
  | fuel + 1, taken, c :: rest =>
      if c.isDigit then readDigits flags fuel (c :: taken) (flags.skip rest)
      else (taken.reverse, c :: rest)
  | _, taken, rest => (taken.reverse, rest)

def readCount (flags : Flags) (rest : List Char) : Option (Nat × List Char) :=
  let rest := rest.dropWhile Text.isWhiteSpace
  let (digits, rest) := readDigits flags rest.length [] rest
  let count := digits.foldl (fun value c => 10 * value + (c.toNat - '0'.toNat)) 0
  let rest := rest.dropWhile Text.isWhiteSpace
  if digits.isEmpty || countLimit < count then none
  else some (count, flags.skip rest)

def readBounds (flags : Flags) (rest : List Char) :
    Option (Nat × Option Nat × List Char) := do
  let (least, rest) ← readCount flags (flags.skip rest)
  match rest with
  | '}' :: rest => return (least, some least, rest)
  | ',' :: rest =>
      match flags.skip rest with
      | '}' :: rest => return (least, none, rest)
      | rest =>
          let (most, rest) ← readCount flags rest
          match rest with
          | '}' :: rest => if least ≤ most then return (least, some most, rest) else none
          | _ => none
  | _ => none

/-- Reads the question mark that makes a quantifier lazy. -/
def readLazy : List Char → Bool × List Char
  | '?' :: rest => (true, rest)
  | rest => (false, rest)

def Group.quantify? (group : Group) (least : Nat) (most? : Option Nat) (greedy : Bool) :
    Option Group :=
  match group.pieces with
  | .part body :: pieces =>
      let part := ⟨repetition body.pattern least most? greedy, body.depth + 1⟩
      some { group with pieces := .part part :: pieces }
  | _ => none

/-! ### Groups -/

/-- What may follow an opening parenthesis. -/
inductive GroupOpening where
  | counted (name? : Option String)
  | plain (flags : Flags)
  | setting (flags : Flags)
deriving DecidableEq, Repr

def isNameStart (c : Char) : Bool := c == '_' || Text.isAlphabetic c

def isNameChar (c : Char) : Bool :=
  isNameStart c || c == '.' || c == '[' || c == ']' || Text.isNumeric c

def readName (taken : List Char) : List Char → Option (String × List Char)
  | [] => none
  | '>' :: rest => if taken.isEmpty then none else some (String.ofList taken.reverse, rest)
  | c :: rest =>
      if if taken.isEmpty then isNameStart c else isNameChar c then readName (c :: taken) rest
      else none

/-- Reads flags up to the colon that opens a group or the parenthesis that ends a setting. No flag
may stand twice, and the sign that clears flags may stand once, before a flag. -/
def readFlags (flags : Flags) (seen : List Char) (clearing dangling : Bool) :
    List Char → Option (GroupOpening × List Char)
  | [] => none
  | ':' :: rest => if dangling then none else some (.plain flags, rest)
  | ')' :: rest =>
      if dangling || (seen.isEmpty && !clearing) then none else some (.setting flags, rest)
  | '-' :: rest => if clearing then none else readFlags flags seen true true rest
  | c :: rest =>
      if seen.contains c then none
      else
        match flags.assign? c (!clearing) with
        | some flags => readFlags flags (c :: seen) clearing false rest
        | none => none

/-- Reads what follows an opening parenthesis. Conditions on the text around are not supported. -/
def readGroupOpening (flags : Flags) (rest : List Char) : Option (GroupOpening × List Char) :=
  match flags.skip rest with
  | '?' :: '=' :: _ => none
  | '?' :: '!' :: _ => none
  | '?' :: '<' :: '=' :: _ => none
  | '?' :: '<' :: '!' :: _ => none
  | '?' :: 'P' :: '<' :: rest =>
      (readName [] rest).map fun (name, rest) => (.counted (some name), rest)
  | '?' :: '<' :: rest =>
      (readName [] rest).map fun (name, rest) => (.counted (some name), rest)
  | '?' :: rest => readFlags flags [] false false rest
  | rest => some (.counted none, rest)

/-! ### Whole patterns -/

/-- Reads one part that is neither a group nor an alternative nor a quantifier. -/
def readPrimitive (flags : Flags) : List Char → Option (Part × List Char)
  | [] => none
  | '[' :: rest => do
      let (operand, rest) ← readBracket flags (rest.length + 2) [] {} ('[' :: rest)
      return (⟨ofSet operand.members, operand.depth⟩, rest)
  | '.' :: rest => some (⟨ofSet flags.dot, 0⟩, rest)
  | '^' :: rest => some (⟨look flags.lineStart, 0⟩, rest)
  | '$' :: rest => some (⟨look flags.lineEnd, 0⟩, rest)
  | '\\' :: rest => do
      match ← readEscape flags rest with
      | (.literal c, rest) => return (⟨flags.literal c, 0⟩, rest)
      | (.members members, rest) => return (⟨ofSet members, 0⟩, rest)
      | (.look condition, rest) => return (⟨look condition, 0⟩, rest)
  | c :: rest => some (⟨flags.literal c, 0⟩, rest)

/-- How far a text has been read: the flags that hold, the names of groups and the number of counted
groups so far, the innermost group and those around it. -/
structure Progress where
  flags : Flags := {}
  names : List String := []
  counted : Nat := 0
  group : Group := {}
  outer : List Group := []
deriving DecidableEq, Repr

namespace Progress

def openGroup (progress : Progress) (flags : Flags) (label? : Option CaptureLabel) : Progress :=
  { progress with
    flags
    group := { outerFlags := progress.flags, label? }
    outer := progress.group :: progress.outer }

/-- Opens a counted group, unless its name was given before. -/
def openCounted? (progress : Progress) (name? : Option String) : Option Progress :=
  if name?.any progress.names.contains then none
  else
    let index := progress.counted + 1
    let progress := progress.openGroup progress.flags (some ⟨index, name?⟩)
    some { progress with counted := index, names := name?.toList ++ progress.names }

def close? (progress : Progress) : Option Progress :=
  match progress.outer with
  | [] => none
  | parent :: outer =>
      some { progress with
        flags := progress.group.outerFlags
        group := parent.push progress.group.close
        outer }

def branch (progress : Progress) : Progress :=
  let group := progress.group
  { progress with
    group := { group with branches := group.branch :: group.branches, pieces := [] } }

def push (progress : Progress) (part : Part) : Progress :=
  { progress with group := progress.group.push part }

def set (progress : Progress) (flags : Flags) : Progress :=
  let group := progress.group
  { progress with flags, group := { group with pieces := .setting :: group.pieces } }

/-- Puts a quantifier on the last part. One that is said to be lazy is greedy where quantifiers are
lazy at first. -/
def quantify? (progress : Progress) (least : Nat) (most? : Option Nat) (reluctant : Bool) :
    Option Progress := do
  let group ← progress.group.quantify? least most? (reluctant == progress.flags.lazyFirst)
  return { progress with group }

end Progress

/-- Reads one part, or a sign that opens, closes, divides or quantifies. -/
def readStep (progress : Progress) (text : List Char) : Option (Progress × List Char) := do
  let flags := progress.flags
  let quantified (least : Nat) (most? : Option Nat) (rest : List Char) := do
    let (reluctant, rest) := readLazy rest
    return (← progress.quantify? least most? reluctant, rest)
  match text with
  | '(' :: rest =>
      match ← readGroupOpening flags rest with
      | (.setting flags, rest) => return (progress.set flags, rest)
      | (.plain inner, rest) => return (progress.openGroup inner none, rest)
      | (.counted name?, rest) => return (← progress.openCounted? name?, rest)
  | ')' :: rest => return (← progress.close?, rest)
  | '|' :: rest => return (progress.branch, rest)
  | '?' :: rest => quantified 0 (some 1) rest
  | '*' :: rest => quantified 0 none rest
  | '+' :: rest => quantified 1 none rest
  | '{' :: rest =>
      let (least, most?, rest) ← readBounds flags rest
      quantified least most? (flags.skip rest)
  | rest =>
      let (part, rest) ← readPrimitive flags rest
      return (progress.push part, rest)

/-- Reads parts up to the end of the text. Each step reads a character at least. -/
def readParts : Nat → Progress → List Char → Option Part
  | 0, _, _ => none
  | fuel + 1, progress, rest =>
      match progress.flags.skip rest with
      | [] => if progress.outer.isEmpty then some progress.group.content else none
      | rest => do
          let (progress, rest) ← readStep progress rest
          readParts fuel progress rest

/-- The pattern that a text describes, if it describes one of a bearable depth and size. -/
def read? (text : String) : Option Pattern := do
  let source := text.toList
  let part ← readParts (source.length + 1) {} source
  if part.depth ≤ nestingLimit && part.pattern.isBearable then return part.pattern else none

end TokenGrammar.Pattern
