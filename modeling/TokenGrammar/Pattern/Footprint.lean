import TokenGrammar.Pattern.Basic
import TokenGrammar.Pattern.LiteralTrie
import TokenGrammar.Text.ByteSequences

/-!
# Footprints

The footprint of a pattern is the room that an automaton over bytes takes which finds its texts.
There is one automaton that reads forward and keeps the groups, and one that reads backward and does
not. A pattern whose footprint passes a limit in either direction is refused.

The states are laid out one after the other, and copies of a part are laid out as often as the part
is repeated. The states of a set of characters are shared where they lead to the same states. They
are remembered in a table in which a state takes the place of an earlier one with the same hash, so
what is shared depends on the places of the states.
-/

namespace TokenGrammar

inductive Direction where
  | forward
  | backward
deriving DecidableEq, Repr

namespace Direction

def memorySize : Direction → Nat
  | forward => 10000
  | backward => 1000

/-- The bytes of a text in the order in which they are read. -/
def bytesOf (direction : Direction) (text : List Char) : List Nat :=
  match direction with
  | forward => text.flatMap Text.bytesOf
  | backward => (text.flatMap Text.bytesOf).reverse

end Direction

/-- An automaton that is laid out: the room it takes so far, and the remembered states of sets, each
with what it was made from. -/
structure Layout where
  room : Room := {}
  memory : Array (List Nat × Nat) := #[]

namespace Layout

def stateBytes : Nat := 32

def byteLimit : Nat := 10 * (1 <<< 20)

def bytes (layout : Layout) : Nat := stateBytes * layout.room.states + layout.room.bytes

def place (room : Room) (layout : Layout) : Layout := { layout with room := layout.room + room }

/-- A hash of some numbers: each is mixed in by an exclusive or and a product of 64 bits. -/
def hash (numbers : List Nat) : Nat :=
  let mixed := numbers.foldl
    (fun (mixed : UInt64) number => (mixed ^^^ number.toUInt64) * 1099511628211)
    14695981039346656037
  mixed.toNat

/-- The state made from some numbers: one that is remembered, or else a new one. -/
def share (made : List Nat) (room : Room) (layout : Layout) : Nat × Layout :=
  let slot := hash made % layout.memory.size
  let (known, state) := layout.memory.getD slot ([], 0)
  if known = made then (state, layout)
  else
    let state := layout.room.states
    (state, ⟨layout.room + room, layout.memory.setIfInBounds slot (made, state)⟩)

/-! ### Sets of characters -/

/-- The ranges that sequences begin with, in order, each with the rests of the sequences. -/
def beginnings (sequences : List (List Text.ByteRange)) :
    List (Text.ByteRange × List (List Text.ByteRange)) :=
  (sequences.splitBy fun a b => a.head? == b.head?).filterMap fun group =>
    (group.head?.bind List.head?).map fun range => (range, group.map List.tail)

/-- Lays out the states for the last bytes of characters, at most a number of them, from the last to
the first, and yields the state for the first. -/
def placeSequences (target : Nat) :
    Nat → List (List Text.ByteRange) → Layout → Nat × Layout
  | 0, _, layout => (target, layout)
  | length + 1, sequences, layout =>
      let (made, layout) := (beginnings sequences).foldl (fun (made, layout) (range, rests) =>
        let (next, layout) :=
          if rests.all List.isEmpty then (target, layout)
          else placeSequences target length rests layout
        (next :: range.2 :: range.1 :: made, layout)) ([], layout)
      layout.share made.reverse (.transitions (made.length / 3))

def placeBackward (target : Nat) (sequence : List Text.ByteRange) (layout : Layout) : Layout :=
  (sequence.foldl (fun (state, layout) (range : Text.ByteRange) =>
    layout.share [state, range.1, range.2] (.plain 1)) (target, layout)).2

/-- Lays out a set of characters. The transitions of a set of ASCII characters fit into one state.
-/
def placeSet (direction : Direction) (members : CharSet) (layout : Layout) : Layout :=
  if members.isAscii then layout.place (.plain 1 + .transitions members.ranges.size)
  else
    let sequences := members.ranges.toList.flatMap fun (first, last) =>
      Text.byteSequences first last
    match direction with
    | .forward => (placeSequences layout.room.states 4 sequences (layout.place (.plain 1))).2
    | .backward =>
        let target := layout.room.states + 1
        let layout := layout.place (.forks 1 sequences.length + .plain 1)
        sequences.foldl (fun layout sequence => layout.placeBackward target sequence) layout

/-! ### Patterns -/

def copies (part : Layout → Layout) : Nat → Layout → Layout
  | 0, layout => layout
  | count + 1, layout =>
      if byteLimit < layout.bytes then layout else copies part count (part layout)

/-- Lays out a part a number of times, where each time takes the same room. -/
def multiple (part : Layout → Layout) (count : Nat) (layout : Layout) : Layout :=
  let once := (part layout).room
  let before := layout.room
  { layout with
    room := ⟨before.states + count * (once.states - before.states),
      before.bytes + count * (once.bytes - before.bytes)⟩ }

end Layout

namespace Pattern

/-- Where a pattern stands: on its own, as the second branch of a choice, or as a later one. -/
inductive Standing where
  | alone
  | second
  | later
deriving DecidableEq, Repr

/-- What a branch adds to the room of a choice. The states before and after all branches are laid
out behind the second. -/
def Standing.room : Standing → Room
  | alone => {}
  | second => .forks 1 1 + .plain 1
  | later => .forks 0 1

/-- Whether a pattern takes the same room wherever it is laid out, because nothing is shared. -/
def isUniform : Pattern → Bool
  | empty => true
  | literal _ => true
  | char members => members.isAscii
  | look _ => true
  | seq first rest => first.isUniform && rest.isUniform
  | choice first rest => first.isUniform && rest.isUniform
  | repeated body _ _ _ => body.isUniform
  | capture _ _ body => body.isUniform

def literalText? : Pattern → Option (List Char)
  | literal text => some text
  | _ => none

def layOut (direction : Direction) : Pattern → Standing → Layout → Layout
  | empty, standing, layout => layout.place (.plain 1 + standing.room)
  | literal text, standing, layout =>
      layout.place (.plain (direction.bytesOf text).length + standing.room)
  | char members, standing, layout => (layout.placeSet direction members).place standing.room
  | look _, standing, layout => layout.place (.plain 1 + standing.room)
  | seq first rest, standing, layout =>
      let layout := match direction with
        | .forward => rest.layOut direction .alone (first.layOut direction .alone layout)
        | .backward => first.layOut direction .alone (rest.layOut direction .alone layout)
      layout.place standing.room
  | choice first rest, .alone, layout =>
      match (choice first rest).branches.mapM literalText? with
      | some texts => layout.place (LiteralTrie.room (texts.map direction.bytesOf))
      | none =>
          rest.layOut direction .second
            ((first.layOut direction .alone layout).place (.forks 0 1))
  | choice first rest, standing, layout =>
      rest.layOut direction .later
        ((first.layOut direction .alone layout).place standing.room)
  | repeated body least most? _, standing, layout =>
      let part := body.layOut direction .alone
      let option (layout : Layout) := part (layout.place (.forks 1 2))
      let copies := if body.isUniform then Layout.multiple else Layout.copies
      let layout := match least, most? with
        | 0, some 1 => (option layout).place (Room.plain 1)
        | 0, none =>
            if body.mayBeEmpty then (part layout).place (Room.forks 2 4 + Room.plain 1)
            else option layout
        | least, none => (copies part least layout).place (.forks 1 2)
        | least, some most =>
            if least = most then copies part least layout
            else
              let layout := if least = 0 then layout.place (.plain 1) else copies part least layout
              copies option (most - least) (layout.place (.plain 1))
      layout.place standing.room
  | capture _ _ body, standing, layout =>
      let layout := match direction with
        | .forward => (body.layOut direction .alone (layout.place (.plain 1))).place (.plain 1)
        | .backward => body.layOut direction .alone layout
      layout.place standing.room

/-- Whether every text begins, or ends, where the text that is searched does, seen in a direction.
-/
def isAnchored (pattern : Pattern) : Direction → Bool
  | .forward => pattern.beginsWith .textStart
  | .backward => pattern.endsWith .textEnd

/-- The number of bytes that the automaton of a pattern takes. One that is not anchored begins with
a loop over all bytes. -/
def footprint (direction : Direction) (pattern : Pattern) : Nat :=
  let start : Room :=
    if pattern.isAnchored direction then .plain 1
    else .forks 1 2 + .plain 1 + .transitions 1
  let whole := capture 0 none pattern
  let layout : Layout := ⟨start, Array.replicate direction.memorySize ([], 0)⟩
  ((whole.layOut direction .alone layout).place (.plain 1)).bytes

def isBearable (pattern : Pattern) : Bool :=
  pattern.footprint .forward ≤ Layout.byteLimit && pattern.footprint .backward ≤ Layout.byteLimit

end Pattern

end TokenGrammar
