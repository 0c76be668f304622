import TokenGrammar.Pattern.Program
import Std.Data.HashSet

/-!
# Searching

A program is run over an input one character at a time, with all its threads at once. A thread is
the place of an instruction that reads a character or accepts, and remembers where it started.
Threads are kept in the order of preference, earlier ones first, and no place is kept twice: the
less preferred of two threads at one place could only find what the other finds first. So a search
takes time in proportion to the text it looks at.
-/

namespace TokenGrammar

/-- A stretch of text, from a first character to the character after its last. -/
structure Span where
  start : Nat
  stop : Nat
deriving DecidableEq, Repr

structure Thread where
  place : Nat
  start : Nat
deriving DecidableEq, Repr

namespace Program

/-- Follows forks and conditions from a list of threads, given in the order of preference, to the
threads that they lead to, latest first. Each place is followed once, and adds two at most. -/
def follow (code : Code) (holds : Look → Bool) :
    Nat → List Thread → Std.HashSet Nat → List Thread → List Thread
  | 0, _, _, reached => reached
  | _ + 1, [], _, reached => reached
  | fuel + 1, ⟨place, start⟩ :: threads, followed, reached =>
      if followed.contains place then follow code holds fuel threads followed reached
      else
        let followed := followed.insert place
        match code.getD place .accept with
        | .accept => follow code holds fuel threads followed (⟨place, start⟩ :: reached)
        | .consume .. => follow code holds fuel threads followed (⟨place, start⟩ :: reached)
        | .look condition next =>
            if holds condition then
              follow code holds fuel (⟨next, start⟩ :: threads) followed reached
            else follow code holds fuel threads followed reached
        | .fork preferred other =>
            follow code holds fuel (⟨preferred, start⟩ :: ⟨other, start⟩ :: threads) followed
              reached

/-- The threads that a list of threads leads to, in the order of preference. -/
def threadsFrom (program : Program) (holds : Look → Bool) (threads : List Thread) : List Thread :=
  let fuel := threads.length + 2 * program.code.size + 1
  (follow program.code holds fuel threads ∅ []).reverse

def accepts (program : Program) (thread : Thread) : Bool :=
  match program.code.getD thread.place .accept with
  | .accept => true
  | _ => false

def step? (program : Program) (c : Char) (thread : Thread) : Option Thread :=
  match program.code.getD thread.place .accept with
  | .consume members next => if members.contains c then some { thread with place := next } else none
  | _ => none

/-- Runs threads over the rest of an input. A thread that accepts ends those after it, and what it
finds stands until one before it accepts. Before anything is found, a thread starts at every
character, unless texts only begin at the beginning of the input. -/
def run (program : Program) :
    Nat → List Thread → Option Span → List Char → Option Span
  | position, threads, found?, rest =>
      let accepting? := threads.find? program.accepts
      let found? := (accepting?.map fun thread => Span.mk thread.start position) <|> found?
      match rest with
      | [] => found?
      | c :: rest =>
          let kept := (threads.takeWhile (!program.accepts ·)).filterMap (program.step? c)
          let next :=
            if program.anchored || found?.isSome then kept
            else kept ++ [⟨program.entry, position + 1⟩]
          if next.isEmpty then found?
          else
            run program (position + 1)
              (program.threadsFrom (Look.holds (some c) rest.head?) next) found? rest

/-- The first text in an input: the earliest, and of those the preferred one. -/
def find? (program : Program) (input : List Char) : Option Span :=
  let first := program.threadsFrom (Look.holds none input.head?) [⟨program.entry, 0⟩]
  program.run 0 first none input

end Program

end TokenGrammar
