import TokenGrammar.Grammar.Parsing
import TokenGrammar.Lexer

/-!
# Sessions

A session is a workspace together with the chain that is read. Commands open, fill and drop rules,
store and drop parsers, define modules and take productions from them, and parse. A command that is
refused reports why, and keeps what it did before.
-/

namespace TokenGrammar

/-- Where a chain comes from. -/
inductive Source where
  | lexed (rules : List LexicalRule) (input : String)
  | listed (chain : Chain)

inductive Refusal where
  | invalidRule (invalid : InvalidRule)
  | untokenized (untokenized : Untokenized)
  | alreadySet
  | unknownProduction (name : String)
  | fault (fault : Fault)
deriving DecidableEq, Repr

namespace Refusal

def message : Refusal → String
  | invalidRule invalid => invalid.message
  | untokenized failure => failure.message
  | alreadySet => "the pattern of this rule has already been set"
  | unknownProduction name => unknownProductionMessage name
  | fault found => found.message

/-- Whether what was refused is simply left undone, and other commands may follow. -/
def isMinor : Refusal → Bool
  | alreadySet => true
  | unknownProduction _ => true
  | _ => false

end Refusal

namespace Source

def chain : Source → Except Refusal Chain
  | lexed rules input => do
      let lexer ← (Lexer.ofRules rules).mapError .invalidRule
      (lexer.tokenize input).mapError .untokenized
  | listed chain => return chain

end Source

inductive Command where
  /-- Takes another chain. -/
  | read (source : Source)
  | openRule (name : String)
  | setRule (name : String) (pattern : Grammar)
  | isSet (name : String)
  | dropRule (name : String)
  | store (name : String) (grammar : Grammar)
  | dropParser (name : String)
  | define (name : String) (definitions : List (String × Grammar)) (cached : Bool)
  /-- Stores one production of a module that has no name. -/
  | storeOnly (name : String) (definitions : List (String × Grammar)) (production : String)
  | has (module production : String)
  | storeProduction (name module production : String)
  | dropModule (name : String)
  /-- Parses from a token on. The representation is that of the grammar after it was used. -/
  | parse (grammar : Grammar) (start : Nat) (represented : Bool)
  /-- Parses as a traced part with a label. -/
  | trace (label : String) (grammar : Grammar) (start : Nat)
  | represent (grammar : Grammar)

inductive Reply where
  | done
  | count (tokens : Nat)
  | verdict (holds : Bool)
  | existed (existed : Bool)
  | names (productions : List String)
  | parsed (outcome : Outcome Value) (builds : Nat) (representation? : Option String)
  | representation (text : String)

structure Session where
  workspace : Workspace := {}
  chain : Chain := #[]
deriving Inhabited

abbrev Step := EStateM Refusal Session

namespace Step

/-- A run on the workspace of the session, which it also changes when it meets a fault. -/
def ofRun {α : Type} (run : Run α) : Step α := fun session =>
  match run session.workspace with
  | .ok value workspace => .ok value { session with workspace }
  | .error fault workspace => .error (.fault fault) { session with workspace }

def ofExcept {α : Type} : Except Refusal α → Step α
  | .ok value => return value
  | .error refusal => throw refusal

def modifyWorkspace (change : Workspace → Workspace) : Step Unit :=
  modify fun session => { session with workspace := change session.workspace }

def workspace : Step Workspace := return (← get).workspace

def slotOf (name : String) : Step Nat := do
  ofRun (Run.demand (.unbound (.rule name)) ((← workspace).rules.find? name))

def moduleOf (name production : String) : Step Nat := do
  ofRun (Run.demand (.unbound (.production name production)) ((← workspace).moduleNames.find? name))

def addModule (definitions : List (String × Grammar)) (cached : Bool) : Step Nat := do
  let place := (← workspace).modules.size
  modifyWorkspace (·.addModule (.ofDefinitions definitions cached))
  return place

def storeProductionOf (place : Nat) (production name : String) : Step Reply := do
  match (← workspace).productionIndex? place production with
  | none => throw (.unknownProduction production)
  | some index =>
      modifyWorkspace (·.storeParser name (.linked (.production place index)))
      return .done

def representationOf (grammar : Grammar) : Step String := do
  ofRun (Run.demand .unprintable ((← workspace).textOf? [grammar] grammar))

def parseWith (grammar : Grammar) (start : Nat) : Step (Outcome Value) := do
  let chain := (← get).chain
  ofRun (grammar.parse chain (chain.cursor start))

end Step

namespace Command

open Step

def perform : Command → Step Reply
  | read source => do
      let chain ← Step.ofExcept source.chain
      modify fun session => { session with chain }
      return .count chain.size
  | openRule name => do
      modifyWorkspace (·.openRule name)
      return .done
  | setRule name pattern => do
      let slot ← slotOf name
      let pattern ← ofRun (pattern.link none)
      if ((← workspace).pattern? slot).isSome then throw .alreadySet
      modifyWorkspace (·.fillSlot slot pattern)
      return .done
  | isSet name => return .verdict ((← workspace).pattern? (← slotOf name)).isSome
  | dropRule name => do
      let before ← workspace
      modifyWorkspace fun workspace => { workspace with rules := workspace.rules.remove name }
      return .existed (before.rules.find? name).isSome
  | store name grammar => do
      let built ← ofRun (grammar.link none)
      modifyWorkspace (·.storeParser name built)
      return .done
  | dropParser name => do
      let before ← workspace
      modifyWorkspace fun workspace => { workspace with parsers := workspace.parsers.remove name }
      return .existed (before.parsers.find? name).isSome
  | define name definitions cached => do
      let place ← addModule definitions cached
      modifyWorkspace fun workspace =>
        { workspace with moduleNames := workspace.moduleNames.assign name place }
      return .names (Productions.ofDefinitions definitions).names
  | storeOnly name definitions production => do
      let place ← addModule definitions false
      storeProductionOf place production name
  | has module production => do
      let place ← moduleOf module production
      return .verdict ((← workspace).productionIndex? place production).isSome
  | storeProduction name module production => do
      let place ← moduleOf module production
      storeProductionOf place production name
  | dropModule name => do
      let before ← workspace
      modifyWorkspace fun workspace =>
        { workspace with moduleNames := workspace.moduleNames.remove name }
      return .existed (before.moduleNames.find? name).isSome
  | parse grammar start represented => do
      let built ← ofRun (grammar.link none)
      let outcome ← parseWith built start
      let text? ← if represented then some <$> representationOf built else pure none
      return .parsed outcome (← workspace).journal.builds.length text?
  | trace label grammar start => do
      let built ← ofRun (grammar.link none)
      let outcome ← parseWith (.traced label built) start
      return .parsed outcome (← workspace).journal.builds.length none
  | represent grammar => do
      let built ← ofRun (grammar.link none)
      return .representation (← representationOf built)

end Command

namespace Session

/-- Performs a command with a new journal. -/
def perform (session : Session) (command : Command) :
    Except Refusal Reply × Session :=
  let session := { session with workspace := session.workspace.clearJournal }
  match command.perform session with
  | .ok reply session => (.ok reply, session)
  | .error refusal session => (.error refusal, session)

def traceText (session : Session) : String :=
  session.workspace.journal.traceText session.chain

/-- Performs commands in order to set up a session. A rule that is set again keeps its first
pattern, and a production that is missing is not stored; the first other refusal ends the setting
up. -/
def performAll (session : Session) : List Command → Except Refusal Session
  | [] => .ok session
  | command :: commands =>
      match session.perform command with
      | (.ok _, session) => performAll session commands
      | (.error refusal, session) =>
          if refusal.isMinor then performAll session commands else .error refusal

end Session

end TokenGrammar
