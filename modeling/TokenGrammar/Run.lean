import TokenGrammar.Workspace.Basic

/-!
# Runs

A run works on a workspace and either yields a value or meets a fault. A fault is a mistake in the
grammar, not in the chain, so nothing inside the run can recover from it. It leaves the workspace as
it was when the fault was met, with the journal up to there.
-/

namespace TokenGrammar

inductive Fault where
  /-- A rule was reached before it had a pattern. -/
  | unsetRule
  /-- A handle was followed to a rule that nothing kept. -/
  | droppedRule
  /-- A definition refers to a sibling that its module does not have. -/
  | unknownProduction (name : String)
  /-- A reference was followed into a module that nothing kept. -/
  | droppedModule
  /-- A name is bound to nothing. -/
  | unbound (name : Name)
  /-- A part was reached that has to be built first, or a link that leads nowhere. -/
  | unbuilt
  /-- The grammar reaches itself again and again without reading a token. -/
  | endless
  /-- The representation of a grammar was asked for that contains itself. -/
  | unprintable
deriving DecidableEq, Repr

def unknownProductionMessage (name : String) : String :=
  "no production named `" ++ name ++ "` in this module"

namespace Fault

def message : Fault → String
  | unsetRule => "parsed through a rule whose pattern was never set"
  | droppedRule => "parsed through a handle to a rule that was dropped"
  | unknownProduction name => unknownProductionMessage name
  | droppedModule => "parsed through a reference into a module that was dropped"
  | unbound _ => "a name in the grammar is bound to nothing"
  | unbuilt => "a part of the grammar was never built"
  | endless => "the grammar never ends"
  | unprintable => "the representation of the grammar never ends"

end Fault

abbrev Run := EStateM Fault Workspace

namespace Run

/-! ### When a run yields a value -/

theorem pure_eq_ok_iff {α : Type} {a b : α} {before after : Workspace} :
    (pure a : Run α) before = .ok b after ↔ a = b ∧ before = after := by
  show EStateM.Result.ok a before = .ok b after ↔ _
  simp

theorem bind_eq_ok_iff {α β : Type} {run : Run α} {next : α → Run β} {b : β}
    {before after : Workspace} :
    (run >>= next) before = .ok b after ↔
      ∃ a between, run before = .ok a between ∧ next a between = .ok b after := by
  show EStateM.bind run next before = .ok b after ↔ _
  unfold EStateM.bind
  cases hrun : run before with
  | ok a between =>
      constructor
      · intro hnext
        exact ⟨a, between, rfl, hnext⟩
      · rintro ⟨_, _, heq, hnext⟩
        cases heq
        exact hnext
  | error fault between => simp

/-! ### Steps of a run -/

/-- The part of a workspace that must be there. -/
def demand {α : Type} (fault : Fault) : Option α → Run α
  | some value => return value
  | none => throw fault

theorem demand_eq_ok_iff {α : Type} {fault : Fault} {value? : Option α} {a : α}
    {before after : Workspace} :
    demand fault value? before = .ok a after ↔ value? = some a ∧ before = after := by
  cases value? with
  | none =>
      show EStateM.Result.error fault before = .ok a after ↔ _
      simp
  | some value => simp [demand, pure_eq_ok_iff]

def noteEntry (site : Site) : Run Unit :=
  modify (·.modifyJournal fun journal => { journal with entries := site :: journal.entries })

def noteBuild (site : Site) : Run Unit :=
  modify (·.modifyJournal fun journal => { journal with builds := site :: journal.builds })

def noteEvent (event : TraceEvent) : Run Unit :=
  modify (·.modifyJournal fun journal => { journal with events := event :: journal.events })

def noteMiss (diagnostic : Diagnostic) : Run Unit :=
  modify (·.modifyJournal fun journal => { journal with misses := diagnostic :: journal.misses })

end Run

end TokenGrammar
