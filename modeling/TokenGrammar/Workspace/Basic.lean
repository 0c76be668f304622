import TokenGrammar.Grammar.Basic
import TokenGrammar.Trace

/-!
# Workspaces

A workspace holds what grammars link to: the slots of rules, the cells of parts that are built
once, and modules. Slots and cells are filled at most once and nothing is ever removed from them;
whether something is still kept by anything is a question about the whole workspace. Names are
apart from what they name, so a name can be bound anew while grammars built earlier keep their
links.
-/

namespace TokenGrammar

/-! ### Names -/

/-- What names are bound to, the latest first. -/
abbrev Scope (α : Type) := List (String × α)

namespace Scope

variable {α : Type}

def find? (scope : Scope α) (name : String) : Option α :=
  (List.find? (fun binding => binding.1 == name) scope).map (·.2)

def remove (scope : Scope α) (name : String) : Scope α :=
  scope.filter fun binding => binding.1 != name

/-- Binds a name, in place of what it was bound to. -/
def assign (scope : Scope α) (name : String) (value : α) : Scope α :=
  (name, value) :: remove scope name

@[simp] theorem find?_assign_self (scope : Scope α) (name : String) (value : α) :
    (scope.assign name value).find? name = some value := by
  simp [assign, find?]

theorem find?_remove_self (scope : Scope α) (name : String) :
    (scope.remove name).find? name = none := by
  simp [remove, find?]

theorem find?_remove_of_ne (scope : Scope α) {name other : String} (hne : other ≠ name) :
    (scope.remove name).find? other = scope.find? other := by
  have hsame : (fun binding : String × α =>
      !decide (binding.1 = name) && decide (binding.1 = other))
        = fun binding => binding.1 == other := by
    funext binding
    by_cases hbinding : binding.1 = other <;> simp [hbinding, hne]
  simp [remove, find?, List.find?_filter, hsame]

theorem find?_assign_of_ne (scope : Scope α) {name other : String} (value : α)
    (hne : other ≠ name) : (scope.assign name value).find? other = scope.find? other := by
  rw [← find?_remove_of_ne scope hne]
  simp [assign, find?, Ne.symm hne]

end Scope

/-! ### Modules -/

/-- The definitions of a module, in the order in which their names were first defined. -/
abbrev Productions := List (String × Grammar)

namespace Productions

/-- Defines a production, in place of an earlier definition of its name. -/
def define (productions : Productions) (name : String) (definition : Grammar) : Productions :=
  match productions with
  | [] => [(name, definition)]
  | (earlier, before) :: rest =>
      if earlier = name then (name, definition) :: rest
      else (earlier, before) :: define rest name definition

def ofDefinitions (definitions : List (String × Grammar)) : Productions :=
  definitions.foldl (fun productions (name, definition) => productions.define name definition) []

def names (productions : Productions) : List String := productions.map (·.1)

def index? (productions : Productions) (name : String) : Option Nat :=
  productions.findIdx? fun production => production.1 == name

end Productions

/-- A module whose productions are built each time they are reached, or with a cache each once. -/
structure Module where
  productions : Productions
  cache? : Option (Array (Option Grammar))
deriving Inhabited

namespace Module

def ofDefinitions (definitions : List (String × Grammar)) (cached : Bool) : Module :=
  let productions := Productions.ofDefinitions definitions
  { productions
    cache? := if cached then some (Array.replicate productions.length none) else none }

def built? (module : Module) (index : Nat) : Option Grammar := do
  let cache ← module.cache?
  (cache[index]?).join

/-- Keeps the grammar built for a production, if the module keeps any. -/
def keepBuilt (module : Module) (index : Nat) (grammar : Grammar) : Module :=
  { module with cache? := module.cache?.map (·.setIfInBounds index (some grammar)) }

end Module

/-! ### What happens during a run -/

/-- Where a construction is put off until it is reached: a part that is built each time, a cell, or
a production. -/
inductive Site where
  | part (part : Grammar)
  | cell (place : Nat)
  | production (module index : Nat)

/-- The record of a run, latest first: the sites that were reached, those that were built when they
were reached, what was traced, and every leaf that failed. -/
structure Journal where
  entries : List Site := []
  builds : List Site := []
  events : List TraceEvent := []
  misses : List Diagnostic := []
deriving Inhabited

namespace Journal

def traceText (journal : Journal) (chain : Chain) : String :=
  String.join (journal.events.reverse.map (·.text chain))

end Journal

/-- A part that is built once: how to build it, and what was built. -/
structure Cell where
  body : Grammar
  built? : Option Grammar
deriving Inhabited

structure Workspace where
  slots : Array (Option Grammar) := #[]
  cells : Array Cell := #[]
  modules : Array Module := #[]
  rules : Scope Nat := []
  parsers : Scope Grammar := []
  moduleNames : Scope Nat := []
  journal : Journal := {}
deriving Inhabited

namespace Workspace

def pattern? (workspace : Workspace) (slot : Nat) : Option Grammar :=
  (workspace.slots[slot]?).join

def cellContent? (workspace : Workspace) (cell : Nat) : Option Grammar :=
  (workspace.cells[cell]?).bind (·.built?)

def definition? (workspace : Workspace) (module index : Nat) : Option Grammar := do
  let found ← workspace.modules[module]?
  let production ← found.productions[index]?
  return production.2

def productionName? (workspace : Workspace) (module index : Nat) : Option String := do
  let found ← workspace.modules[module]?
  let production ← found.productions[index]?
  return production.1

def productionIndex? (workspace : Workspace) (module : Nat) (name : String) : Option Nat := do
  let found ← workspace.modules[module]?
  found.productions.index? name

def productionContent? (workspace : Workspace) (module index : Nat) : Option Grammar :=
  (workspace.modules[module]?).bind (·.built? index)

def clearJournal (workspace : Workspace) : Workspace := { workspace with journal := {} }

def modifyJournal (change : Journal → Journal) (workspace : Workspace) : Workspace :=
  { workspace with journal := change workspace.journal }

/-! ### Changes -/

def openRule (name : String) (workspace : Workspace) : Workspace :=
  { workspace with
    slots := workspace.slots.push none
    rules := workspace.rules.assign name workspace.slots.size }

def fillSlot (slot : Nat) (pattern : Grammar) (workspace : Workspace) : Workspace :=
  { workspace with slots := workspace.slots.setIfInBounds slot (some pattern) }

def openCell (body : Grammar) (workspace : Workspace) : Workspace :=
  { workspace with cells := workspace.cells.push ⟨body, none⟩ }

def fillCell (cell : Nat) (built : Grammar) (workspace : Workspace) : Workspace :=
  { workspace with
    cells := workspace.cells.modify cell fun content => { content with built? := some built } }

/-- Keeps what was built for a production, if its module keeps any. -/
def fillProduction (module index : Nat) (built : Grammar) (workspace : Workspace) : Workspace :=
  { workspace with
    modules := workspace.modules.modify module (·.keepBuilt index built) }

def storeParser (name : String) (grammar : Grammar) (workspace : Workspace) : Workspace :=
  { workspace with parsers := workspace.parsers.assign name grammar }

theorem pattern?_fillSlot_self (workspace : Workspace) {slot : Nat} (pattern : Grammar)
    (hslot : slot < workspace.slots.size) :
    (workspace.fillSlot slot pattern).pattern? slot = some pattern := by
  simp [pattern?, fillSlot, hslot]

theorem pattern?_fillSlot_of_ne (workspace : Workspace) {slot other : Nat} (pattern : Grammar)
    (hne : slot ≠ other) :
    (workspace.fillSlot slot pattern).pattern? other = workspace.pattern? other := by
  simp [pattern?, fillSlot, Array.getElem?_setIfInBounds_ne hne]

theorem cellContent?_fillCell_self (workspace : Workspace) {cell : Nat} (built : Grammar)
    (hcell : cell < workspace.cells.size) :
    (workspace.fillCell cell built).cellContent? cell = some built := by
  simp only [cellContent?, fillCell, Array.getElem?_modify]
  simp [hcell]

theorem cellContent?_fillCell_of_ne (workspace : Workspace) {cell other : Nat} (built : Grammar)
    (hne : cell ≠ other) :
    (workspace.fillCell cell built).cellContent? other = workspace.cellContent? other := by
  simp [cellContent?, fillCell, Array.getElem?_modify, hne]

/-- Adds a module without a name. Its place is the number of modules before it. -/
def addModule (module : Module) (workspace : Workspace) : Workspace :=
  { workspace with modules := workspace.modules.push module }

end Workspace

end TokenGrammar
