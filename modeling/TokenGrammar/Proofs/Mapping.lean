import TokenGrammar.Proofs.Survivors
import TokenGrammar.Proofs.Unfolding

/-!
# Images of workspaces

A function on grammars that is applied to everything in a workspace gives a workspace with the same
rules, cells, modules and names, which lead to the images of what they led to before. If the
function leaves alone what a grammar keeps, then the same things are alive in the image.
-/

namespace TokenGrammar

variable (f : Grammar → Grammar)

def Cell.mapGrammars (cell : Cell) : Cell where
  body := f cell.body
  built? := cell.built?.map f

def Module.mapGrammars (module : Module) : Module where
  productions := module.productions.map fun production => (production.1, f production.2)
  cache? := module.cache?.map fun cache => cache.map (·.map f)

namespace Workspace

def mapGrammars (workspace : Workspace) : Workspace :=
  { workspace with
    slots := workspace.slots.map (·.map f)
    cells := workspace.cells.map (Cell.mapGrammars f)
    modules := workspace.modules.map (Module.mapGrammars f)
    parsers := workspace.parsers.map fun binding => (binding.1, f binding.2) }

variable (workspace : Workspace)

/-! ### What names and links lead to -/

theorem pattern?_mapGrammars (slot : Nat) :
    (workspace.mapGrammars f).pattern? slot = (workspace.pattern? slot).map f := by
  simp only [pattern?, mapGrammars, Array.getElem?_map]
  cases workspace.slots[slot]? <;> rfl

theorem cells_mapGrammars (place : Nat) :
    (workspace.mapGrammars f).cells[place]? = workspace.cells[place]?.map (Cell.mapGrammars f) := by
  simp [mapGrammars]

theorem cellContent?_mapGrammars (place : Nat) :
    (workspace.mapGrammars f).cellContent? place = (workspace.cellContent? place).map f := by
  rw [cellContent?, cellContent?, cells_mapGrammars]
  cases workspace.cells[place]? <;> rfl

theorem modules_mapGrammars (module : Nat) :
    (workspace.mapGrammars f).modules[module]?
      = workspace.modules[module]?.map (Module.mapGrammars f) := by
  simp [mapGrammars]

theorem definition?_mapGrammars (module index : Nat) :
    (workspace.mapGrammars f).definition? module index
      = (workspace.definition? module index).map f := by
  rw [definition?, definition?, modules_mapGrammars]
  cases workspace.modules[module]? with
  | none => rfl
  | some found =>
      have hproduction : (found.mapGrammars f).productions[index]? = found.productions[index]?.map
          fun production => (production.1, f production.2) := List.getElem?_map
      simp only [Option.map_some, Option.bind_eq_bind, Option.bind_some, hproduction]
      cases found.productions[index]? <;> rfl

theorem productionContent?_mapGrammars (module index : Nat) :
    (workspace.mapGrammars f).productionContent? module index
      = (workspace.productionContent? module index).map f := by
  rw [productionContent?, productionContent?, modules_mapGrammars]
  cases workspace.modules[module]? with
  | none => rfl
  | some found =>
      obtain ⟨productions, cache?⟩ := found
      cases cache? with
      | none => rfl
      | some cache =>
          have hcache : (cache.map (·.map f))[index]? = cache[index]?.map (·.map f) :=
            Array.getElem?_map
          simp only [Option.map_some, Option.bind_some, Module.mapGrammars, Module.built?,
            Option.bind_eq_bind, hcache]
          cases cache[index]? <;> rfl

theorem productionIndex?_mapGrammars (module : Nat) (label : String) :
    (workspace.mapGrammars f).productionIndex? module label
      = workspace.productionIndex? module label := by
  rw [productionIndex?, productionIndex?, modules_mapGrammars]
  cases workspace.modules[module]? with
  | none => rfl
  | some found => exact List.findIdx?_map ..

theorem siblingsAt_mapGrammars (home? : Option Nat) :
    (workspace.mapGrammars f).siblingsAt home? = workspace.siblingsAt home? := by
  funext label
  simp [siblingsAt, siblings, productionIndex?_mapGrammars]

theorem parsers_mapGrammars (label : String) :
    (workspace.mapGrammars f).parsers.find? label = (workspace.parsers.find? label).map f := by
  simp only [mapGrammars, Scope.find?, List.find?_map, Option.map_map]
  rfl

section Links

variable {f} (hlinked : ∀ target, f (.linked target) = .linked target)

include hlinked

theorem bound?_mapGrammars (home? : Option Nat) (name : Name) :
    (workspace.mapGrammars f).bound? home? name = (workspace.bound? home? name).map f := by
  cases name with
  | rule label | handle label =>
      simp only [bound?, Option.map_map, Function.comp_def, hlinked]
      rfl
  | parser label => exact workspace.parsers_mapGrammars f label
  | sibling label =>
      simp only [bound?, siblingsAt_mapGrammars, Option.map_map, Function.comp_def, hlinked]
  | production owner label =>
      have hnames : (workspace.mapGrammars f).moduleNames = workspace.moduleNames := rfl
      simp only [bound?, Option.bind_eq_bind, productionIndex?_mapGrammars, hnames]
      cases workspace.moduleNames.find? owner with
      | none => rfl
      | some place =>
          cases hindex : workspace.productionIndex? place label <;> simp [hindex, hlinked]

end Links

theorem target?_mapGrammars (target : Link) :
    (workspace.mapGrammars f).target? target
      = (workspace.target? target).map fun found => (found.1, f found.2) := by
  cases target with
  | rule slot | handle slot =>
      simp only [target?, pattern?_mapGrammars, Option.map_map]
      rfl
  | cell place =>
      simp only [target?, cells_mapGrammars, Option.map_map]
      refine congrArg (Option.map · _) (funext fun cell => ?_)
      obtain ⟨body, built?⟩ := cell
      cases built? <;> rfl
  | production module index | reference module index =>
      simp only [target?, productionContent?_mapGrammars, definition?_mapGrammars]
      cases workspace.productionContent? module index with
      | some built => rfl
      | none => cases workspace.definition? module index <;> rfl

/-! ### Changes -/

private theorem map_modify {α β : Type} (g : α → β) (change : α → α) (change' : β → β)
    (h : ∀ a, g (change a) = change' (g a)) (as : Array α) (place : Nat) :
    (as.modify place change).map g = (as.map g).modify place change' := by
  refine Array.ext_getElem? fun other => ?_
  simp only [Array.getElem?_map, Array.getElem?_modify]
  split
  · cases as[other]? with
    | none => rfl
    | some a => exact congrArg some (h a)
  · rfl

theorem mapGrammars_openCell (body : Grammar) :
    (workspace.openCell body).mapGrammars f = (workspace.mapGrammars f).openCell (f body) := by
  simp [mapGrammars, openCell, Cell.mapGrammars]

theorem mapGrammars_storeParser (label : String) (built : Grammar) :
    (workspace.storeParser label built).mapGrammars f
      = (workspace.mapGrammars f).storeParser label (f built) := by
  simp [mapGrammars, storeParser, Scope.assign, Scope.remove, List.filter_map, Function.comp_def]

theorem mapGrammars_fillCell (place : Nat) (built : Grammar) :
    (workspace.fillCell place built).mapGrammars f
      = (workspace.mapGrammars f).fillCell place (f built) := by
  have hcells := map_modify (Cell.mapGrammars f) (fun content => { content with built? := built })
    (fun content => { content with built? := f built }) (fun _ => rfl)
  simp only [mapGrammars, fillCell, hcells]

theorem mapGrammars_fillProduction (module index : Nat) (built : Grammar) :
    (workspace.fillProduction module index built).mapGrammars f
      = (workspace.mapGrammars f).fillProduction module index (f built) := by
  have hmodules := map_modify (Module.mapGrammars f) (·.keepBuilt index built)
    (·.keepBuilt index (f built)) fun ⟨productions, cache?⟩ => by
      cases cache? <;> simp [Module.keepBuilt, Module.mapGrammars]
  simp only [mapGrammars, fillProduction, hmodules]

/-! ### Ownership -/

variable {f} (hkeeps : ∀ grammar, (f grammar).keeps = grammar.keeps)

include hkeeps

theorem keptBy_mapGrammars (keepable : Keepable) :
    (workspace.mapGrammars f).keptBy keepable = workspace.keptBy keepable := by
  cases keepable with
  | slot place =>
      rw [keptBy, keptBy, pattern?_mapGrammars]
      cases workspace.pattern? place <;> simp [hkeeps]
  | cell place =>
      rw [keptBy, keptBy, cellContent?_mapGrammars]
      cases workspace.cellContent? place <;> simp [hkeeps]
  | module place =>
      rw [keptBy, keptBy, modules_mapGrammars]
      cases workspace.modules[place]? with
      | none => rfl
      | some found =>
          obtain ⟨productions, cache?⟩ := found
          cases cache? with
          | none => rfl
          | some cache =>
              simp [Module.mapGrammars, List.flatMap_map, Function.comp_def, hkeeps]

theorem isRoot_mapGrammars (held : List Grammar) (keepable : Keepable) :
    (workspace.mapGrammars f).isRoot (held.map f) keepable = workspace.isRoot held keepable := by
  simp only [isRoot, isKeptByName, mapGrammars, List.any_map, Function.comp_def, hkeeps]

/-- **The same things are alive in the image.** -/
theorem isAlive_mapGrammars (held : List Grammar) (keepable : Keepable) :
    (workspace.mapGrammars f).isAlive (held.map f) keepable = workspace.isAlive held keepable := by
  refine isAlive_congr ?_ (keptBy_mapGrammars workspace hkeeps)
    (isRoot_mapGrammars workspace hkeeps held) keepable
  simp [keepables, mapGrammars]

end Workspace

end TokenGrammar
