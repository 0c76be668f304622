import TokenGrammar.Proofs.Caching.Mirroring
import TokenGrammar.Proofs.Caching.Printing
import TokenGrammar.Proofs.Mapping
import TokenGrammar.Proofs.Persistence
import TokenGrammar.Proofs.Renaming.Translation

/-!
# Workspaces carried over

A translation carries a workspace over to another one if everything stands there at its new place.
The other one may have further cells, as long as nothing was built for them: what nothing links to
and what keeps nothing cannot be noticed. So the same rules and modules are alive, and the same is
printed.
-/

namespace TokenGrammar

namespace Workspace

def production? (workspace : Workspace) (module index : Nat) : Option (String × Grammar) :=
  (workspace.productions? module).bind fun productions => productions[index]?

/-- Whether a module keeps what is built for a production. -/
def hasRoom (workspace : Workspace) (module index : Nat) : Bool :=
  (workspace.cacheSize? module).any (index < ·)

variable {workspace : Workspace}

theorem definition?_eq_production? (workspace : Workspace) (module index : Nat) :
    workspace.definition? module index = (workspace.production? module index).map (·.2) := by
  rw [definition?_eq, production?]
  cases workspace.productions? module <;> rfl

theorem productionName?_eq_production? (workspace : Workspace) (module index : Nat) :
    workspace.productionName? module index = (workspace.production? module index).map (·.1) := by
  simp only [productionName?, production?, productions?]
  cases workspace.modules[module]? with
  | none => rfl
  | some found => cases hproduction : found.productions[index]? <;> simp [hproduction]

theorem productionContent?_fillProduction {module index : Nat} (built : Grammar)
    (module' index' : Nat) :
    (workspace.fillProduction module index built).productionContent? module' index'
      = if (module = module' ∧ index = index') ∧ workspace.hasRoom module index then some built
        else workspace.productionContent? module' index' := by
  by_cases hsame : module = module' ∧ index = index'
  · obtain ⟨rfl, rfl⟩ := hsame
    by_cases hroom : workspace.hasRoom module index
    · rw [if_pos ⟨⟨rfl, rfl⟩, hroom⟩]
      obtain ⟨size, hsize, hindex⟩ := Option.any_eq_true _ _ |>.1 hroom
      exact productionContent?_fillProduction_of_lt built hsize (of_decide_eq_true hindex)
    · rw [if_neg fun h => hroom h.2]
      -- without room the cache, if any, stays as it is
      simp only [hasRoom, cacheSize?] at hroom
      simp only [productionContent?, fillProduction, Array.getElem?_modify, if_true]
      cases hfound : workspace.modules[module]? with
      | none => rfl
      | some found =>
          cases hcache : found.cache? with
          | none => simp [Module.built?, Module.keepBuilt, hcache]
          | some cache =>
              simp [hfound, hcache] at hroom
              simp [Module.built?, Module.keepBuilt, hcache, hroom]
  · rw [if_neg fun h => hsame h.1, productionContent?_fillProduction_of_ne workspace built hsame]

theorem hasRoom_fillProduction (module index : Nat) (built : Grammar) (module' index' : Nat) :
    (workspace.fillProduction module index built).hasRoom module' index'
      = workspace.hasRoom module' index' := by
  rw [hasRoom, cacheSize?_fillProduction, hasRoom]

theorem production?_fillProduction (module index : Nat) (built : Grammar) (module' index' : Nat) :
    (workspace.fillProduction module index built).production? module' index'
      = workspace.production? module' index' := by
  rw [production?, productions?_fillProduction, production?]

/-! ### Representations -/

/-- What a link shows whose inside is not shown. -/
def surfaceText (workspace : Workspace) (held : List Grammar) : Link → String
  | .rule _ => "<unset>"
  | .handle _ => "..."
  | .cell _ => Grammar.unbuiltText
  | .production module index => (workspace.productionName? module index).getD ""
  | .reference module index =>
      if workspace.isAlive held (.module module) then
        (workspace.productionName? module index).getD ""
      else "<dropped>"

theorem linkText?_eq (held : List Grammar) (hops : Nat) (target : Link) :
    workspace.linkText? held hops target = match workspace.shown? target, hops with
      | none, _ => some (workspace.surfaceText held target)
      | some _, 0 => none
      | some content, hops + 1 => content.text? (workspace.linkText? held hops) := by
  cases target with
  | rule slot => cases hops <;> cases hpattern : workspace.pattern? slot <;>
      simp [linkText?, shown?, hpattern, surfaceText]
  | cell place => cases hops <;> cases hbuilt : workspace.cellContent? place <;>
      simp [linkText?, shown?, hbuilt, surfaceText]
  | handle slot | production module index => cases hops <;> rfl
  | reference module index =>
      cases hops <;> simp only [linkText?, shown?, surfaceText] <;> split <;> rfl

theorem linkText?_mono {held : List Grammar} {hops hops' : Nat} (hle : hops ≤ hops')
    {target : Link} {text : String} (h : workspace.linkText? held hops target = some text) :
    workspace.linkText? held hops' target = some text := by
  induction hops generalizing hops' target text with
  | zero =>
      rw [linkText?_eq] at h ⊢
      cases hshown : workspace.shown? target with
      | none => rwa [hshown] at h
      | some content =>
          rw [hshown] at h
          cases h
  | succ hops ih =>
      obtain ⟨hops', rfl⟩ := Nat.exists_eq_add_of_le' (Nat.le_trans (Nat.succ_pos hops) hle)
      rw [linkText?_eq] at h ⊢
      cases hshown : workspace.shown? target with
      | none => rwa [hshown] at h
      | some content =>
          rw [hshown] at h
          exact content.text?_imp (fun _ _ => ih (Nat.le_of_succ_le_succ hle)) h

/-- More hops than there are rules and cells show nothing more. -/
theorem linkText?_add (held : List Grammar) (more : Nat) (target : Link) :
    workspace.linkText? held (workspace.slots.size + workspace.cells.size + more) target
      = workspace.linkText? held (workspace.slots.size + workspace.cells.size) target := by
  cases htext : workspace.linkText? held (workspace.slots.size + workspace.cells.size) target with
  | some text => exact linkText?_mono (Nat.le_add_right _ _) htext
  | none =>
      by_contra hsome
      obtain ⟨text, hmore⟩ := Option.ne_none_iff_exists'.1 hsome
      have hshown := isSome_linkText?_of_hops (Option.isSome_of_eq_some hmore)
      rw [htext] at hshown
      cases hshown

end Workspace

/-! ### What is carried over -/

namespace Translation

variable (t : Translation)

def site : Site → Site
  | .part part => .part (part.translate t)
  | .cell place => .cell (t.cell place)
  | .production module index => .production module (t.index module index)

/-- What was noted, at the new places. Without traced parts nothing is traced. -/
def journal (journal : Journal) : Journal where
  entries := journal.entries.map t.site
  builds := journal.builds.map t.site
  events := if t.traces then journal.events else []
  misses := journal.misses

def production (production : String × Grammar) : String × Grammar :=
  (production.1, production.2.translate t)

/-- Whether a workspace has an image in which everything stands at its new place. The image may have
more cells, for which nothing was built. Modules that do not exist yet keep their order. -/
structure Carries (workspace image : Workspace) : Prop where
  slots_size : image.slots.size = workspace.slots.size
  patterns : ∀ slot, image.pattern? slot = (workspace.pattern? slot).map (·.translate t)
  first_le : t.first ≤ workspace.cells.size
  cells_size : image.cells.size = workspace.cells.size + t.shift
  cells : ∀ place, image.cells[t.cell place]?
    = workspace.cells[place]?.map (Cell.mapGrammars (·.translate t))
  unused : ∀ {place built}, image.cellContent? place = some built → place ∈ Set.range t.cell
  modules_size : image.modules.size = workspace.modules.size
  fresh : ∀ module, workspace.modules.size ≤ module → t.index module = Equiv.refl Nat
  productions : ∀ module index, image.production? module (t.index module index)
    = (workspace.production? module index).map t.production
  indices : ∀ module label, image.productionIndex? module label
    = (workspace.productionIndex? module label).map (t.index module)
  rooms : ∀ module index, image.hasRoom module (t.index module index)
    = workspace.hasRoom module index
  contents : ∀ module index, image.productionContent? module (t.index module index)
    = (workspace.productionContent? module index).map (·.translate t)
  rules : image.rules = workspace.rules
  moduleNames : image.moduleNames = workspace.moduleNames
  parsers : image.parsers = workspace.parsers.map t.production
  journal : image.journal = t.journal workspace.journal

end Translation

namespace Translation.Carries

variable {t : Translation} {workspace image : Workspace} (h : t.Carries workspace image)

include h

/-! ### What names and links lead to -/

theorem cellContent? (place : Nat) :
    image.cellContent? (t.cell place) = (workspace.cellContent? place).map (·.translate t) := by
  rw [Workspace.cellContent?, h.cells, Workspace.cellContent?]
  cases workspace.cells[place]? <;> rfl

theorem definition? (module index : Nat) : image.definition? module (t.index module index)
    = (workspace.definition? module index).map (·.translate t) := by
  rw [Workspace.definition?_eq_production?, h.productions, Workspace.definition?_eq_production?]
  cases workspace.production? module index <;> rfl

theorem productionName? (module index : Nat) : image.productionName? module (t.index module index)
    = workspace.productionName? module index := by
  rw [Workspace.productionName?_eq_production?, h.productions,
    Workspace.productionName?_eq_production?]
  cases workspace.production? module index <;> rfl

theorem siblingsAt (home? : Option Nat) :
    image.siblingsAt home? = t.siblings (workspace.siblingsAt home?) := by
  funext name
  cases home? with
  | none => rfl
  | some home =>
      simp only [Workspace.siblingsAt, Workspace.siblings, Option.bind_some, h.indices, siblings]
      cases workspace.productionIndex? home name <;> rfl

theorem find?_parsers (label : String) :
    image.parsers.find? label = (workspace.parsers.find? label).map (·.translate t) := by
  rw [h.parsers, Scope.find?, List.find?_map, Option.map_map, Scope.find?, Option.map_map]
  rfl

theorem bound? (home? : Option Nat) (name : Name) :
    image.bound? home? name = (workspace.bound? home? name).map (·.translate t) := by
  cases name with
  | rule label | handle label =>
      simp only [Workspace.bound?, h.rules]
      cases workspace.rules.find? label <;> rfl
  | parser label => exact h.find?_parsers label
  | production owner label =>
      simp only [Workspace.bound?, h.moduleNames, h.indices]
      cases workspace.moduleNames.find? owner with
      | none => rfl
      | some place => cases hindex : workspace.productionIndex? place label <;> simp [hindex]; rfl
  | sibling label =>
      simp only [Workspace.bound?, h.siblingsAt, siblings]
      cases workspace.siblingsAt home? label <;> rfl

/-! ### What is alive -/

theorem lt_size_iff (place : Nat) :
    t.cell place < image.cells.size ↔ place < workspace.cells.size := by
  rw [← not_iff_not, Nat.not_lt, Nat.not_lt, ← Array.getElem?_eq_none_iff, h.cells,
    Option.map_eq_none_iff, Array.getElem?_eq_none_iff]

theorem mem_keepables (keepable : Keepable) :
    t.keepable keepable ∈ image.keepables ↔ keepable ∈ workspace.keepables := by
  rw [Workspace.mem_keepables, Workspace.mem_keepables]
  cases keepable with
  | slot place => simp only [keepable, h.slots_size]
  | cell place => exact h.lt_size_iff place
  | module place => simp only [keepable, h.modules_size]

theorem isRoot (held : List Grammar) (keepable : Keepable) :
    image.isRoot (held.map (·.translate t)) (t.keepable keepable)
      = workspace.isRoot held keepable := by
  have hkeeps (grammar : Grammar) : (grammar.translate t).keeps.contains (t.keepable keepable)
      = grammar.keeps.contains keepable := by
    rw [Bool.eq_iff_iff, List.contains_iff_mem, List.contains_iff_mem, grammar.mem_keeps_translate]
  have hrules : ∀ binding : String × Nat, (Keepable.slot binding.2 == t.keepable keepable)
      = (Keepable.slot binding.2 == keepable) := by
    intro binding
    cases keepable <;> rfl
  have hmodules : ∀ binding : String × Nat, (Keepable.module binding.2 == t.keepable keepable)
      = (Keepable.module binding.2 == keepable) := by
    intro binding
    cases keepable <;> rfl
  simp only [Workspace.isRoot, Workspace.isKeptByName, h.rules, h.moduleNames, h.parsers,
    List.any_map, Function.comp_def, hkeeps, hrules, hmodules, production]

theorem mem_keptBy (keepable keeper : Keepable) :
    t.keepable keepable ∈ image.keptBy (t.keepable keeper)
      ↔ keepable ∈ workspace.keptBy keeper := by
  cases keeper with
  | slot place =>
      rw [Translation.keepable, Workspace.mem_keptBy_slot, Workspace.mem_keptBy_slot, h.patterns]
      simp [Grammar.mem_keeps_translate]
  | cell place =>
      rw [Translation.keepable, Workspace.mem_keptBy_cell, Workspace.mem_keptBy_cell,
        h.cellContent?]
      simp [Grammar.mem_keeps_translate]
  | module place =>
      rw [Translation.keepable, Workspace.mem_keptBy_module, Workspace.mem_keptBy_module,
        (t.index place).surjective.exists]
      simp [h.contents, Grammar.mem_keeps_translate]

theorem exists_keeper {keepable keeper : Keepable} (hkept : keepable ∈ image.keptBy keeper) :
    keeper ∈ Set.range t.keepable := by
  cases keeper with
  | slot place => exact ⟨.slot place, rfl⟩
  | module place => exact ⟨.module place, rfl⟩
  | cell place =>
      obtain ⟨built, hbuilt, -⟩ := Workspace.mem_keptBy_cell.1 hkept
      obtain ⟨place, rfl⟩ := h.unused hbuilt
      exact ⟨.cell place, rfl⟩

/-- **What is alive is alive at its new place**, and nothing else has come to life there. -/
theorem isAlive (held : List Grammar) (keepable : Keepable) :
    image.isAlive (held.map (·.translate t)) (t.keepable keepable)
      = workspace.isAlive held keepable := by
  rw [Bool.eq_iff_iff, Workspace.isAlive_iff, Workspace.isAlive_iff, h.isRoot]
  refine or_congr_right ⟨?_, ?_⟩
  · rintro ⟨alive, hsupports, halive⟩
    refine ⟨fun other => alive (t.keepable other), fun other hother => ?_, halive⟩
    obtain ⟨hthere, hreason⟩ := hsupports _ hother
    rw [h.mem_keepables, h.isRoot] at *
    refine ⟨hthere, hreason.imp_right fun ⟨keeper, hkeeper, hkept⟩ => ?_⟩
    obtain ⟨keeper, rfl⟩ := h.exists_keeper hkept
    exact ⟨keeper, hkeeper, (h.mem_keptBy other keeper).1 hkept⟩
  · rintro ⟨alive, hsupports, halive⟩
    refine ⟨fun other => ∃ former, t.keepable former = other ∧ alive former, ?_, _, rfl, halive⟩
    rintro _ ⟨former, rfl, hformer⟩
    obtain ⟨hthere, hreason⟩ := hsupports former hformer
    rw [h.mem_keepables, h.isRoot]
    refine ⟨hthere, hreason.imp_right fun ⟨keeper, hkeeper, hkept⟩ => ?_⟩
    exact ⟨t.keepable keeper, ⟨keeper, rfl, hkeeper⟩, (h.mem_keptBy former keeper).2 hkept⟩

/-! ### What is printed -/

theorem shown? (target : Link) :
    image.shown? (t.link target) = (workspace.shown? target).map (·.translate t) := by
  cases target with
  | rule slot => exact h.patterns slot
  | cell place => exact h.cellContent? place
  | handle | production | reference => rfl

theorem surfaceText (held : List Grammar) (target : Link) :
    image.surfaceText (held.map (·.translate t)) (t.link target)
      = workspace.surfaceText held target := by
  cases target with
  | rule | handle | cell => rfl
  | production module index => simp only [Workspace.surfaceText, link, h.productionName?]
  | reference module index =>
      have halive := h.isAlive held (.module module)
      simp only [Translation.keepable] at halive
      simp only [Workspace.surfaceText, link, h.productionName?, halive]

theorem linkText? (held : List Grammar) (hops : Nat) (target : Link) :
    image.linkText? (held.map (·.translate t)) hops (t.link target)
      = workspace.linkText? held hops target := by
  induction hops generalizing target with
  | zero =>
      rw [Workspace.linkText?_eq, Workspace.linkText?_eq, h.shown?, h.surfaceText]
      cases workspace.shown? target <;> rfl
  | succ hops ih =>
      rw [Workspace.linkText?_eq, Workspace.linkText?_eq, h.shown?, h.surfaceText]
      cases workspace.shown? target with
      | none => rfl
      | some content => exact content.text?_translate t ih

/-- **A translated grammar has the representation of the grammar.** -/
theorem textOf? (held : List Grammar) (grammar : Grammar) :
    image.textOf? (held.map (·.translate t)) (grammar.translate t)
      = workspace.textOf? held grammar := by
  rw [Workspace.textOf?, h.slots_size, h.cells_size, ← Nat.add_assoc, Workspace.textOf?]
  refine grammar.text?_translate t fun target => ?_
  rw [h.linkText?, Workspace.linkText?_add]

end Translation.Carries

end TokenGrammar
