import TokenGrammar.Proofs.Caching.Setup
import TokenGrammar.Proofs.Renaming.Workspaces

/-!
# Changes on both sides

Whatever is changed in a workspace, and in its image in the translated way, leaves the one to be
carried over to the other.
-/

namespace TokenGrammar

/-! ### Definitions -/

namespace Translation

variable (t : Translation)

theorem define_map (productions : Productions) (name : String) (definition : Grammar) :
    Productions.define (productions.map t.production) name (definition.translate t)
      = (productions.define name definition).map t.production := by
  induction productions with
  | nil => rfl
  | cons earlier rest ih =>
      obtain ⟨other, before⟩ := earlier
      rw [List.map_cons, Translation.production, Productions.define, Productions.define]
      split
      · rfl
      · rw [ih]
        rfl

theorem ofDefinitions_map (definitions : List (String × Grammar)) :
    Productions.ofDefinitions (definitions.map t.production)
      = (Productions.ofDefinitions definitions).map t.production := by
  unfold Productions.ofDefinitions
  rw [List.foldl_map]
  show List.foldl _ (List.map t.production []) definitions = _
  refine List.foldl_hom (List.map t.production) fun productions definition => ?_
  exact t.define_map productions definition.1 definition.2

end Translation

namespace Workspace

variable (workspace : Workspace)

theorem pattern?_openRule (name : String) (slot : Nat) :
    (workspace.openRule name).pattern? slot = workspace.pattern? slot := by
  simp only [pattern?, openRule, Array.getElem?_push]
  split
  · rename_i hslot
    simp [hslot]
  · rfl

theorem production?_addModule (definitions : List (String × Grammar)) (cached : Bool)
    (place index : Nat) :
    (workspace.addModule (.ofDefinitions definitions cached)).production? place index
      = if place = workspace.modules.size then (Productions.ofDefinitions definitions)[index]?
        else workspace.production? place index := by
  rw [production?, productions?_addModule]
  split <;> rfl

theorem productionIndex?_addModule (definitions : List (String × Grammar)) (cached : Bool)
    (place : Nat) (label : String) :
    (workspace.addModule (.ofDefinitions definitions cached)).productionIndex? place label
      = if place = workspace.modules.size then (Productions.ofDefinitions definitions).index? label
        else workspace.productionIndex? place label := by
  rw [productionIndex?_eq, productions?_addModule]
  split
  · rfl
  · rw [← productionIndex?_eq]

theorem hasRoom_addModule (definitions : List (String × Grammar)) (cached : Bool)
    (place index : Nat) :
    (workspace.addModule (.ofDefinitions definitions cached)).hasRoom place index
      = if place = workspace.modules.size then
          cached && decide (index < (Productions.ofDefinitions definitions).length)
        else workspace.hasRoom place index := by
  rw [hasRoom, cacheSize?_addModule]
  split
  · cases cached <;> rfl
  · rfl

theorem productionContent?_addModule_eq (definitions : List (String × Grammar)) (cached : Bool)
    (place index : Nat) :
    (workspace.addModule (.ofDefinitions definitions cached)).productionContent? place index
      = if place = workspace.modules.size then none
        else workspace.productionContent? place index := by
  rw [productionContent?, getElem?_addModule]
  split
  · exact Module.built?_ofDefinitions definitions cached index
  · rfl

end Workspace

namespace Translation.Carries

variable {t : Translation} {workspace image : Workspace}

/-! ### What runs change -/

theorem openCell (h : t.Carries workspace image) (body : Grammar) :
    t.Carries (workspace.openCell body) (image.openCell (body.translate t)) :=
  { h with
    first_le := Nat.le_trans h.first_le (by simp [Workspace.openCell])
    cells_size := by simp [Workspace.openCell, h.cells_size, Nat.add_right_comm]
    cells := by
      intro place
      have hlast : t.cell place = image.cells.size ↔ place = workspace.cells.size := by
        rw [h.cells_size, ← t.cell_of_le _ h.first_le, t.cell_injective.eq_iff]
      simp only [Workspace.openCell, Array.getElem?_push, hlast, h.cells]
      split <;> rfl
    unused := by
      intro place built hbuilt
      rw [Workspace.cellContent?_openCell] at hbuilt
      exact h.unused hbuilt }

theorem fillCell (h : t.Carries workspace image) (place : Nat) (built : Grammar) :
    t.Carries (workspace.fillCell place built)
      (image.fillCell (t.cell place) (built.translate t)) :=
  { h with
    first_le := by simpa [Workspace.fillCell] using h.first_le
    cells_size := by simpa [Workspace.fillCell] using h.cells_size
    cells := by
      intro other
      simp only [Workspace.fillCell, Array.getElem?_modify, t.cell_injective.eq_iff, h.cells]
      split
      · cases workspace.cells[other]? <;> rfl
      · rfl
    unused := by
      intro other content hcontent
      by_cases hother : t.cell place = other
      · exact ⟨place, hother⟩
      · rw [Workspace.cellContent?_fillCell_of_ne _ _ hother] at hcontent
        exact h.unused hcontent }

theorem fillProduction (h : t.Carries workspace image) (module index : Nat) (built : Grammar) :
    t.Carries (workspace.fillProduction module index built)
      (image.fillProduction module (t.index module index) (built.translate t)) :=
  { h with
    modules_size := by simpa [Workspace.fillProduction] using h.modules_size
    fresh := by simpa [Workspace.fillProduction] using h.fresh
    productions := by
      intro module' index'
      rw [Workspace.production?_fillProduction, h.productions, Workspace.production?_fillProduction]
    indices := by
      intro module' label
      rw [Workspace.productionIndex?_fillProduction, h.indices,
        Workspace.productionIndex?_fillProduction]
    rooms := by
      intro module' index'
      rw [Workspace.hasRoom_fillProduction, h.rooms, Workspace.hasRoom_fillProduction]
    contents := by
      intro module' index'
      have hsame : (module = module' ∧ t.index module index = t.index module' index')
          ↔ module = module' ∧ index = index' := by
        refine and_congr_right fun hmodule => ?_
        rw [← hmodule, (t.index module).injective.eq_iff]
      simp only [Workspace.productionContent?_fillProduction, hsame, h.rooms, h.contents]
      split <;> rfl }

theorem storeParser (h : t.Carries workspace image) (label : String) (built : Grammar) :
    t.Carries (workspace.storeParser label built)
      (image.storeParser label (built.translate t)) :=
  { h with
    parsers := by
      simp only [Workspace.storeParser, Scope.assign, Scope.remove, h.parsers, List.map_cons,
        List.filter_map, Function.comp_def]
      rfl }

theorem modifyJournal (h : t.Carries workspace image) {change change' : Journal → Journal}
    (hchange : change' (t.journal workspace.journal) = t.journal (change workspace.journal)) :
    t.Carries (workspace.modifyJournal change) (image.modifyJournal change') :=
  { h with
    journal := by
      rw [Workspace.modifyJournal, h.journal]
      exact hchange }

theorem clearJournal (h : t.Carries workspace image) :
    t.Carries workspace.clearJournal image.clearJournal :=
  { h with journal := by simp [Workspace.clearJournal, Translation.journal] }

/-! ### What commands change -/

theorem openRule (h : t.Carries workspace image) (name : String) :
    t.Carries (workspace.openRule name) (image.openRule name) :=
  { h with
    slots_size := by simp [Workspace.openRule, h.slots_size]
    patterns := by
      intro slot
      rw [Workspace.pattern?_openRule, h.patterns, Workspace.pattern?_openRule]
    rules := by simp only [Workspace.openRule, h.rules, h.slots_size] }

theorem fillSlot (h : t.Carries workspace image) (slot : Nat) (pattern : Grammar) :
    t.Carries (workspace.fillSlot slot pattern) (image.fillSlot slot (pattern.translate t)) :=
  { h with
    slots_size := by simpa [Workspace.fillSlot] using h.slots_size
    patterns := by
      intro other
      by_cases hother : slot = other
      · subst hother
        simp only [Workspace.pattern?, Workspace.fillSlot, Array.getElem?_setIfInBounds_self,
          h.slots_size]
        split <;> rfl
      · rw [Workspace.pattern?_fillSlot_of_ne _ _ hother, h.patterns,
          Workspace.pattern?_fillSlot_of_ne _ _ hother] }

theorem withRules (h : t.Carries workspace image) (rules : Scope Nat) :
    t.Carries { workspace with rules } { image with rules } :=
  { h with rules := rfl }

theorem withModuleNames (h : t.Carries workspace image) (moduleNames : Scope Nat) :
    t.Carries { workspace with moduleNames } { image with moduleNames } :=
  { h with moduleNames := rfl }

theorem dropParser (h : t.Carries workspace image) (label : String) :
    t.Carries { workspace with parsers := workspace.parsers.remove label }
      { image with parsers := image.parsers.remove label } :=
  { h with
    parsers := by
      simp only [Scope.remove, h.parsers, List.filter_map, Function.comp_def]
      rfl }

theorem addModule (h : t.Carries workspace image) (definitions : List (String × Grammar))
    (cached : Bool) :
    t.Carries (workspace.addModule (.ofDefinitions definitions cached))
      (image.addModule (.ofDefinitions (definitions.map t.production) cached)) := by
  have hnew : t.index workspace.modules.size = Equiv.refl Nat := h.fresh _ (Nat.le_refl _)
  refine
    { h with
      modules_size := ?_
      fresh := ?_
      productions := ?_
      indices := ?_
      rooms := ?_
      contents := ?_ }
  · simp [Workspace.addModule, h.modules_size]
  · intro module hle
    refine h.fresh module (Nat.le_trans ?_ hle)
    simp [Workspace.addModule]
  · intro module index
    rw [Workspace.production?_addModule, Workspace.production?_addModule, h.modules_size]
    split
    · rename_i hmodule
      rw [hmodule, hnew, t.ofDefinitions_map]
      exact List.getElem?_map
    · exact h.productions module index
  · intro module label
    rw [Workspace.productionIndex?_addModule, Workspace.productionIndex?_addModule, h.modules_size]
    split
    · rename_i hmodule
      rw [hmodule, hnew, t.ofDefinitions_map, Productions.index?, List.findIdx?_map]
      exact (Option.map_id' ..).symm
    · exact h.indices module label
  · intro module index
    rw [Workspace.hasRoom_addModule, Workspace.hasRoom_addModule, h.modules_size]
    split
    · rename_i hmodule
      rw [hmodule, hnew, t.ofDefinitions_map, List.length_map]
      rfl
    · exact h.rooms module index
  · intro module index
    rw [Workspace.productionContent?_addModule_eq,
      Workspace.productionContent?_addModule_eq, h.modules_size]
    split
    · rfl
    · exact h.contents module index

end Translation.Carries

end TokenGrammar
