import TokenGrammar.Proofs.Renaming.Workspaces

/-!
# What a translation leaves as it is

A translation may be needed for the sake of places to which nothing links yet. Then nothing that a
workspace holds is changed by it, as long as all links in there lead somewhere. For what is stored
under names this takes that each name is bound once.
-/

namespace TokenGrammar

/-! ### Names stand once -/

def Scope.IsUnique {α : Type} (scope : Scope α) : Prop := (scope.map (·.1)).Nodup

namespace Scope

variable {α : Type} {scope : Scope α}

theorem IsUnique.remove (h : scope.IsUnique) (name : String) : (scope.remove name).IsUnique :=
  h.sublist (List.filter_sublist.map _)

theorem IsUnique.assign (h : scope.IsUnique) (name : String) (value : α) :
    (scope.assign name value).IsUnique := by
  refine List.nodup_cons.2 ⟨?_, h.remove name⟩
  rw [List.mem_map]
  rintro ⟨binding, hmem, hname⟩
  have hother := (List.mem_filter.1 hmem).2
  simp [hname] at hother

theorem IsUnique.find? (h : scope.IsUnique) {binding : String × α} (hmem : binding ∈ scope) :
    scope.find? binding.1 = some binding.2 := by
  induction scope with
  | nil => cases hmem
  | cons first rest ih =>
      obtain ⟨hfirst, hrest⟩ := List.nodup_cons.1 h
      obtain rfl | hmem := List.mem_cons.1 hmem
      · simp [Scope.find?]
      · have hne : first.1 ≠ binding.1 := by
          rintro hsame
          exact hfirst (List.mem_map.2 ⟨binding, hmem, hsame.symm⟩)
        simpa [Scope.find?, hne] using ih hrest hmem

theorem IsUnique.mem_iff (h : scope.IsUnique) {binding : String × α} :
    binding ∈ scope ↔ scope.find? binding.1 = some binding.2 := by
  refine ⟨h.find?, fun hfound => ?_⟩
  obtain ⟨found, hfind, hvalue⟩ := Option.map_eq_some_iff.1 hfound
  have hname : found.1 = binding.1 := by simpa using List.find?_some hfind
  rw [← show found = binding from Prod.ext hname hvalue]
  exact List.mem_of_find?_eq_some hfind

end Scope

/-! ### Links that stay -/

structure Translation.Fixes (t : Translation) (workspace : Workspace) : Prop where
  traces : t.traces
  links : ∀ target, workspace.hasTarget target → t.link target = target

namespace Translation.Fixes

variable {t : Translation} {workspace : Workspace} (h : t.Fixes workspace)

include h

theorem translate {grammar : Grammar} (hcovers : workspace.Covers grammar) :
    grammar.translate t = grammar := by
  refine grammar.translate_eq_self t h.traces (grammar.all_imp (fun occurring hleads => ?_) hcovers)
  cases occurring with
  | linked target => exact decide_eq_true (h.links target hleads)
  | _ => rfl

theorem map_translate {grammar? : Option Grammar}
    (hcovers : ∀ grammar, grammar? = some grammar → workspace.Covers grammar) :
    grammar?.map (·.translate t) = grammar? := by
  cases grammar? with
  | none => rfl
  | some grammar => exact congrArg some (h.translate (hcovers grammar rfl))

variable (hlinked : workspace.WellLinked)

include hlinked

theorem pattern? (slot : Nat) :
    (workspace.pattern? slot).map (·.translate t) = workspace.pattern? slot :=
  h.map_translate fun _ hpattern => (hlinked.patterns hpattern).leads

theorem productionContent? (place index : Nat) :
    (workspace.productionContent? place index).map (·.translate t)
      = workspace.productionContent? place index :=
  h.map_translate fun _ hcontent => (hlinked.contents hcontent).leads

theorem cell? (place : Nat) :
    workspace.cells[place]?.map (Cell.mapGrammars (·.translate t)) = workspace.cells[place]? := by
  cases hcell : workspace.cells[place]? with
  | none => rfl
  | some cell =>
      have hbuilt (built : Grammar) (hsome : cell.built? = some built) : workspace.Covers built :=
        (hlinked.cells (show workspace.cellContent? place = some built by
          rw [Workspace.cellContent?, hcell]; exact hsome)).leads
      rw [Option.map_some, Cell.mapGrammars, h.translate (hlinked.bodies hcell),
        h.map_translate hbuilt]

theorem production? (place index : Nat) :
    (workspace.production? place index).map t.production = workspace.production? place index := by
  cases hproduction : workspace.production? place index with
  | none => rfl
  | some production =>
      have hdefinition : workspace.definition? place index = some production.2 := by
        rw [Workspace.definition?_eq_production?, hproduction]
        rfl
      exact congrArg some (Prod.ext rfl (h.translate (hlinked.definitions hdefinition)))

theorem parsers (hunique : workspace.parsers.IsUnique) :
    workspace.parsers.map t.production = workspace.parsers := by
  refine (List.map_congr_left fun binding hmem => ?_).trans (List.map_id _)
  have hcovers := (hlinked.parsers (hunique.find? hmem)).leads
  exact Prod.ext rfl (h.translate hcovers)

end Translation.Fixes

end TokenGrammar
