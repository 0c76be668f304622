import Mathlib.Data.List.Perm.Basic
import Mathlib.Logic.Equiv.Basic
import TokenGrammar.Proofs.Definitions

/-!
# Modules in another order

Two modules in which each name has the same definition have the same productions, in different
orders maybe. So each is the other one with its productions renumbered, and a session with the one
goes on in step with a session with the other, whatever is done: whatever is built, kept, parsed,
stored, dropped and printed.
-/

namespace TokenGrammar

/-! ### New orders -/

/-- A new order of what comes after a first thing. -/
def shifted (order : Equiv.Perm Nat) : Equiv.Perm Nat where
  toFun
    | 0 => 0
    | place + 1 => order place + 1
  invFun
    | 0 => 0
    | place + 1 => order.symm place + 1
  left_inv place := by cases place <;> simp
  right_inv place := by cases place <;> simp

/-- Lists of the same things differ in their order, by induction on how they came to it. -/
theorem exists_order {α : Type} {former later : List α} (h : former.Perm later) :
    ∃ order : Equiv.Perm Nat, ∀ place, later[order place]? = former[place]? := by
  induction h with
  | nil => exact ⟨.refl _, fun _ => rfl⟩
  | cons first _ ih =>
      obtain ⟨order, horder⟩ := ih
      refine ⟨shifted order, fun place => ?_⟩
      cases place with
      | zero => rfl
      | succ place => exact horder place
  | swap first second rest =>
      refine ⟨Equiv.swap 0 1, fun place => ?_⟩
      match place with
      | 0 => rw [Equiv.swap_apply_left]; rfl
      | 1 => rw [Equiv.swap_apply_right]; rfl
      | place + 2 => rw [Equiv.swap_apply_of_ne_of_ne (by omega) (by omega)]; rfl
  | trans _ _ ih ih' =>
      obtain ⟨order, horder⟩ := ih
      obtain ⟨order', horder'⟩ := ih'
      exact ⟨order.trans order', fun place => (horder' _).trans (horder place)⟩

/-- Scopes in which the same names are bound to the same hold the same. -/
theorem Scope.IsUnique.perm {α : Type} {scope scope' : Scope α} (h : scope.IsUnique)
    (h' : scope'.IsUnique) (hsame : ∀ name, scope'.find? name = scope.find? name) :
    scope.Perm scope' := by
  refine (List.perm_ext_iff_of_nodup (List.Nodup.of_map _ h) (List.Nodup.of_map _ h')).2 ?_
  intro binding
  rw [h.mem_iff, h'.mem_iff, hsame]

namespace Productions

/-- **Modules in which each name has the same last definition differ in their order.** -/
theorem exists_order {definitions definitions' : List (String × Grammar)}
    (hsame : ∀ name, last? definitions' name = last? definitions name) :
    ∃ order : Equiv.Perm Nat,
      (∀ index, (ofDefinitions definitions')[order index]? = (ofDefinitions definitions)[index]?) ∧
      ∀ name, (ofDefinitions definitions').index? name
        = ((ofDefinitions definitions).index? name).map order := by
  have hunique := isUnique_ofDefinitions definitions
  have hunique' := isUnique_ofDefinitions definitions'
  have hperm := hunique.perm hunique' fun name => by
    rw [find?_ofDefinitions, find?_ofDefinitions, hsame]
  obtain ⟨order, horder⟩ := TokenGrammar.exists_order hperm
  refine ⟨order, horder, fun name => ?_⟩
  cases hindex : (ofDefinitions definitions).index? name with
  | some index =>
      obtain ⟨definition, hproduction, _⟩ := getElem?_of_index? hindex
      exact index?_of_getElem? hunique' ((horder index).trans hproduction)
  | none =>
      rw [Option.map_none, ← Option.not_isSome_iff_eq_none, isSome_index?]
      rw [← Option.not_isSome_iff_eq_none, isSome_index?] at hindex
      exact fun hname => hindex ((hperm.map (·.1)).mem_iff.2 hname)

end Productions

/-! ### Sessions in step -/

/-- The translation that puts the productions of a module in a new order. -/
def Translation.reordering (place : Nat) (order : Equiv.Perm Nat) : Translation where
  index module := if module = place then order else .refl Nat

namespace Translation

variable {place other : Nat} {order : Equiv.Perm Nat}

theorem reordering_index_self : (reordering place order).index place = order := if_pos rfl

theorem reordering_index_of_ne (hne : other ≠ place) :
    (reordering place order).index other = .refl Nat := if_neg hne

end Translation

namespace Workspace

variable {workspace : Workspace}

/-- What is there does not lead to a module that comes next. -/
theorem fixes_reordering (workspace : Workspace) (order : Equiv.Perm Nat) :
    (Translation.reordering workspace.modules.size order).Fixes workspace where
  traces := rfl
  links target htarget := by
    have hindex (place index : Nat) (hsome : (workspace.definition? place index).isSome) :
        (Translation.reordering workspace.modules.size order).index place index = index := by
      obtain ⟨definition, hdefinition⟩ := Option.isSome_iff_exists.1 hsome
      obtain ⟨found, hfound, _⟩ := Option.bind_eq_some_iff.1 hdefinition
      have hlt := (Array.getElem?_eq_some_iff.1 hfound).1
      rw [Translation.reordering_index_of_ne (Nat.ne_of_lt hlt), Equiv.refl_apply]
    cases target with
    | production place index => exact congrArg (Link.production place) (hindex place index htarget)
    | reference place index => exact congrArg (Link.reference place) (hindex place index htarget)
    | rule | handle | cell => rfl

/-- **A module may be added in another order of its productions.** -/
theorem WellLinked.carries_addModule (h : workspace.WellLinked)
    (hunique : workspace.parsers.IsUnique) (hjournal : workspace.journal = {})
    {definitions definitions' : List (String × Grammar)} {order : Equiv.Perm Nat}
    (hdefinitions : definitions.all fun definition => definition.2.all Grammar.isUnlinked)
    (hproductions : ∀ index, (Productions.ofDefinitions definitions')[order index]?
      = (Productions.ofDefinitions definitions)[index]?)
    (hindices : ∀ name, (Productions.ofDefinitions definitions').index? name
      = ((Productions.ofDefinitions definitions).index? name).map order) (cached : Bool) :
    (Translation.reordering workspace.modules.size order).Carries
      (workspace.addModule (.ofDefinitions definitions cached))
      (workspace.addModule (.ofDefinitions definitions' cached)) := by
  have hfixes := workspace.fixes_reordering order
  have hlength (index : Nat) : order index < (Productions.ofDefinitions definitions').length
      ↔ index < (Productions.ofDefinitions definitions).length := by
    rw [← not_iff_not, Nat.not_lt, Nat.not_lt, ← List.getElem?_eq_none_iff, hproductions,
      List.getElem?_eq_none_iff]
  constructor
  case slots_size | cells_size | rules | moduleNames => rfl
  case patterns => exact fun slot => (hfixes.pattern? h slot).symm
  case first_le => exact Nat.zero_le _
  case cells => exact fun place => (hfixes.cell? h place).symm
  case unused => exact fun {place _} _ => ⟨place, rfl⟩
  case modules_size => simp [Workspace.addModule]
  case fresh =>
    intro module hle
    refine Translation.reordering_index_of_ne ?_
    rintro rfl
    rw [Workspace.addModule, Array.size_push] at hle
    omega
  case productions =>
    intro module index
    rw [production?_addModule, production?_addModule]
    by_cases hmodule : module = workspace.modules.size
    · rw [if_pos hmodule, if_pos hmodule, hmodule, Translation.reordering_index_self, hproductions]
      cases hproduction : (Productions.ofDefinitions definitions)[index]? with
      | none => rfl
      | some production =>
          have hunlinked := Productions.all_ofDefinitions (List.all_eq_true.1 hdefinitions)
            production (List.mem_of_getElem? hproduction)
          exact congrArg some
            (Prod.ext rfl (Grammar.translate_of_isUnlinked rfl hunlinked).symm)
    · rw [if_neg hmodule, if_neg hmodule, Translation.reordering_index_of_ne hmodule]
      exact (hfixes.production? h module index).symm
  case indices =>
    intro module label
    rw [productionIndex?_addModule, productionIndex?_addModule]
    by_cases hmodule : module = workspace.modules.size
    · rw [if_pos hmodule, if_pos hmodule, hmodule, Translation.reordering_index_self, hindices]
    · rw [if_neg hmodule, if_neg hmodule, Translation.reordering_index_of_ne hmodule]
      exact (Option.map_id' ..).symm
  case rooms =>
    intro module index
    rw [hasRoom_addModule, hasRoom_addModule]
    by_cases hmodule : module = workspace.modules.size
    · rw [if_pos hmodule, if_pos hmodule, hmodule, Translation.reordering_index_self]
      simp only [hlength]
    · rw [if_neg hmodule, if_neg hmodule, Translation.reordering_index_of_ne hmodule]
      rfl
  case contents =>
    intro module index
    rw [productionContent?_addModule_eq, productionContent?_addModule_eq]
    by_cases hmodule : module = workspace.modules.size
    · rw [if_pos hmodule, if_pos hmodule]
      rfl
    · rw [if_neg hmodule, if_neg hmodule, Translation.reordering_index_of_ne hmodule]
      exact (hfixes.productionContent? h module index).symm
  case parsers => exact (hfixes.parsers h hunique).symm
  case journal =>
    show workspace.journal = Translation.journal _ workspace.journal
    rw [hjournal]
    rfl

end Workspace

namespace Session

variable {session : Session} {definitions definitions' : List (String × Grammar)}

section Reordering

variable (hlinked : session.workspace.WellLinked) (hunique : session.workspace.parsers.IsUnique)
  (hdefinitions : definitions.all fun definition => definition.2.all Grammar.isUnlinked)
  (hsame : ∀ label, Productions.last? definitions' label = Productions.last? definitions label)

include hlinked hunique hdefinitions hsame

/-- **Only the last definition of each name matters**, whatever is done with a module later. -/
theorem responses_define (name : String) (cached : Bool) {later : List Operation}
    (hlater : ∀ operation ∈ later, operation.all Grammar.isUnlinked) :
    (session.perform (.define name definitions' cached)).2.responses later
      = (session.perform (.define name definitions cached)).2.responses later := by
  obtain ⟨order, hproductions, hindices⟩ := Productions.exists_order hsame
  have hcleared : session.cleared.workspace.WellLinked :=
    (hlinked.modifyJournal fun _ => {}).wellLinked
  have hcarries := hcleared.carries_addModule hunique rfl hdefinitions hproductions hindices cached
  have hsessions : (Translation.reordering session.workspace.modules.size order).CarriesSession
      (session.perform (.define name definitions cached)).2
      (session.perform (.define name definitions' cached)).2 := by
    rw [perform_define, perform_define]
    exact ⟨hcarries.withModuleNames _, rfl⟩
  exact hsessions.responses_eq rfl hlater

theorem responses_storeOnly (name production : String) {later : List Operation}
    (hlater : ∀ operation ∈ later, operation.all Grammar.isUnlinked) :
    (session.perform (.storeOnly name definitions' production)).1
        = (session.perform (.storeOnly name definitions production)).1 ∧
      (session.perform (.storeOnly name definitions' production)).2.responses later
        = (session.perform (.storeOnly name definitions production)).2.responses later := by
  obtain ⟨order, hproductions, hindices⟩ := Productions.exists_order hsame
  have hcleared : session.cleared.workspace.WellLinked :=
    (hlinked.modifyJournal fun _ => {}).wellLinked
  have hcarries := hcleared.carries_addModule hunique rfl hdefinitions hproductions hindices false
  suffices h : (session.perform (.storeOnly name definitions' production)).1
        = (session.perform (.storeOnly name definitions production)).1 ∧
      (Translation.reordering session.workspace.modules.size order).CarriesSession
        (session.perform (.storeOnly name definitions production)).2
        (session.perform (.storeOnly name definitions' production)).2 from
    ⟨h.1, h.2.responses_eq rfl hlater⟩
  rw [perform_storeOnly, perform_storeOnly, hindices]
  cases (Productions.ofDefinitions definitions).index? production with
  | none => exact ⟨rfl, hcarries, rfl⟩
  | some index =>
      have hlink : Grammar.translate (.reordering session.workspace.modules.size order)
          (.linked (.production session.workspace.modules.size index))
            = .linked (.production session.workspace.modules.size (order index)) := by
        rw [Grammar.translate, Translation.link, Translation.reordering_index_self]
      have hstored := hcarries.storeParser name
        (.linked (.production session.workspace.modules.size index))
      rw [show session.cleared.workspace.modules = session.workspace.modules from rfl, hlink]
        at hstored
      exact ⟨rfl, hstored, rfl⟩

end Reordering

end Session

end TokenGrammar
