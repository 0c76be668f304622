import Mathlib.Data.List.Induction
import Mathlib.Data.List.Nodup
import TokenGrammar.Proofs.Operations

/-!
# Definitions

A module has one production for each name that was defined, in the order in which the names were
first defined, and its definition is the last one that the name was given. Which productions a
module has never changes, so a production that was there once can be found and stored at any later
time, and no other one.
-/

namespace TokenGrammar

/-! ### Tables -/

theorem Scope.find?_cons {α : Type} (binding : String × α) (scope : Scope α) (name : String) :
    Scope.find? (binding :: scope) name
      = if binding.1 = name then some binding.2 else scope.find? name := by
  by_cases hname : binding.1 = name <;> simp [Scope.find?, hname]

namespace Productions

variable (productions : Productions) (name : String) (definition : Grammar)

theorem names_define : (productions.define name definition).names
    = if name ∈ productions.names then productions.names else productions.names ++ [name] := by
  induction productions with
  | nil => rfl
  | cons production rest ih =>
      by_cases hname : production.1 = name
      · simp [define, names, hname]
      · rw [define, if_neg hname]
        show production.1 :: names (define rest name definition) = _
        rw [ih]
        by_cases hmem : name ∈ names rest <;> simp_all [names, Ne.symm hname]

theorem find?_define (other : String) : Scope.find? (productions.define name definition) other
    = if name = other then some definition else Scope.find? productions other := by
  induction productions with
  | nil => rw [define, Scope.find?_cons]
  | cons production rest ih =>
      rw [define]
      split
      · rename_i hname
        rw [Scope.find?_cons, Scope.find?_cons, hname]
        split <;> rfl
      · rename_i hname
        rw [Scope.find?_cons, Scope.find?_cons, ih]
        by_cases hother : production.1 = other
        · rw [if_pos hother, if_pos hother, if_neg fun h => hname (hother.trans h.symm)]
        · rw [if_neg hother, if_neg hother]

theorem ofDefinitions_append_singleton (definitions : List (String × Grammar))
    (last : String × Grammar) :
    ofDefinitions (definitions ++ [last]) = (ofDefinitions definitions).define last.1 last.2 := by
  simp [ofDefinitions]

/-- **A module has the names that were defined, each once**, in the order of their first
definitions. -/
theorem names_ofDefinitions (definitions : List (String × Grammar)) :
    (ofDefinitions definitions).names = (definitions.map Prod.fst).eraseDups := by
  induction definitions using List.reverseRecOn with
  | nil => rfl
  | append_singleton definitions last ih =>
      rw [ofDefinitions_append_singleton, names_define, ih, List.map_append,
        List.eraseDups_append]
      by_cases hname : last.1 ∈ definitions.map Prod.fst
      · simp [List.removeAll, List.mem_eraseDups, hname]
      · simp [List.removeAll, List.mem_eraseDups, hname, List.eraseDups_cons]

def last? (definitions : List (String × Grammar)) (name : String) : Option Grammar :=
  Scope.find? definitions.reverse name

/-- **The definition of a name is the last one that it was given.** -/
theorem find?_ofDefinitions (definitions : List (String × Grammar)) :
    Scope.find? (ofDefinitions definitions) name = last? definitions name := by
  induction definitions using List.reverseRecOn with
  | nil => rfl
  | append_singleton definitions last ih =>
      rw [ofDefinitions_append_singleton, find?_define, ih, last?, last?, List.reverse_append]
      exact (Scope.find?_cons last definitions.reverse name).symm

theorem isUnique_ofDefinitions (definitions : List (String × Grammar)) :
    Scope.IsUnique (ofDefinitions definitions) := by
  show (names (ofDefinitions definitions)).Nodup
  induction definitions using List.reverseRecOn with
  | nil => exact List.nodup_nil
  | append_singleton definitions last ih =>
      rw [ofDefinitions_append_singleton, names_define]
      split
      · exact ih
      · rename_i hname
        rwa [List.nodup_append_comm, List.singleton_append, List.nodup_cons, and_iff_right hname]

theorem getElem?_of_index? {productions : Productions} {name : String} {index : Nat}
    (h : productions.index? name = some index) :
    ∃ definition, productions[index]? = some (name, definition) ∧
      Scope.find? productions name = some definition := by
  induction productions generalizing index with
  | nil => cases h
  | cons production rest ih =>
      rw [index?, List.findIdx?_cons] at h
      by_cases hname : production.1 = name
      · subst hname
        rw [beq_self_eq_true] at h
        cases h
        exact ⟨production.2, rfl, by rw [Scope.find?_cons, if_pos rfl]⟩
      · rw [beq_eq_false_iff_ne.2 hname] at h
        obtain ⟨index, hindex, rfl⟩ := Option.map_eq_some_iff.1 h
        obtain ⟨definition, hproduction, hfound⟩ := ih hindex
        exact ⟨definition, hproduction, by rwa [Scope.find?_cons, if_neg hname]⟩

theorem isSome_index? {productions : Productions} {name : String} :
    (productions.index? name).isSome ↔ name ∈ productions.names := by
  simp [index?, names, List.findIdx?_isSome]

theorem index?_of_getElem? {productions : Productions} (h : Scope.IsUnique productions)
    {index : Nat} {production : String × Grammar}
    (hproduction : productions[index]? = some production) :
    productions.index? production.1 = some index := by
  have hname : production.1 ∈ productions.names :=
    List.mem_map_of_mem (List.mem_of_getElem? hproduction)
  obtain ⟨found, hfound⟩ := Option.isSome_iff_exists.1 (isSome_index?.2 hname)
  obtain ⟨definition, hsame, _⟩ := getElem?_of_index? hfound
  have hnames (i : Nat) : productions.names[i]? = productions[i]?.map (·.1) := List.getElem?_map
  have heq : productions.names[found]? = productions.names[index]? := by
    rw [hnames, hnames, hsame, hproduction]
    rfl
  have hlt : found < productions.names.length := by
    have hlt := (List.getElem?_eq_some_iff.1 hsame).1
    rwa [names, List.length_map]
  rw [hfound, (List.getElem?_inj hlt h).1 heq]

theorem define_of_index?_eq_none {productions : Productions} {name : String}
    (h : productions.index? name = none) (definition : Grammar) :
    productions.define name definition = productions ++ [(name, definition)] := by
  induction productions with
  | nil => rfl
  | cons production rest ih =>
      rw [index?, List.findIdx?_cons] at h
      split at h
      · cases h
      · rename_i hne
        rw [define, if_neg fun heq => hne (beq_iff_eq.2 heq), ih (Option.map_eq_none_iff.1 h),
          List.cons_append]

theorem define_of_index?_eq_some {productions : Productions} {name : String} {index : Nat}
    (h : productions.index? name = some index) (definition : Grammar) :
    index < productions.length ∧
      productions.define name definition = productions.set index (name, definition) := by
  induction productions generalizing index with
  | nil => cases h
  | cons production rest ih =>
      rw [index?, List.findIdx?_cons] at h
      split at h
      · rename_i heq
        cases h
        exact ⟨Nat.zero_lt_succ _, by rw [define, if_pos (beq_iff_eq.1 heq), List.set_cons_zero]⟩
      · rename_i hne
        obtain ⟨index, hindex, rfl⟩ := Option.map_eq_some_iff.1 h
        obtain ⟨hlt, hdefine⟩ := ih hindex
        refine ⟨Nat.succ_lt_succ hlt, ?_⟩
        rw [define, if_neg fun heq => hne (beq_iff_eq.2 heq), hdefine, List.set_cons_succ]

/-- A production stays where it is, and a new one stands behind all others. -/
theorem index?_define (other : String) : (productions.define name definition).index? other
    = (productions.index? other).or (if name = other then some productions.length else none) := by
  induction productions with
  | nil => simp [define, index?, List.findIdx?_cons]
  | cons production rest ih =>
      rw [index?] at ih ⊢
      rw [define]
      split
      · rename_i heq
        by_cases hother : name = other <;> simp [index?, List.findIdx?_cons, heq, hother]
      · by_cases hproduction : production.1 = other
        · simp [index?, List.findIdx?_cons, hproduction]
        · rw [List.findIdx?_cons, ih]
          by_cases hother : name = other <;>
            simp [index?, List.findIdx?_cons, hproduction, hother]

end Productions

/-! ### Tables by place -/

/-- The productions of a module in three tables: their names and their definitions, in the order in
which the names came up, and the place of each name in these. -/
structure Tables where
  names : List String := []
  place? : String → Option Nat := fun _ => none
  definitions : List Grammar := []

namespace Tables

/-- Puts a definition at the place of its name, if that is in range, or behind all others. -/
def define? (tables : Tables) (name : String) (definition : Grammar) : Option Tables :=
  match tables.place? name with
  | some place =>
      if place < tables.definitions.length then
        some { tables with definitions := tables.definitions.set place definition }
      else none
  | none => some
      { names := tables.names ++ [name]
        place? := fun other =>
          if name = other then some tables.definitions.length else tables.place? other
        definitions := tables.definitions ++ [definition] }

def ofDefinitions? (definitions : List (String × Grammar)) : Option Tables :=
  definitions.foldlM (fun tables (name, definition) => tables.define? name definition) {}

/-- That tables hold the productions of a module. -/
structure Hold (tables : Tables) (productions : Productions) : Prop where
  names : tables.names = productions.names
  place? : ∀ name, tables.place? name = productions.index? name
  definitions : tables.definitions = productions.map Prod.snd

theorem Hold.define? {tables : Tables} {productions : Productions} (h : tables.Hold productions)
    (name : String) (definition : Grammar) : ∃ later, tables.define? name definition = some later ∧
      later.Hold (productions.define name definition) := by
  have hplace := h.place? name
  have hmem : name ∈ productions.names ↔ (productions.index? name).isSome :=
    Productions.isSome_index?.symm
  have hlength : tables.definitions.length = productions.length := by
    rw [h.definitions, List.length_map]
  unfold Tables.define?
  cases hindex : productions.index? name with
  | none =>
      -- a new name, whose place is the one behind all others
      rw [hindex] at hplace hmem
      rw [hplace]
      refine ⟨_, rfl, ?_, fun other => ?_, ?_⟩
      · rw [Productions.names_define, if_neg (by simp [hmem]), ← h.names]
      · rw [Productions.index?_define, ← h.place? other, hlength]
        by_cases hother : name = other
        · simp [← hother, hplace]
        · simp [hother]
      · rw [Productions.define_of_index?_eq_none hindex, List.map_append, ← h.definitions]
        rfl
  | some index =>
      -- the name keeps its place, which is in range
      obtain ⟨hlt, hdefine⟩ := Productions.define_of_index?_eq_some hindex definition
      rw [hindex] at hplace hmem
      rw [hplace]
      dsimp only
      rw [if_pos (hlength ▸ hlt)]
      refine ⟨_, rfl, ?_, fun other => ?_, ?_⟩
      · rw [Productions.names_define, if_pos (hmem.2 rfl), ← h.names]
      · rw [Productions.index?_define, ← h.place? other]
        by_cases hother : name = other
        · simp [← hother, hplace]
        · simp [hother]
      · rw [hdefine, List.map_set, ← h.definitions]

/-- **Keeping productions in three tables comes to the same**: no place is ever out of range, and
the tables hold the productions that are kept by name. -/
theorem hold_ofDefinitions? (definitions : List (String × Grammar)) :
    ∃ tables, ofDefinitions? definitions = some tables ∧
      tables.Hold (.ofDefinitions definitions) := by
  induction definitions using List.reverseRecOn with
  | nil => exact ⟨{}, rfl, rfl, fun _ => rfl, rfl⟩
  | append_singleton definitions last ih =>
      obtain ⟨tables, htables, hhold⟩ := ih
      obtain ⟨later, hlater, hhold⟩ := hhold.define? last.1 last.2
      refine ⟨later, ?_, ?_⟩
      · rw [ofDefinitions?] at htables ⊢
        rw [List.foldlM_append, htables]
        simp [hlater]
      · rwa [Productions.ofDefinitions_append_singleton]

end Tables

/-! ### Commands about modules -/

namespace Session

variable (session : Session)

theorem perform_define (name : String) (definitions : List (String × Grammar)) (cached : Bool) :
    session.perform (.define name definitions cached)
      = (.ok (.names (Productions.ofDefinitions definitions).names), { session with
          workspace := { session.workspace.clearJournal.addModule
              (.ofDefinitions definitions cached) with
            moduleNames := session.workspace.moduleNames.assign name
              session.workspace.modules.size } }) := rfl

theorem perform_has (module production : String) :
    session.perform (.has module production)
      = match session.workspace.moduleNames.find? module with
        | none => (.error (.fault (.unbound (.production module production))), session.cleared)
        | some place =>
            (.ok (.verdict (session.workspace.productionIndex? place production).isSome),
              session.cleared) := by
  have hattempt := session.attempt_moduleOf_bind module production fun place => do
    return Reply.verdict ((← Step.workspace).productionIndex? place production).isSome
  refine hattempt.trans ?_
  cases session.workspace.moduleNames.find? module <;> rfl

theorem storeProductionOf_eq (place : Nat) (production name : String) :
    Step.storeProductionOf place production name session
      = match session.workspace.productionIndex? place production with
        | none => .error (.unknownProduction production) session
        | some index => .ok .done { session with
            workspace := session.workspace.storeParser name
              (.linked (.production place index)) } := by
  show (match session.workspace.productionIndex? place production with
    | none => throw (.unknownProduction production)
    | some index => Step.modifyWorkspace (·.storeParser name (.linked (.production place index)))
        >>= fun _ => pure Reply.done : Step Reply) session = _
  cases session.workspace.productionIndex? place production <;> rfl

theorem perform_storeProduction (name module production : String) :
    session.perform (.storeProduction name module production)
      = match session.workspace.moduleNames.find? module with
        | none => (.error (.fault (.unbound (.production module production))), session.cleared)
        | some place => match session.workspace.productionIndex? place production with
          | none => (.error (.unknownProduction production), session.cleared)
          | some index => (.ok .done, { session with
              workspace := session.workspace.clearJournal.storeParser name
                (.linked (.production place index)) }) := by
  have hattempt := session.attempt_moduleOf_bind module production fun place =>
    Step.storeProductionOf place production name
  refine hattempt.trans ?_
  cases session.workspace.moduleNames.find? module with
  | none => rfl
  | some place =>
      have hstep := storeProductionOf_eq session.cleared place production name
      rw [show session.cleared.workspace.productionIndex? = session.workspace.productionIndex?
        from rfl] at hstep
      dsimp only
      cases hindex : session.workspace.productionIndex? place production with
      | none =>
          rw [hindex] at hstep
          exact attempt_of_error hstep
      | some index =>
          rw [hindex] at hstep
          exact attempt_of_ok hstep

theorem perform_storeOnly (name : String) (definitions : List (String × Grammar))
    (production : String) :
    session.perform (.storeOnly name definitions production)
      = match (Productions.ofDefinitions definitions).index? production with
        | none => (.error (.unknownProduction production), { session with
            workspace := session.workspace.clearJournal.addModule
              (.ofDefinitions definitions false) })
        | some index => (.ok .done, { session with
            workspace := (session.workspace.clearJournal.addModule
              (.ofDefinitions definitions false)).storeParser name
                (.linked (.production session.workspace.modules.size index)) }) := by
  have hstep := storeProductionOf_eq { session with
    workspace := session.workspace.clearJournal.addModule (.ofDefinitions definitions false) }
    session.workspace.modules.size production name
  have hindex : (session.workspace.clearJournal.addModule
      (.ofDefinitions definitions false)).productionIndex? session.workspace.modules.size production
        = (Productions.ofDefinitions definitions).index? production := by
    rw [Workspace.productionIndex?_addModule]
    exact if_pos rfl
  dsimp only at hstep
  rw [hindex] at hstep
  cases hfound : (Productions.ofDefinitions definitions).index? production with
  | none =>
      rw [hfound] at hstep
      exact attempt_of_error hstep
  | some index =>
      rw [hfound] at hstep
      exact attempt_of_ok hstep

end Session

/-! ### Modules stay what they are -/

theorem Workspace.invariant_productions (place : Nat) (productions : Productions) :
    CommandInvariant fun workspace => workspace.productions? place = some productions where
  openCell _ h := h
  storeParser _ _ h := h
  fillCell _ _ h := h
  fillProduction module index built h _ := by rwa [productions?_fillProduction]
  modifyJournal _ h := h
  openRule _ h := h
  dropRule _ h := h
  dropParser _ h := h
  addModule {workspace} definitions cached h := by
    obtain ⟨found, hfound, _⟩ := Option.map_eq_some_iff.1 h
    have hlt := (Array.getElem?_eq_some_iff.1 hfound).1
    rw [productions?_addModule, if_neg (Nat.ne_of_lt hlt)]
    exact h
  nameModule _ _ h := h
  dropModule _ h := h

/-- **A module has the same productions for ever.** -/
theorem Session.productions?_operated {session : Session} {place : Nat} {productions : Productions}
    (h : session.workspace.productions? place = some productions) (operations : List Operation) :
    (session.operated operations).workspace.productions? place = some productions :=
  (Workspace.invariant_productions place productions).operated (fun _ h => h) (fun _ _ h => h) h
    operations

/-! ### What is kept for productions -/

namespace Workspace

/-- Whether a grammar can have been built from the definition of a production, at a time when its
module had the productions that it has now. -/
def Builds (workspace : Workspace) (place index : Nat) (built : Grammar) : Prop :=
  ∃ definition before after, workspace.definition? place index = some definition ∧
    before.productions? place = workspace.productions? place ∧
    definition.link (some place) before = .ok built after

theorem Builds.congr {workspace later : Workspace} {place index : Nat} {built : Grammar}
    (h : workspace.Builds place index built)
    (hproductions : later.productions? place = workspace.productions? place) :
    later.Builds place index built := by
  obtain ⟨definition, before, after, hdefinition, hbefore, hlink⟩ := h
  refine ⟨definition, before, after, ?_, hbefore.trans hproductions.symm, hlink⟩
  rwa [definition?_eq, hproductions, ← definition?_eq]

def KeepsBuilt (workspace : Workspace) : Prop :=
  ∀ place index built, workspace.productionContent? place index = some built →
    workspace.Builds place index built

theorem keepsBuilt_empty : KeepsBuilt {} := fun place index built hcontent => by
  simp [productionContent?] at hcontent

theorem invariant_keepsBuilt : CommandInvariant KeepsBuilt where
  openCell _ h := h
  storeParser _ _ h := h
  fillCell _ _ h := h
  modifyJournal _ h := h
  openRule _ h := h
  dropRule _ h := h
  dropParser _ h := h
  nameModule _ _ h := h
  dropModule _ h := h
  fillProduction {workspace} module index built h hbuilt place index' content hcontent := by
    suffices workspace.Builds place index' content from
      this.congr (workspace.productions?_fillProduction module index built place)
    rw [productionContent?_fillProduction] at hcontent
    split at hcontent
    · rename_i hsame
      obtain ⟨⟨rfl, rfl⟩, _⟩ := hsame
      cases hcontent
      obtain ⟨definition, before, hdefinition, hmodules, hlink⟩ := hbuilt
      exact ⟨definition, before, workspace, hdefinition, by rw [productions?, hmodules]; rfl, hlink⟩
    · exact h place index' content hcontent
  addModule {workspace} definitions cached h place index content hcontent := by
    rw [workspace.productionContent?_addModule_eq] at hcontent
    split at hcontent
    · cases hcontent
    · rename_i hplace
      refine (h place index content hcontent).congr ?_
      rw [workspace.productions?_addModule, if_neg hplace]

end Workspace

/-- **Whatever is kept for a production was built from its definition.** -/
theorem Session.keepsBuilt_operated {session : Session} (h : session.workspace.KeepsBuilt)
    (operations : List Operation) : (session.operated operations).workspace.KeepsBuilt :=
  Workspace.invariant_keepsBuilt.operated (fun _ h => h) (fun _ _ h => h) h operations

end TokenGrammar
