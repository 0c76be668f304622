import TokenGrammar.Proofs.Lifetimes.Courses
import TokenGrammar.Proofs.Operations
import TokenGrammar.Proofs.Parses

/-!
# Lifetimes from operation to operation

Between parses, operations bind names, fill rules and add modules. Names are bound to what is new,
to what has a name already, or to what was just built; rules are filled with what was just built,
and modules begin with nothing in their caches. So operations bring nothing back to life either.
-/

namespace TokenGrammar

/-! ### Changes -/

namespace Moment

variable {held held' : List Grammar} {before : Workspace}

theorem leads_of_names {rules moduleNames : Scope Nat} {parsers : Scope Grammar}
    (hheld : ∀ grammar ∈ held', ∀ keepable ∈ grammar.keeps, before.isAlive held keepable)
    (hrules : ∀ binding ∈ rules, before.isAlive held (.slot binding.2))
    (hmodules : ∀ binding ∈ moduleNames, before.isAlive held (.module binding.2))
    (hparsers : ∀ binding ∈ parsers, ∀ keepable ∈ binding.2.keeps, before.isAlive held keepable) :
    (⟨held, before⟩ : Moment).Leads ⟨held', { before with rules, moduleNames, parsers }⟩ where
  there _ h := h
  lasts keeper _ h := by cases keeper <;> exact h
  roots keepable _ hroot := by
    obtain ⟨grammar, hmem, hkept⟩ | hname := Workspace.isRoot_iff.1 hroot
    · exact hheld grammar hmem keepable hkept
    · obtain ⟨binding, hbinding, rfl⟩ | ⟨binding, hbinding, rfl⟩ | ⟨binding, hbinding, hkept⟩ :=
        Workspace.isKeptByName_iff.1 hname
      · exact hrules binding hbinding
      · exact hmodules binding hbinding
      · exact hparsers binding hbinding keepable hkept
  kept _ _ keeper h := by cases keeper <;> exact .inl h

variable (held before)

theorem isAlive_of_held {grammar : Grammar} (hgrammar : grammar ∈ held) :
    ∀ keepable ∈ grammar.keeps, before.isAlive held keepable := fun _ hkept =>
  Workspace.isAlive_of_mem hgrammar hkept

theorem isAlive_of_rule {binding : String × Nat} (hbinding : binding ∈ before.rules) :
    before.isAlive held (.slot binding.2) :=
  Workspace.isAlive_of_isKeptByName (Workspace.isKeptByName_iff.2 (.inl ⟨binding, hbinding, rfl⟩))

theorem isAlive_of_moduleName {binding : String × Nat} (hbinding : binding ∈ before.moduleNames) :
    before.isAlive held (.module binding.2) :=
  Workspace.isAlive_of_isKeptByName
    (Workspace.isKeptByName_iff.2 (.inr (.inl ⟨binding, hbinding, rfl⟩)))

theorem isAlive_of_stored {binding : String × Grammar} (hbinding : binding ∈ before.parsers) :
    ∀ keepable ∈ binding.2.keeps, before.isAlive held keepable := fun _ hkept =>
  Workspace.isAlive_of_isKeptByName
    (Workspace.isKeptByName_iff.2 (.inr (.inr ⟨binding, hbinding, hkept⟩)))

variable {held before}

theorem leads_of_rules {rules : Scope Nat}
    (hrules : ∀ binding ∈ rules, before.isAlive held (.slot binding.2)) :
    (⟨held, before⟩ : Moment).Leads ⟨held, { before with rules }⟩ :=
  leads_of_names (fun _ => isAlive_of_held held before) hrules
    (fun _ => isAlive_of_moduleName held before) fun _ => isAlive_of_stored held before

theorem leads_of_moduleNames {moduleNames : Scope Nat}
    (hmodules : ∀ binding ∈ moduleNames, before.isAlive held (.module binding.2)) :
    (⟨held, before⟩ : Moment).Leads ⟨held, { before with moduleNames }⟩ :=
  leads_of_names (fun _ => isAlive_of_held held before) (fun _ => isAlive_of_rule held before)
    hmodules fun _ => isAlive_of_stored held before

theorem leads_of_parsers {parsers : Scope Grammar}
    (hparsers : ∀ binding ∈ parsers, ∀ keepable ∈ binding.2.keeps, before.isAlive held keepable) :
    (⟨held, before⟩ : Moment).Leads ⟨held, { before with parsers }⟩ :=
  leads_of_names (fun _ => isAlive_of_held held before) (fun _ => isAlive_of_rule held before)
    (fun _ => isAlive_of_moduleName held before) hparsers

theorem leads_nameModule {label : String} {place : Nat}
    (halive : before.isAlive held (.module place)) :
    (⟨held, before⟩ : Moment).Leads
      ⟨held, { before with moduleNames := before.moduleNames.assign label place }⟩ := by
  refine leads_of_moduleNames fun binding hbinding => ?_
  obtain rfl | hbinding := List.mem_cons.1 hbinding
  · exact halive
  · exact isAlive_of_moduleName held before (List.mem_filter.1 hbinding).1

theorem leads_nameRule {label : String} {slot : Nat} (halive : before.isAlive held (.slot slot)) :
    (⟨held, before⟩ : Moment).Leads
      ⟨held, { before with rules := before.rules.assign label slot }⟩ := by
  refine leads_of_rules fun binding hbinding => ?_
  obtain rfl | hbinding := List.mem_cons.1 hbinding
  · exact halive
  · exact isAlive_of_rule held before (List.mem_filter.1 hbinding).1

theorem leads_openRule (held : List Grammar) (before : Workspace) (label : String) :
    (⟨held, before⟩ : Moment).Leads ⟨held, before.openRule label⟩ := by
  let opened : Workspace := { before with slots := before.slots.push none }
  have hnew : .slot before.slots.size ∉ before.keepables := by simp [Workspace.mem_keepables]
  have hopened : (⟨held, before⟩ : Moment).Leads
      ⟨.linked (.rule before.slots.size) :: held, opened⟩ := by
    refine leads_new hnew rfl (fun keepable hthere => ?_) (fun keeper keepable => ?_) fun _ => rfl
    · rw [Workspace.mem_keepables] at hthere ⊢
      cases keepable with
      | slot place => simpa [opened] using Nat.lt_succ_of_lt hthere
      | cell | module => exact hthere
    · cases keeper with
      | slot place =>
          rw [Workspace.mem_keptBy_slot, Workspace.mem_keptBy_slot,
            show opened.pattern? place = before.pattern? place from
              before.pattern?_openRule label place]
      | cell | module => rfl
  have hheld : opened.isAlive (.linked (.rule before.slots.size) :: held)
      (.slot before.slots.size) :=
    Workspace.isAlive_of_mem List.mem_cons_self (List.mem_singleton_self _)
  refine (hopened.trans (leads_nameRule hheld)).trans (leads_of_roots fun keepable hroot => ?_)
  exact isAlive_of_isRoot (Workspace.isRoot_cons_iff.2 (.inr hroot))

/-- A new module is held, and its cache is empty. -/
theorem leads_addModule (held : List Grammar) (before : Workspace)
    (definitions : List (String × Grammar)) (cached : Bool) :
    (⟨held, before⟩ : Moment).Leads ⟨.linked (.production before.modules.size 0) :: held,
      before.addModule (.ofDefinitions definitions cached)⟩ := by
  have hnew : .module before.modules.size ∉ before.keepables := by simp [Workspace.mem_keepables]
  refine leads_new hnew rfl (fun keepable hthere => ?_) (fun keeper keepable => ?_) fun _ => rfl
  · rw [Workspace.mem_keepables] at hthere ⊢
    cases keepable with
    | module place => simpa [Workspace.addModule] using Nat.lt_succ_of_lt hthere
    | slot | cell => exact hthere
  · cases keeper with
    | module place =>
        simp only [Workspace.mem_keptBy_module, before.productionContent?_addModule_eq]
        split
        · rename_i hplace
          subst hplace
          simp [Workspace.productionContent?]
        · rfl
    | slot | cell => rfl

theorem leads_fillSlot {slot : Nat} {built : Grammar} (hempty : before.pattern? slot = none)
    (hheld : ∀ keepable ∈ built.keeps, before.isAlive held keepable) :
    (⟨held, before⟩ : Moment).Leads ⟨held, before.fillSlot slot built⟩ where
  there keepable hthere := by
    rw [Moment.keepables, Workspace.mem_keepables] at hthere ⊢
    cases keepable with
    | slot place => simpa [Workspace.fillSlot] using hthere
    | cell | module => exact hthere
  lasts keeper keepable hkept := by
    cases keeper with
    | slot place =>
        obtain ⟨pattern, hpattern, hkept⟩ := Workspace.mem_keptBy_slot.1 hkept
        refine Workspace.mem_keptBy_slot.2 ⟨pattern, ?_, hkept⟩
        rw [Workspace.pattern?_fillSlot_of_ne, hpattern]
        rintro rfl
        cases hempty.symm.trans hpattern
    | cell | module => exact hkept
  roots _ _ hroot := Workspace.isAlive_of_isRoot hroot
  kept keepable _ keeper hkept := by
    cases keeper with
    | slot place =>
        obtain ⟨pattern, hpattern, hkept⟩ := Workspace.mem_keptBy_slot.1 hkept
        obtain rfl | hpattern := Workspace.pattern?_of_fillSlot hpattern
        · exact .inr (hheld keepable hkept)
        · exact .inl (Workspace.mem_keptBy_slot.2 ⟨pattern, hpattern, hkept⟩)
    | cell | module => exact .inl hkept

end Moment

namespace Workspace.PutsOffWeakly

variable {workspace : Workspace}

theorem withRules (h : workspace.PutsOffWeakly) (rules : Scope Nat) :
    PutsOffWeakly { workspace with rules } :=
  ⟨h.patterns, h.bodies, h.cells, h.contents, h.definitions, h.parsers⟩

theorem withModuleNames (h : workspace.PutsOffWeakly) (moduleNames : Scope Nat) :
    PutsOffWeakly { workspace with moduleNames } :=
  ⟨h.patterns, h.bodies, h.cells, h.contents, h.definitions, h.parsers⟩

theorem dropParser (h : workspace.PutsOffWeakly) (label : String) :
    PutsOffWeakly { workspace with parsers := workspace.parsers.remove label } :=
  h.withParsers fun hfind => h.parsers (Scope.find?_of_find?_remove hfind)

theorem openRule (h : workspace.PutsOffWeakly) (label : String) :
    (workspace.openRule label).PutsOffWeakly where
  patterns hpattern := h.patterns (workspace.pattern?_openRule label _ ▸ hpattern)
  bodies := h.bodies
  cells := h.cells
  contents := h.contents
  definitions := h.definitions
  parsers := h.parsers

theorem addModule (h : workspace.PutsOffWeakly) {definitions : List (String × Grammar)}
    (cached : Bool)
    (hdefinitions : definitions.all fun definition => definition.2.all Grammar.isUnlinked) :
    (workspace.addModule (.ofDefinitions definitions cached)).PutsOffWeakly where
  patterns := h.patterns
  bodies := h.bodies
  cells := h.cells
  parsers := h.parsers
  contents {place index built} hcontent := by
    rw [workspace.productionContent?_addModule_eq] at hcontent
    split at hcontent
    · cases hcontent
    · exact h.contents hcontent
  definitions {place index definition} hdefinition := by
    rw [definition?_eq_production?, workspace.production?_addModule] at hdefinition
    split at hdefinition
    · obtain ⟨production, hproduction, rfl⟩ := Option.map_eq_some_iff.1 hdefinition
      refine Grammar.leads_of_isUnlinked ?_
      exact Productions.all_ofDefinitions (List.all_eq_true.1 hdefinitions) production
        (List.mem_of_getElem? hproduction)
    · rw [← definition?_eq_production?] at hdefinition
      exact h.definitions hdefinition

end Workspace.PutsOffWeakly

/-! ### Operations that do not parse -/

section Steps

variable {α : Type} {before : Session} {held : List Grammar}

theorem Step.ofRun_upholds {run : Run α} {held' : α → List Grammar} {post : α → Workspace → Prop}
    (hrun : Upholds id held run before.workspace held' post) :
    Upholds Session.workspace held (Step.ofRun run) before held' fun value after =>
      post value after.workspace := by
  unfold Upholds Lands Step.ofRun at *
  cases hresult : run before.workspace with
  | ok value after =>
      rw [hresult] at hrun
      exact hrun
  | error fault after =>
      rw [hresult] at hrun
      exact hrun

theorem Step.workspace_upholds {next : Workspace → Step α} {held' : α → List Grammar}
    {post : α → Session → Prop}
    (hnext : Upholds Session.workspace held (next before.workspace) before held' post) :
    Upholds Session.workspace held (Step.workspace >>= next) before held' post := by
  unfold Step.workspace
  rw [bind_assoc]
  refine .get ?_
  rw [pure_bind]
  exact hnext

theorem Step.demand_upholds {fault : Fault} {value? : Option α}
    (h : before.workspace.PutsOffWeakly) :
    Upholds Session.workspace held (Step.ofRun (Run.demand fault value?)) before (fun _ => held)
      fun value after => value? = some value ∧ after.workspace = before.workspace :=
  Step.ofRun_upholds (Run.demand_upholds h)

theorem Step.slotOf_upholds (h : before.workspace.PutsOffWeakly) (name : String) :
    Upholds Session.workspace held (Step.slotOf name) before (fun _ => held) fun slot after =>
      before.workspace.rules.find? name = some slot ∧ after.workspace = before.workspace :=
  Step.workspace_upholds (Step.demand_upholds h)

theorem Step.moduleOf_upholds (h : before.workspace.PutsOffWeakly) (name production : String) :
    Upholds Session.workspace held (Step.moduleOf name production) before (fun _ => held)
      fun place after => before.workspace.moduleNames.find? name = some place ∧
        after.workspace = before.workspace :=
  Step.workspace_upholds (Step.demand_upholds h)

/-- Changing the workspace, and replying. What was held besides is needed no more. -/
theorem Step.reply_upholds {change : Workspace → Workspace} {reply : Reply}
    (hweak : (change before.workspace).PutsOffWeakly)
    (hleads : (⟨held, before.workspace⟩ : Moment).Leads ⟨held, change before.workspace⟩) :
    Upholds Session.workspace held (Step.modifyWorkspace change >>= fun _ => pure reply) before
      (fun _ => []) fun _ _ => True := by
  refine .modify hleads (.pure_of_roots hweak (fun keepable hroot => ?_) trivial)
  exact Workspace.isRoot_iff.2 (.inr ((Workspace.isRoot_iff.1 hroot).resolve_left (by simp)))

/-- A new module is held until it has a name, or one of its productions does. -/
theorem Step.addModule_upholds (h : before.workspace.PutsOffWeakly)
    {definitions : List (String × Grammar)} (cached : Bool)
    (hdefinitions : definitions.all fun definition => definition.2.all Grammar.isUnlinked) :
    Upholds Session.workspace held (Step.addModule definitions cached) before
      (fun place => .linked (.production place 0) :: held) fun _ _ => True :=
  Step.workspace_upholds (.modify (Moment.leads_addModule held before.workspace definitions cached)
    (.pure_of_roots (h.addModule cached hdefinitions) (fun _ hroot => hroot) trivial))

theorem Step.storeProductionOf_upholds (h : before.workspace.PutsOffWeakly) {place : Nat}
    (halive : before.workspace.isAlive held (.module place)) (production name : String) :
    Upholds Session.workspace held (Step.storeProductionOf place production name) before
      (fun _ => []) fun _ _ => True := by
  refine Step.workspace_upholds ?_
  cases before.workspace.productionIndex? place production with
  | none => exact .throw h
  | some index =>
      refine Step.reply_upholds (h.storeParser name rfl) ?_
      refine Moment.leads_storeParser before.workspace name fun _ hkept => ?_
      rwa [List.mem_singleton.1 hkept]

theorem Step.link_upholds (h : before.workspace.PutsOffWeakly) {grammar : Grammar}
    (hgrammar : grammar.all Grammar.isUnlinked) :
    Upholds Session.workspace held (Step.ofRun (grammar.link none)) before
      (fun built => built :: held) fun built _ => built.putsOffWeakly :=
  Step.ofRun_upholds (grammar.link_upholds none h (Grammar.leads_of_isUnlinked hgrammar))

/-- **A command that does not parse brings nothing back to life.** -/
theorem Command.perform_upholds {command : Command} (h : before.workspace.PutsOffWeakly)
    (hcommand : command.all Grammar.isUnlinked) (hparsed : command.parsed? = none) :
    Upholds Session.workspace [] command.perform before (fun _ => []) fun _ _ => True := by
  cases command with
  | parse | trace => cases hparsed
  | read source =>
      rw [Command.perform]
      cases source.chain with
      | error refusal => exact .throw h
      | ok chain => exact ⟨h, Moment.Leads.refl _, trivial⟩
  | openRule name =>
      exact Step.reply_upholds (h.openRule name) (Moment.leads_openRule [] _ name)
  | setRule name pattern =>
      refine .bind (Step.slotOf_upholds h name) fun slot now _ hnow _ => ?_
      refine .bind (Step.link_upholds hnow hcommand) fun built now _ hnow hbuilt => ?_
      refine Step.workspace_upholds ?_
      cases hpattern : now.workspace.pattern? slot with
      | some former => exact .throw hnow
      | none =>
          refine Step.reply_upholds (hnow.fillSlot slot hbuilt) ?_
          exact Moment.leads_fillSlot hpattern fun _ hkept =>
            Workspace.isAlive_of_mem List.mem_cons_self hkept
  | isSet name =>
      refine Step.workspace_upholds ?_
      refine .bind (Step.slotOf_upholds h name) fun slot now _ hnow _ => ?_
      exact .pure_of_roots hnow (fun _ hroot => hroot) trivial
  | dropRule name =>
      refine Step.workspace_upholds (Step.reply_upholds (h.withRules _) ?_)
      exact Moment.leads_of_rules fun binding hbinding =>
        Moment.isAlive_of_rule [] _ (List.mem_filter.1 hbinding).1
  | store name grammar =>
      refine .bind (Step.link_upholds h hcommand) fun built now _ hnow hbuilt => ?_
      refine Step.reply_upholds (hnow.storeParser name hbuilt) ?_
      exact Moment.leads_storeParser _ name fun _ hkept =>
        Workspace.isAlive_of_mem List.mem_cons_self hkept
  | dropParser name =>
      refine Step.workspace_upholds (Step.reply_upholds (h.dropParser name) ?_)
      exact Moment.leads_of_parsers fun binding hbinding =>
        Moment.isAlive_of_stored [] _ (List.mem_filter.1 hbinding).1
  | define name definitions cached =>
      refine .bind (Step.addModule_upholds h cached hcommand) fun place now _ hnow _ => ?_
      refine Step.reply_upholds (hnow.withModuleNames _) (Moment.leads_nameModule ?_)
      exact Workspace.isAlive_of_mem List.mem_cons_self (List.mem_singleton_self _)
  | storeOnly name definitions production =>
      refine .bind (Step.addModule_upholds h false hcommand) fun place now _ hnow _ => ?_
      refine Step.storeProductionOf_upholds hnow ?_ production name
      exact Workspace.isAlive_of_mem List.mem_cons_self (List.mem_singleton_self _)
  | has module production =>
      refine .bind (Step.moduleOf_upholds h module production) fun place now _ hnow _ => ?_
      exact Step.workspace_upholds (.pure_of_roots hnow (fun _ hroot => hroot) trivial)
  | storeProduction name module production =>
      refine .bind (Step.moduleOf_upholds h module production) fun place now _ hnow hfound => ?_
      refine Step.storeProductionOf_upholds hnow ?_ production name
      obtain ⟨hplace, hsame⟩ := hfound
      rw [hsame]
      exact Workspace.isAlive_of_isKeptByName (Workspace.isKeptByName_of_module hplace)
  | dropModule name =>
      refine Step.workspace_upholds (Step.reply_upholds (h.withModuleNames _) ?_)
      exact Moment.leads_of_moduleNames fun binding hbinding =>
        Moment.isAlive_of_moduleName [] _ (List.mem_filter.1 hbinding).1
  | represent grammar =>
      refine .bind (Step.link_upholds h hcommand) fun built now _ hnow _ => ?_
      refine .bind (Step.workspace_upholds (Step.demand_upholds hnow)) fun text now _ hnow _ => ?_
      refine .pure_of_roots hnow (fun keepable hroot => ?_) trivial
      exact Workspace.isRoot_iff.2 (.inr ((Workspace.isRoot_iff.1 hroot).resolve_left (by simp)))

def Operation.parsed? : Operation → Option (Grammar × (Grammar → Grammar) × Nat)
  | command asked => asked.parsed?
  | cloneRule _ _ | cloneModule _ _ => none

theorem Operation.perform_upholds {operation : Operation} (h : before.workspace.PutsOffWeakly)
    (hoperation : operation.all Grammar.isUnlinked) (hparsed : operation.parsed? = none) :
    Upholds Session.workspace [] operation.perform before (fun _ => []) fun _ _ => True := by
  cases operation with
  | command asked => exact Command.perform_upholds h hoperation hparsed
  | cloneRule name other =>
      refine .bind (Step.slotOf_upholds h name) fun slot now _ hnow hfound => ?_
      refine Step.reply_upholds (hnow.withRules _) (Moment.leads_nameRule ?_)
      obtain ⟨hslot, hsame⟩ := hfound
      rw [hsame]
      exact Workspace.isAlive_of_isKeptByName (Workspace.isKeptByName_of_rule hslot)
  | cloneModule name other =>
      refine .bind (Step.moduleOf_upholds h name "") fun place now _ hnow hfound => ?_
      refine Step.reply_upholds (hnow.withModuleNames _) (Moment.leads_nameModule ?_)
      obtain ⟨hplace, hsame⟩ := hfound
      rw [hsame]
      exact Workspace.isAlive_of_isKeptByName (Workspace.isKeptByName_of_module hplace)

end Steps

end TokenGrammar
