import TokenGrammar.Proofs.Links
import TokenGrammar.Session

/-!
# The workspaces of sessions

Commands name what they are about, and hold no links. The workspace of a session that begins with
nothing is well linked therefore, whatever commands it performed and whether they were refused or
not: every link leads to what is there, in all that a command links and parses.
-/

namespace TokenGrammar

def Grammar.isUnlinked : Grammar → Bool
  | linked _ => false
  | _ => true

theorem Grammar.leads_of_isUnlinked {there : Link → Bool} {grammar : Grammar}
    (h : grammar.all isUnlinked) : grammar.all (leads there) := by
  refine grammar.all_imp (fun occurring hunlinked => ?_) h
  cases occurring with
  | linked target => cases hunlinked
  | _ => rfl

def Command.all (p : Grammar → Bool) : Command → Bool
  | .setRule _ grammar | .store _ grammar | .parse grammar _ _ | .trace _ grammar _
  | .represent grammar => grammar.all p
  | .define _ definitions _ | .storeOnly _ definitions _ =>
      definitions.all fun definition => definition.2.all p
  | _ => true

theorem Productions.all_define {p : Grammar → Bool} {productions : Productions} {name : String}
    {definition : Grammar} (h : ∀ production ∈ productions, production.2.all p)
    (hdefinition : definition.all p) :
    ∀ production ∈ productions.define name definition, production.2.all p := by
  induction productions with
  | nil =>
      intro production hmem
      rw [List.mem_singleton.1 hmem]
      exact hdefinition
  | cons earlier rest ih =>
      obtain ⟨hearlier, hrest⟩ := List.forall_mem_cons.1 h
      rw [Productions.define]
      split
      · exact List.forall_mem_cons.2 ⟨hdefinition, hrest⟩
      · exact List.forall_mem_cons.2 ⟨hearlier, ih hrest⟩

theorem Productions.all_ofDefinitions {p : Grammar → Bool} {definitions : List (String × Grammar)}
    (h : ∀ definition ∈ definitions, definition.2.all p) :
    ∀ production ∈ Productions.ofDefinitions definitions, production.2.all p := by
  unfold Productions.ofDefinitions
  refine List.foldlRecOn (motive := fun productions : Productions =>
    ∀ production ∈ productions, production.2.all p) definitions _ (fun _ hmem => nomatch hmem) ?_
  intro productions hproductions definition hdefinition
  exact Productions.all_define hproductions (h definition hdefinition)

theorem Module.built?_ofDefinitions (definitions : List (String × Grammar)) (cached : Bool)
    (index : Nat) : (Module.ofDefinitions definitions cached).built? index = none := by
  cases cached with
  | false => rfl
  | true =>
      simp only [Module.built?, Module.ofDefinitions, if_true, Option.bind_eq_bind,
        Option.bind_some, Array.getElem?_replicate]
      split <;> rfl

theorem Module.size_cache_ofDefinitions {definitions : List (String × Grammar)} {cached : Bool}
    {cache : Array (Option Grammar)}
    (h : (Module.ofDefinitions definitions cached).cache? = some cache) :
    cache.size = (Module.ofDefinitions definitions cached).productions.length := by
  cases cached with
  | false => cases h
  | true =>
      cases h
      exact Array.size_replicate

theorem Workspace.WellLinked.addModule {before : Workspace} (h : before.WellLinked)
    {definitions : List (String × Grammar)} (cached : Bool)
    (hdefinitions : definitions.all fun definition => definition.2.all Grammar.isUnlinked) :
    before.WellLinkedAfter (before.addModule (.ofDefinitions definitions cached)) := by
  have hgrown : before.Extends (before.addModule (.ofDefinitions definitions cached)) := by
    refine ⟨Nat.le_refl _, Nat.le_refl _, by simp [Workspace.addModule],
      fun place index hsome => ?_⟩
    obtain ⟨definition, hdefinition⟩ := Option.isSome_iff_exists.1 hsome
    obtain ⟨found, hfound, hproduction⟩ := Option.bind_eq_some_iff.1 hdefinition
    have hlt : place < before.modules.size := (Array.getElem?_eq_some_iff.1 hfound).1
    simp only [definition?, Workspace.addModule, Array.getElem?_push, Nat.ne_of_lt hlt, if_false,
      hfound, Option.bind_eq_bind, Option.bind_some]
    exact Option.isSome_iff_exists.2 ⟨definition, hproduction⟩
  have hlinks := LinksInto.imp hgrown.hasTarget h
  refine ⟨⟨hlinks.patterns, hlinks.bodies, hlinks.cells, fun {place index built} hcontent => ?_,
    fun {place index definition} hdefinition => ?_, hlinks.parsers, hlinks.rules,
    fun {place found cache} hfound hcache => ?_⟩, hgrown⟩
  · simp only [productionContent?, Workspace.addModule, Array.getElem?_push] at hcontent
    split at hcontent
    · rw [Option.bind_some, Module.built?_ofDefinitions] at hcontent
      cases hcontent
    · exact hlinks.contents hcontent
  · simp only [definition?, Workspace.addModule, Array.getElem?_push] at hdefinition
    split at hdefinition
    · rw [Option.bind_eq_bind, Option.bind_some] at hdefinition
      obtain ⟨production, hproduction, heq⟩ := Option.bind_eq_some_iff.1 hdefinition
      obtain rfl := Option.some.inj heq
      refine Grammar.leads_of_isUnlinked ?_
      exact Productions.all_ofDefinitions (List.all_eq_true.1 hdefinitions) production
        (List.mem_of_getElem? hproduction)
    · exact hlinks.definitions hdefinition
  · simp only [Workspace.addModule, Array.getElem?_push] at hfound
    split at hfound
    · cases hfound
      exact Module.size_cache_ofDefinitions hcache
    · exact h.caches hfound hcache

section Steps

variable {α : Type} {before : Session}

theorem Step.ofRun_linksWell {run : Run α} {post : α → Workspace → Prop}
    (hrun : LinksWell id run before.workspace post) :
    LinksWell Session.workspace (Step.ofRun run) before fun value after =>
      post value after.workspace := by
  unfold LinksWell Lands Step.ofRun at *
  cases hresult : run before.workspace with
  | ok value after =>
      rw [hresult] at hrun
      exact hrun
  | error fault after =>
      rw [hresult] at hrun
      exact hrun

theorem Step.modifyWorkspace_linksWell {change : Workspace → Workspace}
    (h : before.workspace.WellLinkedAfter (change before.workspace)) :
    LinksWell Session.workspace (Step.modifyWorkspace change) before fun _ after =>
      after.workspace = change before.workspace :=
  ⟨h, rfl⟩

theorem Step.modifyWorkspace_reply_linksWell {change : Workspace → Workspace} {reply : Reply}
    (h : before.workspace.WellLinkedAfter (change before.workspace)) :
    LinksWell Session.workspace (Step.modifyWorkspace change >>= fun _ => pure reply) before
      fun _ _ => True := by
  refine (Step.modifyWorkspace_linksWell h).bind fun _ after hafter _ => ?_
  exact .pure hafter.wellLinked trivial

theorem Step.workspace_linksWell {next : Workspace → Step α} {post : α → Session → Prop}
    (h : before.workspace.WellLinked)
    (hnext : LinksWell Session.workspace (next before.workspace) before post) :
    LinksWell Session.workspace (Step.workspace >>= next) before post := by
  unfold Step.workspace
  rw [bind_assoc]
  refine .get h ?_
  rw [pure_bind]
  exact hnext

theorem Step.demand_linksWell {fault : Fault} {value? : Option α}
    (h : before.workspace.WellLinked) :
    LinksWell Session.workspace (Step.ofRun (Run.demand fault value?)) before fun value after =>
      value? = some value ∧ after.workspace = before.workspace :=
  Step.ofRun_linksWell (Run.demand_linksWell h)

theorem Step.slotOf_linksWell (h : before.workspace.WellLinked) (name : String) :
    LinksWell Session.workspace (Step.slotOf name) before fun _ after =>
      after.workspace = before.workspace := by
  refine Step.workspace_linksWell h ?_
  exact (Step.demand_linksWell h).imp fun _ _ _ hdemand => hdemand.2

theorem Step.moduleOf_linksWell (h : before.workspace.WellLinked) (name production : String) :
    LinksWell Session.workspace (Step.moduleOf name production) before fun _ after =>
      after.workspace = before.workspace := by
  refine Step.workspace_linksWell h ?_
  exact (Step.demand_linksWell h).imp fun _ _ _ hdemand => hdemand.2

theorem Step.addModule_linksWell (h : before.workspace.WellLinked)
    {definitions : List (String × Grammar)} (cached : Bool)
    (hdefinitions : definitions.all fun definition => definition.2.all Grammar.isUnlinked) :
    LinksWell Session.workspace (Step.addModule definitions cached) before fun _ _ => True := by
  refine Step.workspace_linksWell h ?_
  refine (Step.modifyWorkspace_linksWell (h.addModule cached hdefinitions)).bind ?_
  intro _ after hafter _
  exact .pure hafter.wellLinked trivial

theorem Step.storeProductionOf_linksWell (h : before.workspace.WellLinked) (place : Nat)
    (production name : String) :
    LinksWell Session.workspace (Step.storeProductionOf place production name) before
      fun _ _ => True := by
  refine Step.workspace_linksWell h ?_
  cases hindex : before.workspace.productionIndex? place production with
  | none => exact .throw h
  | some index => exact Step.modifyWorkspace_reply_linksWell (h.storeParser name
      ⟨rfl, Workspace.isSome_definition?_of_productionIndex? hindex⟩)

theorem Step.link_linksWell (h : before.workspace.WellLinked) {grammar : Grammar}
    (hgrammar : grammar.all Grammar.isUnlinked) :
    LinksWell Session.workspace (Step.ofRun (grammar.link none)) before fun built after =>
      built.Stands after.workspace.hasTarget :=
  Step.ofRun_linksWell (grammar.link_linksWell none h (Grammar.leads_of_isUnlinked hgrammar))

theorem Step.parseWith_linksWell (h : before.workspace.WellLinked) {grammar : Grammar}
    (hgrammar : grammar.Stands before.workspace.hasTarget) (start : Nat) :
    LinksWell Session.workspace (Step.parseWith grammar start) before fun _ _ => True := by
  refine .get h ?_
  have hparse := Grammar.parseWithin_linksWell Grammar.depthLimit [grammar] grammar before.chain
    (before.chain.cursor start) before.workspace h hgrammar
  exact (Step.ofRun_linksWell hparse).imp fun _ _ _ _ => trivial

theorem Step.representationOf_linksWell (h : before.workspace.WellLinked) (grammar : Grammar) :
    LinksWell Session.workspace (Step.representationOf grammar) before fun _ _ => True := by
  refine Step.workspace_linksWell h ?_
  exact (Step.demand_linksWell h).imp fun _ _ _ _ => trivial

theorem Step.parsed_linksWell (h : before.workspace.WellLinked) (outcome : Outcome Value)
    (text? : Option String) :
    LinksWell Session.workspace (Step.workspace >>= fun now =>
      pure (Reply.parsed outcome now.journal.builds.length text?)) before fun _ _ => True :=
  Step.workspace_linksWell h (.pure h trivial)

theorem Workspace.WellLinked.openRule {workspace : Workspace} (h : workspace.WellLinked)
    (name : String) : workspace.WellLinkedAfter (workspace.openRule name) := by
  have hgrown : workspace.Extends (workspace.openRule name) :=
    ⟨by simp [Workspace.openRule], Nat.le_refl _, Nat.le_refl _, fun _ _ hsome => hsome⟩
  have hlinks := LinksInto.imp hgrown.hasTarget h
  refine ⟨⟨fun {slot pattern} hpattern => ?_, hlinks.bodies, hlinks.cells, hlinks.contents,
    hlinks.definitions, hlinks.parsers, fun {label slot} hslot => ?_, hlinks.caches⟩, hgrown⟩
  · simp only [pattern?, Workspace.openRule, Array.getElem?_push] at hpattern
    split at hpattern
    · cases hpattern
    · exact hlinks.patterns hpattern
  · by_cases hlabel : label = name
    · subst hlabel
      rw [Workspace.openRule, Scope.find?_assign_self] at hslot
      cases hslot
      simp [hasTarget, Workspace.openRule]
    · rw [Workspace.openRule, Scope.find?_assign_of_ne _ _ hlabel] at hslot
      exact hlinks.rules hslot

theorem Scope.find?_of_find?_remove {α : Type} {scope : Scope α} {name label : String} {value : α}
    (h : (scope.remove name).find? label = some value) : scope.find? label = some value := by
  by_cases hlabel : label = name
  · subst hlabel
    rw [Scope.find?_remove_self] at h
    cases h
  · rwa [Scope.find?_remove_of_ne _ hlabel] at h

theorem Workspace.WellLinked.dropParser {workspace : Workspace} (h : workspace.WellLinked)
    (name : String) :
    workspace.WellLinkedAfter { workspace with parsers := workspace.parsers.remove name } :=
  ⟨⟨h.patterns, h.bodies, h.cells, h.contents, h.definitions,
    fun hfind => h.parsers (Scope.find?_of_find?_remove hfind), h.rules, h.caches⟩,
    ⟨Nat.le_refl _, Nat.le_refl _, Nat.le_refl _, fun _ _ hsome => hsome⟩⟩

theorem Workspace.WellLinked.dropRule {workspace : Workspace} (h : workspace.WellLinked)
    (name : String) :
    workspace.WellLinkedAfter { workspace with rules := workspace.rules.remove name } :=
  ⟨⟨h.patterns, h.bodies, h.cells, h.contents, h.definitions, h.parsers,
    fun hslot => h.rules (Scope.find?_of_find?_remove hslot), h.caches⟩,
    ⟨Nat.le_refl _, Nat.le_refl _, Nat.le_refl _, fun _ _ hsome => hsome⟩⟩

theorem Workspace.WellLinked.withModuleNames {workspace : Workspace} (h : workspace.WellLinked)
    (moduleNames : Scope Nat) : workspace.WellLinkedAfter { workspace with moduleNames } :=
  ⟨⟨h.patterns, h.bodies, h.cells, h.contents, h.definitions, h.parsers, h.rules, h.caches⟩,
    ⟨Nat.le_refl _, Nat.le_refl _, Nat.le_refl _, fun _ _ hsome => hsome⟩⟩

/-- **Every command leaves the workspace well linked**, whether it is refused or not. -/
theorem Command.perform_linksWell (command : Command) (h : before.workspace.WellLinked)
    (hcommand : command.all Grammar.isUnlinked) :
    LinksWell Session.workspace command.perform before fun _ _ => True := by
  cases command with
  | read source =>
      rw [Command.perform]
      cases source.chain with
      | error refusal => exact .throw h
      | ok chain => exact ⟨h.refl, trivial⟩
  | openRule name => exact Step.modifyWorkspace_reply_linksWell (h.openRule name)
  | setRule name pattern =>
      refine (Step.slotOf_linksWell h name).bind fun slot now hnow _ => ?_
      refine (Step.link_linksWell hnow.wellLinked hcommand).bind fun built later hlater hbuilt => ?_
      refine Step.workspace_linksWell hlater.wellLinked ?_
      split
      · exact .throw hlater.wellLinked
      · exact Step.modifyWorkspace_reply_linksWell (hlater.wellLinked.fillSlot slot hbuilt)
  | isSet name =>
      refine Step.workspace_linksWell h ?_
      refine (Step.slotOf_linksWell h name).bind fun _ after hafter _ => ?_
      exact .pure hafter.wellLinked trivial
  | dropRule name =>
      exact Step.workspace_linksWell h (Step.modifyWorkspace_reply_linksWell (h.dropRule name))
  | store name grammar =>
      refine (Step.link_linksWell h hcommand).bind fun built now hnow hbuilt => ?_
      exact Step.modifyWorkspace_reply_linksWell (hnow.wellLinked.storeParser name hbuilt)
  | dropParser name =>
      exact Step.workspace_linksWell h (Step.modifyWorkspace_reply_linksWell (h.dropParser name))
  | define name definitions cached =>
      refine (Step.addModule_linksWell h cached hcommand).bind fun place now hnow _ => ?_
      exact Step.modifyWorkspace_reply_linksWell (hnow.wellLinked.withModuleNames _)
  | storeOnly name definitions production =>
      refine (Step.addModule_linksWell h false hcommand).bind fun place now hnow _ => ?_
      exact Step.storeProductionOf_linksWell hnow.wellLinked place production name
  | has module production =>
      refine (Step.moduleOf_linksWell h module production).bind fun place now hnow _ => ?_
      exact Step.workspace_linksWell hnow.wellLinked (.pure hnow.wellLinked trivial)
  | storeProduction name module production =>
      refine (Step.moduleOf_linksWell h module production).bind fun place now hnow _ => ?_
      exact Step.storeProductionOf_linksWell hnow.wellLinked place production name
  | dropModule name =>
      exact Step.workspace_linksWell h (Step.modifyWorkspace_reply_linksWell (h.withModuleNames _))
  | parse grammar start represented =>
      refine (Step.link_linksWell h hcommand).bind fun built now hnow hbuilt => ?_
      refine (Step.parseWith_linksWell hnow.wellLinked hbuilt start).bind
        fun outcome later hlater _ => ?_
      cases represented with
      | false => exact Step.parsed_linksWell hlater.wellLinked outcome none
      | true =>
          have hrepresentation : LinksWell Session.workspace
              (some <$> Step.representationOf built) later fun _ _ => True :=
            (Step.representationOf_linksWell hlater.wellLinked built).bind
              fun _ after hafter _ => .pure hafter.wellLinked trivial
          refine hrepresentation.bind fun text? after hafter _ => ?_
          exact Step.parsed_linksWell hafter.wellLinked outcome text?
  | trace label grammar start =>
      refine (Step.link_linksWell h hcommand).bind fun built now hnow hbuilt => ?_
      have htraced : (Grammar.traced label built).Stands now.workspace.hasTarget :=
        ⟨hbuilt.isBuilt, Bool.and_eq_true_iff.2 ⟨rfl, hbuilt.leads⟩⟩
      refine (Step.parseWith_linksWell hnow.wellLinked htraced start).bind
        fun outcome later hlater _ => ?_
      exact Step.parsed_linksWell hlater.wellLinked outcome none
  | represent grammar =>
      refine (Step.link_linksWell h hcommand).bind fun built now hnow hbuilt => ?_
      refine (Step.representationOf_linksWell hnow.wellLinked built).bind
        fun text after hafter _ => ?_
      exact .pure hafter.wellLinked trivial

end Steps

inductive Session.Reached : Session → Prop where
  | start : Reached {}
  | perform {session : Session} (hsession : Reached session) {command : Command}
      (hcommand : command.all Grammar.isUnlinked) : Reached (session.perform command).2

theorem Workspace.wellLinked_empty : Workspace.WellLinked {} where
  patterns h := by simp [pattern?] at h
  bodies h := by simp at h
  cells h := by simp [cellContent?] at h
  contents h := by simp [productionContent?] at h
  definitions h := by simp [definition?] at h
  parsers h := by simp [Scope.find?] at h
  rules h := by simp [Scope.find?] at h
  caches h := by simp at h

theorem Session.wellLinked_perform {session : Session} {command : Command}
    (h : session.workspace.WellLinked) (hcommand : command.all Grammar.isUnlinked) :
    (session.perform command).2.workspace.WellLinked := by
  have hperform : LinksWell Session.workspace command.perform
      { session with workspace := session.workspace.clearJournal } fun _ _ => True :=
    command.perform_linksWell (h.modifyJournal fun _ => {}).wellLinked hcommand
  unfold Session.perform
  cases hresult : command.perform { session with workspace := session.workspace.clearJournal } with
  | ok reply after =>
      simp only [hresult]
      exact (hperform.of_ok hresult).1.wellLinked
  | error refusal after =>
      simp only [hresult]
      exact (Lands.of_error hperform hresult).wellLinked

/-- **In every session all links lead somewhere.** -/
theorem Session.Reached.wellLinked {session : Session} (h : session.Reached) :
    session.workspace.WellLinked := by
  induction h with
  | start => exact Workspace.wellLinked_empty
  | perform _ hcommand ih => exact Session.wellLinked_perform ih hcommand

theorem Session.Reached.stands_of_link {session : Session} (h : session.Reached)
    {grammar built : Grammar} {after : Workspace} (hgrammar : grammar.all Grammar.isUnlinked)
    (hrun : grammar.link none session.workspace.clearJournal = .ok built after) :
    after.WellLinked ∧ built.Stands after.hasTarget := by
  have hcleared := (h.wellLinked.modifyJournal fun _ => {}).wellLinked
  obtain ⟨hlinked, hstands⟩ :=
    (grammar.link_linksWell none hcleared (Grammar.leads_of_isUnlinked hgrammar)).of_ok hrun
  exact ⟨hlinked.wellLinked, hstands⟩

end TokenGrammar
