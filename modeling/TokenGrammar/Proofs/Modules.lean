import TokenGrammar.Proofs.Lifetimes.Sessions
import TokenGrammar.Proofs.References
import TokenGrammar.Proofs.Reordering

/-!
# Modules

A module is made of the last definition of each name. Whatever is done later, its productions are
these, in the order in which their names came up; each is built from its definition, whose siblings
are references into the module; and to parse a production is to parse what its definition builds,
with the productions themselves in the place of the references. So a module is a solution of its
definitions, as far as those count that were not replaced, and their order does not count at all.
-/

namespace TokenGrammar

namespace Productions

theorem isSome_last? {definitions : List (String × Grammar)} {name : String} :
    (last? definitions name).isSome ↔ name ∈ definitions.map Prod.fst := by
  simp [last?, Scope.find?, List.find?_isSome]

end Productions

/-! ### Productions -/

namespace Workspace

/-- What a production is with a definition. -/
structure Produces (workspace : Workspace) (place index : Nat) (definition : Grammar) : Prop where
  defined : workspace.definition? place index = some definition
  /-- It is built from the definition, unless something was built before and kept. -/
  opened : Run.productionContent place index workspace
    = Run.keptOr (workspace.productionContent? place index) (.production place index) (some place)
        definition (fun built => (·.fillProduction place index built))
        (workspace.entered (.production place index))
  /-- What was kept was built from the definition, when the module had the same productions. -/
  kept : ∀ {built : Grammar}, workspace.productionContent? place index = some built →
    ∃ before after, before.productions? place = workspace.productions? place ∧
      definition.link (some place) before = .ok built after
  /-- It parses like what was built, with productions in the place of references. -/
  parses : ∀ {held : List Grammar} (depth : Nat) (chain : Chain) (start : Cursor),
    workspace.Owns held (.module place) →
    (Grammar.linked (.production place index)).parseWithin (depth + 1) held chain start workspace
      = (Run.productionContent place index >>= fun built =>
          Grammar.parseResolved place depth (built :: held) built chain start) workspace

/-- What a module is with some definitions. -/
structure Defines (workspace : Workspace) (place : Nat) (definitions : List (String × Grammar)) :
    Prop where
  /-- It has each name once, in the order of the first definitions. -/
  names : (workspace.productions? place).map Productions.names
    = some (definitions.map Prod.fst).eraseDups
  /-- Defining name after name in three tables comes to the productions that it has. -/
  tables : ∃ tables productions, Tables.ofDefinitions? definitions = some tables ∧
    workspace.productions? place = some productions ∧ tables.Hold productions
  /-- Each name has a production of its last definition. -/
  produces : ∀ {name : String} {definition : Grammar},
    Productions.last? definitions name = some definition →
    ∃ index, workspace.productionIndex? place name = some index ∧
      workspace.productionName? place index = some name ∧
      workspace.Produces place index definition
  others : ∀ {name : String}, name ∉ definitions.map Prod.fst →
    workspace.productionIndex? place name = none
  /-- In a definition a sibling is a reference to the production of that name. -/
  sibling : ∀ name, (Grammar.named (.sibling name)).link (some place) workspace
    = match workspace.productionIndex? place name with
      | some index => .ok (.linked (.reference place index)) workspace
      | none => .error (.unknownProduction name) workspace
  /-- Another grammar stands in for a sibling only if the module does not have it. -/
  siblingOr : ∀ name otherwise, (Grammar.siblingOr name otherwise).link (some place) workspace
    = match workspace.productionIndex? place name with
      | some index => .ok (.linked (.reference place index)) workspace
      | none => otherwise.link (some place) workspace
  /-- A part that is put off has such references in the place of siblings, too. -/
  putOff : ∀ {name : String} {index : Nat}, workspace.productionIndex? place name = some index →
    ∀ otherwise, (Grammar.named (.sibling name)).anchor (workspace.siblingsAt (some place))
        = .linked (.reference place index) ∧
      (Grammar.siblingOr name otherwise).anchor (workspace.siblingsAt (some place))
        = .linked (.reference place index)

variable {workspace : Workspace} {place : Nat} {definitions : List (String × Grammar)}

theorem produces_of_definition? {index : Nat} {definition : Grammar}
    (hdefinition : workspace.definition? place index = some definition)
    (hkept : workspace.KeepsBuilt) : workspace.Produces place index definition where
  defined := hdefinition
  opened := Run.productionContent_eq fun _ => hdefinition
  kept hbuilt := by
    obtain ⟨found, before, after, hfound, hbefore, hlink⟩ := hkept place index _ hbuilt
    obtain rfl : found = definition := Option.some_inj.1 (hfound.symm.trans hdefinition)
    exact ⟨before, after, hbefore, hlink⟩
  parses depth chain start howned :=
    (Grammar.parseResolved_eq howned (depth + 1) (.linked (.production place index)) chain
      start).symm

/-- **A module that has the productions of some definitions is as they say.** -/
theorem defines_of_productions?
    (hproductions : workspace.productions? place = some (.ofDefinitions definitions))
    (hkept : workspace.KeepsBuilt) : workspace.Defines place definitions where
  names := by rw [hproductions, Option.map_some, Productions.names_ofDefinitions]
  tables := by
    obtain ⟨tables, htables, hhold⟩ := Tables.hold_ofDefinitions? definitions
    exact ⟨tables, _, htables, hproductions, hhold⟩
  produces {name definition} hlast := by
    have hfind := (Productions.find?_ofDefinitions name definitions).trans hlast
    have hname : name ∈ (Productions.ofDefinitions definitions).names := by
      rw [Productions.names_ofDefinitions, List.mem_eraseDups, ← Productions.isSome_last?, hlast]
      rfl
    obtain ⟨index, hindex⟩ := Option.isSome_iff_exists.1 (Productions.isSome_index?.2 hname)
    obtain ⟨found, hproduction, hfound⟩ := Productions.getElem?_of_index? hindex
    obtain rfl : found = definition := Option.some_inj.1 (hfound.symm.trans hfind)
    have hproduction? : workspace.production? place index = some (name, found) := by
      rw [production?, hproductions]
      exact hproduction
    refine ⟨index, ?_, ?_, produces_of_definition? ?_ hkept⟩
    · rw [productionIndex?_eq, hproductions]
      exact hindex
    · rw [productionName?_eq_production?, hproduction?]
      rfl
    · rw [definition?_eq_production?, hproduction?]
      rfl
  others {name} hname := by
    rw [productionIndex?_eq, hproductions, Option.bind_some, ← Option.not_isSome_iff_eq_none,
      Productions.isSome_index?, Productions.names_ofDefinitions, List.mem_eraseDups]
    exact hname
  sibling name := by
    rw [Grammar.link, Name.resolve_eq]
    simp only [bound?, siblingsAt, siblings, Option.bind_some]
    cases workspace.productionIndex? place name <;> rfl
  siblingOr name otherwise := by
    rw [Grammar.link_siblingOr]
    simp only [siblingsAt, siblings, Option.bind_some]
    cases workspace.productionIndex? place name <;> rfl
  putOff {name index} hindex otherwise := by
    simp [Grammar.anchor, siblingsAt, siblings, hindex]

theorem Defines.isSome_productionIndex? (h : workspace.Defines place definitions) {name : String} :
    (workspace.productionIndex? place name).isSome ↔ name ∈ definitions.map Prod.fst := by
  by_cases hname : name ∈ definitions.map Prod.fst
  · obtain ⟨definition, hlast⟩ := Option.isSome_iff_exists.1 (Productions.isSome_last?.2 hname)
    obtain ⟨index, hindex, -, -⟩ := h.produces hlast
    simp [hname, hindex]
  · simp [hname, h.others hname]

end Workspace

/-! ### Modules in sessions -/

namespace Command

def adds? : Command → Option (List (String × Grammar))
  | define _ definitions _ | storeOnly _ definitions _ => some definitions
  | _ => none

def redefined (definitions : List (String × Grammar)) : Command → Command
  | define name _ cached => define name definitions cached
  | storeOnly name _ production => storeOnly name definitions production
  | command => command

end Command

namespace Session

structure Offers (session : Session) (module : String) (place : Nat)
    (definitions : List (String × Grammar)) : Prop where
  has : ∀ production, (session.perform (.has module production)).1
    = .ok (.verdict (production ∈ definitions.map Prod.fst))
  defined : ∀ {production : String}, production ∈ definitions.map Prod.fst →
    ∃ index, session.workspace.productionIndex? place production = some index ∧
      (Grammar.named (.production module production)).link none session.workspace
        = .ok (.linked (.production place index)) session.workspace ∧
      ∀ name, (session.perform (.storeProduction name module production)).1 = .ok .done ∧
        (session.perform (.storeProduction name module production)).2.workspace.parsers.find? name
          = some (.linked (.production place index))
  others : ∀ {production : String}, production ∉ definitions.map Prod.fst →
    (Grammar.named (.production module production)).link none session.workspace
        = .error (.unbound (.production module production)) session.workspace ∧
      ∀ name, (session.perform (.storeProduction name module production)).1
        = .error (.unknownProduction production)

theorem offers_of_defines {session : Session} {module : String} {place : Nat}
    {definitions : List (String × Grammar)}
    (hname : session.workspace.moduleNames.find? module = some place)
    (h : session.workspace.Defines place definitions) :
    session.Offers module place definitions where
  has production := by
    rw [perform_has, hname]
    exact congrArg (Except.ok ∘ Reply.verdict)
      (Bool.eq_iff_iff.2 (h.isSome_productionIndex?.trans decide_eq_true_iff.symm))
  defined {production} hdefined := by
    obtain ⟨index, hindex⟩ := Option.isSome_iff_exists.1 (h.isSome_productionIndex?.2 hdefined)
    refine ⟨index, hindex, ?_, fun name => ?_⟩
    · rw [Grammar.link, Name.resolve_eq]
      simp [Workspace.bound?, hname, hindex]
    · rw [perform_storeProduction]
      simp [hname, hindex, Workspace.storeParser]
  others {production} hother := by
    have hindex := h.others hother
    refine ⟨?_, fun name => ?_⟩
    · rw [Grammar.link, Name.resolve_eq]
      simp [Workspace.bound?, hname, hindex, Name.missing]
    · rw [perform_storeProduction]
      simp [hname, hindex]

/-- What a module is that a command adds to a session. -/
structure AddsModule (session : Session) (asked : Command) (place : Nat)
    (definitions : List (String × Grammar)) : Prop where
  /-- A command that defines a module replies the names that were defined, each once, in the order
  of their first definitions, and gives a name to the module. -/
  names : ∀ {name : String} {cached : Bool}, asked = .define name definitions cached →
    (session.perform asked).1 = .ok (.names (definitions.map Prod.fst).eraseDups) ∧
      (session.perform asked).2.workspace.moduleNames.find? name = some place
  /-- A command that stores a single production does so if it was defined. -/
  single : ∀ {name production : String}, asked = .storeOnly name definitions production →
    (production ∈ definitions.map Prod.fst → (session.perform asked).1 = .ok .done ∧
      ∃ index, (session.perform asked).2.workspace.productionIndex? place production = some index ∧
        (session.perform asked).2.workspace.parsers.find? name
          = some (.linked (.production place index))) ∧
    (production ∉ definitions.map Prod.fst →
      (session.perform asked).1 = .error (.unknownProduction production))
  /-- From then on the module is what the last definitions say, at every step of every parse and
  after every operation. -/
  always : ∀ {later : List Operation} {instant : Instant},
    instant ∈ session.course (.command asked :: later) →
    instant.moment.workspace.Defines place definitions
  /-- Whatever name the module has then offers the productions that were defined. -/
  offers : ∀ {later : List Operation} {module : String},
    (session.operated (.command asked :: later)).workspace.moduleNames.find? module = some place →
    (session.operated (.command asked :: later)).Offers module place definitions
  /-- Wherever a production is parsed, it is parsed as what was built for it, with productions in
  the place of references. -/
  steps : ∀ {later : List Operation} {parse : Parse} {step : Visit} {index : Nat},
    (∀ operation ∈ later, operation.all Grammar.isUnlinked) →
    .visit parse step ∈ session.course (.command asked :: later) →
    step.subject = .built (.linked (.production place index)) →
    step.result = (Run.productionContent place index >>= fun built =>
      Grammar.parseResolved place step.depth (built :: step.held) built step.chain step.start)
        step.before
  /-- With other definitions, but the same last definition of each name, nothing goes differently.
  -/
  order : ∀ {definitions' : List (String × Grammar)} {later : List Operation},
    (∀ name, Productions.last? definitions' name = Productions.last? definitions name) →
    (∀ operation ∈ later, operation.all Grammar.isUnlinked) →
    (session.perform (asked.redefined definitions')).2.responses later
      = (session.perform asked).2.responses later

/-- **Wherever a production is parsed, references into its module are as good as its productions.**
-/
theorem result_of_production {session : Session} (h : session.workspace.Sound)
    {operations : List Operation}
    (hoperations : ∀ operation ∈ operations, operation.all Grammar.isUnlinked) {parse : Parse}
    {step : Visit} {place index : Nat} (hstep : .visit parse step ∈ session.course operations)
    (hsubject : step.subject = .built (.linked (.production place index))) :
    step.result = (Run.productionContent place index >>= fun built =>
      Grammar.parseResolved place step.depth (built :: step.held) built step.chain step.start)
        step.before := by
  have howned : step.before.Owns step.held (.module place) :=
    ((isSound_of_mem_course h hoperations hstep).2.1 _ hsubject).owned _ (List.mem_singleton_self _)
  have hresolved := Grammar.parseResolved_eq howned (step.depth + 1)
    (.linked (.production place index)) step.chain step.start
  rw [Visit.result, hsubject]
  exact hresolved.symm

theorem names_define (session : Session) (name : String) (definitions : List (String × Grammar))
    (cached : Bool) : (session.perform (.define name definitions cached)).1
        = .ok (.names (definitions.map Prod.fst).eraseDups) ∧
      (session.perform (.define name definitions cached)).2.workspace.moduleNames.find? name
        = some session.workspace.modules.size := by
  rw [perform_define, Productions.names_ofDefinitions]
  exact ⟨rfl, Scope.find?_assign_self _ _ _⟩

theorem single_storeOnly (session : Session) (name : String)
    (definitions : List (String × Grammar)) (production : String) :
    (production ∈ definitions.map Prod.fst →
      (session.perform (.storeOnly name definitions production)).1 = .ok .done ∧
      ∃ index,
        (session.perform (.storeOnly name definitions production)).2.workspace.productionIndex?
          session.workspace.modules.size production = some index ∧
        (session.perform (.storeOnly name definitions production)).2.workspace.parsers.find? name
          = some (.linked (.production session.workspace.modules.size index))) ∧
    (production ∉ definitions.map Prod.fst →
      (session.perform (.storeOnly name definitions production)).1
        = .error (.unknownProduction production)) := by
  rw [← List.mem_eraseDups, ← Productions.names_ofDefinitions, ← Productions.isSome_index?,
    perform_storeOnly]
  cases hindex : (Productions.ofDefinitions definitions).index? production with
  | none => simp
  | some index =>
      refine ⟨fun _ => ⟨rfl, index, ?_, by simp [Workspace.storeParser]⟩,
        fun hother => absurd rfl hother⟩
      exact (Workspace.productionIndex?_addModule ..).trans ((if_pos rfl).trans hindex)

section

variable {session : Session} {asked : Command} {definitions : List (String × Grammar)}
  (hadds : asked.adds? = some definitions)

include hadds

theorem productions?_of_adds? : (session.perform asked).2.workspace.productions?
    session.workspace.modules.size = some (.ofDefinitions definitions) := by
  have hadded (cached : Bool) : (session.workspace.clearJournal.addModule
      (.ofDefinitions definitions cached)).productions? session.workspace.modules.size
        = some (.ofDefinitions definitions) :=
    (Workspace.productions?_addModule _ _ _ _).trans (if_pos rfl)
  cases asked with
  | define name _ cached =>
      cases hadds
      exact hadded cached
  | storeOnly name _ production =>
      cases hadds
      rw [perform_storeOnly]
      cases (Productions.ofDefinitions definitions).index? production <;> exact hadded false
  | _ => cases hadds

theorem mem_course_of_adds? {later : List Operation} {instant : Instant} :
    instant ∈ session.course (.command asked :: later) ↔
      instant = .rest (session.perform asked).2.workspace ∨
        instant ∈ (session.perform asked).2.course later := by
  have hnone : session.instants (.command asked) = [] := by
    cases asked with
    | define | storeOnly => rfl
    | _ => cases hadds
  rw [course, hnone, List.nil_append, List.mem_cons]
  rfl

theorem all_of_adds?
    (hdefinitions : definitions.all fun definition => definition.2.all Grammar.isUnlinked) :
    (Operation.command asked).all Grammar.isUnlinked := by
  cases asked with
  | define | storeOnly => cases hadds; exact hdefinitions
  | _ => cases hadds

theorem defines_operated (h : session.workspace.KeepsBuilt) (later : List Operation) :
    (session.operated (.command asked :: later)).workspace.Defines session.workspace.modules.size
      definitions :=
  Workspace.defines_of_productions? (productions?_operated (productions?_of_adds? hadds) later)
    (keepsBuilt_operated h (.command asked :: later))

theorem responses_redefined (hlinked : session.workspace.WellLinked)
    (hunique : session.workspace.parsers.IsUnique)
    (hdefinitions : definitions.all fun definition => definition.2.all Grammar.isUnlinked)
    {definitions' : List (String × Grammar)} {later : List Operation}
    (hsame : ∀ name, Productions.last? definitions' name = Productions.last? definitions name)
    (hlater : ∀ operation ∈ later, operation.all Grammar.isUnlinked) :
    (session.perform (asked.redefined definitions')).2.responses later
      = (session.perform asked).2.responses later := by
  cases asked with
  | define name _ cached =>
      cases hadds
      exact responses_define hlinked hunique hdefinitions hsame name cached hlater
  | storeOnly name _ production =>
      cases hadds
      exact (responses_storeOnly hlinked hunique hdefinitions hsame name production hlater).2
  | _ => cases hadds

theorem defines_of_mem_course (h : session.workspace.KeepsBuilt) {later : List Operation}
    {instant : Instant} (hinstant : instant ∈ session.course (.command asked :: later)) :
    instant.moment.workspace.Defines session.workspace.modules.size definitions := by
  have hproductions : (session.perform asked).2.workspace.productions?
      session.workspace.modules.size = some (.ofDefinitions definitions) :=
    productions?_of_adds? hadds
  have hkept : (session.perform asked).2.workspace.KeepsBuilt :=
    keepsBuilt_operated h [.command asked]
  obtain rfl | hlater := (mem_course_of_adds? hadds).1 hinstant
  · exact Workspace.defines_of_productions? hproductions hkept
  · refine Workspace.defines_of_productions? ?_ ?_
    · exact invariant_of_mem_course (Workspace.invariant_productions _ _) (fun _ h => h)
        (fun _ _ h => h) hproductions hlater
    · exact invariant_of_mem_course Workspace.invariant_keepsBuilt (fun _ h => h)
        (fun _ _ h => h) hkept hlater

end

/-- **A module is the solution of the last definitions of its names**, in every session. -/
theorem addsModule_operated {operations : List Operation} {asked : Command}
    {definitions : List (String × Grammar)}
    (hoperations : ∀ operation ∈ operations, operation.all Grammar.isUnlinked)
    (hadds : asked.adds? = some definitions)
    (hdefinitions : definitions.all fun definition => definition.2.all Grammar.isUnlinked) :
    (({} : Session).operated operations).AddsModule asked
      (({} : Session).operated operations).workspace.modules.size definitions := by
  have hsound : (({} : Session).operated operations).workspace.Sound :=
    sound_operated Workspace.sound_empty hoperations
  have hkept : (({} : Session).operated operations).workspace.KeepsBuilt :=
    keepsBuilt_operated Workspace.keepsBuilt_empty operations
  have hempty : ({} : Session).workspace.parsers.IsUnique := List.nodup_nil
  have hunique : (({} : Session).operated operations).workspace.parsers.IsUnique :=
    isUnique_operated hempty operations
  generalize ({} : Session).operated operations = session at *
  exact {
    names := fun hasked => hasked ▸ names_define session _ _ _
    single := fun hasked => hasked ▸ single_storeOnly session _ _ _
    always := defines_of_mem_course hadds hkept
    offers := fun hname => offers_of_defines hname (defines_operated hadds hkept _)
    steps := fun hlater hstep => result_of_production hsound
      (List.forall_mem_cons.2 ⟨all_of_adds? hadds hdefinitions, hlater⟩) hstep
    order := responses_redefined hadds hsound.wellLinked hunique hdefinitions }

private def readingHistory : List Operation :=
  [.command (.read (.listed #[⟨"letter", "a", ⟨0, 1, 1, 1, 2⟩⟩, ⟨"letter", "b", ⟨1, 1, 2, 1, 3⟩⟩]))]

private def pairDefinition : Grammar :=
  .binary .seq (.leaf (.literal "a")) (.named (.sibling "end"))

/-- One production is defined twice, before the other one and after it. -/
private def redefinedPair : List (String × Grammar) :=
  [("pair", .named (.sibling "pair")), ("end", .leaf (.literal "b")), ("pair", pairDefinition)]

private def orderedPair : List (String × Grammar) :=
  [("end", .leaf (.literal "b")), ("pair", pairDefinition)]

/-- What the first definition says, which would never end, does not count, and neither does the
order. -/
theorem addsModule_operated_pair :
    (∀ operation ∈ readingHistory, operation.all Grammar.isUnlinked) ∧
      (Command.define "words" redefinedPair true).adds? = some redefinedPair ∧
      (redefinedPair.all fun definition => definition.2.all Grammar.isUnlinked) ∧
      (({} : Session).operated readingHistory).AddsModule (.define "words" redefinedPair true)
        (({} : Session).operated readingHistory).workspace.modules.size redefinedPair ∧
      (redefinedPair.map Prod.fst).eraseDups = ["pair", "end"] ∧
      (∀ name, Productions.last? orderedPair name = Productions.last? redefinedPair name) ∧
      (((({} : Session).operated readingHistory).perform
        (.define "words" redefinedPair true)).2.perform
          (.parse (.named (.production "words" "pair")) 0 false)).1.isOk := by
  have hunlinked : ∀ operation ∈ readingHistory, operation.all Grammar.isUnlinked := by decide
  have hdefinitions : redefinedPair.all fun definition => definition.2.all Grammar.isUnlinked := by
    decide
  refine ⟨hunlinked, rfl, hdefinitions, addsModule_operated hunlinked rfl hdefinitions, by decide,
    fun name => ?_, rfl⟩
  simp only [Productions.last?, orderedPair, redefinedPair, List.reverse_cons, List.reverse_nil,
    List.nil_append, List.cons_append, Scope.find?_cons]
  split <;> rfl

end Session

end TokenGrammar
