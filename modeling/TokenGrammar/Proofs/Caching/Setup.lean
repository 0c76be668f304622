import TokenGrammar.Proofs.Sessions
import TokenGrammar.Proofs.Caching.Owners
import TokenGrammar.Proofs.Caching.Tally

/-!
# Setting up alike

Commands set up rules, parsers and modules before anything is parsed. They build grammars and bind
names to them, but nothing that is put off is built yet. If the commands of one session keep less
than those of another, and nothing else is different, then the two workspaces mirror each other
after every one of them, and both sessions refuse the same commands.
-/

namespace TokenGrammar

/-! ### Lists of definitions -/

namespace Named

variable {r : Grammar → Grammar → Prop} {entries entries' : List (String × Grammar)}

theorem remove (h : Named r entries entries') (name : String) :
    Named r (Scope.remove entries name) (Scope.remove entries' name) := by
  induction h with
  | nil => exact .nil
  | @cons entry entry' _ _ hentry _ ih =>
      unfold Scope.remove at ih ⊢
      rw [List.filter_cons, List.filter_cons, hentry.1]
      split
      · exact .cons hentry ih
      · exact ih

theorem assign (h : Named r entries entries') (name : String) {grammar grammar' : Grammar}
    (hgrammar : r grammar grammar') :
    Named r (Scope.assign entries name grammar) (Scope.assign entries' name grammar') :=
  .cons ⟨rfl, hgrammar⟩ (h.remove name)

theorem define (h : Named r entries entries') (name : String) {grammar grammar' : Grammar}
    (hgrammar : r grammar grammar') : Named r (Productions.define entries name grammar)
      (Productions.define entries' name grammar') := by
  induction h with
  | nil => exact .cons ⟨rfl, hgrammar⟩ .nil
  | @cons entry entry' rest rest' hentry hrest ih =>
      obtain ⟨earlier, before⟩ := entry
      obtain ⟨earlier', before'⟩ := entry'
      obtain ⟨rfl, hbefore⟩ := hentry
      rw [Productions.define, Productions.define]
      split
      · exact .cons ⟨rfl, hgrammar⟩ hrest
      · exact .cons ⟨rfl, hbefore⟩ ih

theorem ofDefinitions (h : Named r entries entries') :
    Named r (Productions.ofDefinitions entries) (Productions.ofDefinitions entries') := by
  have hfold : ∀ productions productions' : Productions, Named r productions productions' →
      Named r
        (entries.foldl (fun productions entry => Productions.define productions entry.1 entry.2)
          productions)
        (entries'.foldl (fun productions entry => Productions.define productions entry.1 entry.2)
          productions') := by
    induction h with
    | nil => exact fun _ _ hnamed => hnamed
    | @cons entry entry' _ _ hentry _ ih =>
        obtain ⟨name, definition⟩ := entry
        obtain ⟨name', definition'⟩ := entry'
        obtain ⟨rfl, hdefinition⟩ := hentry
        exact fun productions productions' hnamed => ih _ _ (hnamed.define name hdefinition)
  exact hfold [] [] .nil

theorem self {r' : Grammar → Grammar → Prop} (h : Named r entries entries')
    (hself : ∀ grammar grammar', r grammar grammar' → r' grammar' grammar') :
    Named r' entries' entries' := by
  induction h with
  | nil => exact .nil
  | cons hentry _ ih => exact .cons ⟨rfl, hself _ _ hentry.2⟩ ih

end Named

/-! ### Commands -/

namespace Command

def uncached : Command → Command
  | setRule name pattern => setRule name pattern.uncached
  | store name grammar => store name grammar.uncached
  | define name definitions _ =>
      define name (definitions.map fun definition => (definition.1, definition.2.uncached)) false
  | storeOnly name definitions production =>
      storeOnly name (definitions.map fun definition => (definition.1, definition.2.uncached))
        production
  | parse grammar start represented => parse grammar.uncached start represented
  | trace label grammar start => trace label grammar.uncached start
  | represent grammar => represent grammar.uncached
  | command => command

/-- That the first command is the second one, except that it keeps less. -/
inductive LessCached : Command → Command → Prop where
  | read {source : Source} : LessCached (read source) (read source)
  | openRule {name : String} : LessCached (openRule name) (openRule name)
  | setRule {name : String} {pattern pattern' : Grammar} :
      pattern.LessCached pattern' → LessCached (setRule name pattern) (setRule name pattern')
  | isSet {name : String} : LessCached (isSet name) (isSet name)
  | dropRule {name : String} : LessCached (dropRule name) (dropRule name)
  | store {name : String} {grammar grammar' : Grammar} :
      grammar.LessCached grammar' → LessCached (store name grammar) (store name grammar')
  | dropParser {name : String} : LessCached (dropParser name) (dropParser name)
  | define {name : String} {definitions definitions' : List (String × Grammar)}
      {cached cached' : Bool} :
      Named Grammar.LessCached definitions definitions' → (cached → cached') →
      LessCached (define name definitions cached) (define name definitions' cached')
  | storeOnly {name production : String} {definitions definitions' : List (String × Grammar)} :
      Named Grammar.LessCached definitions definitions' →
      LessCached (storeOnly name definitions production) (storeOnly name definitions' production)
  | has {module production : String} : LessCached (has module production) (has module production)
  | storeProduction {name module production : String} :
      LessCached (storeProduction name module production) (storeProduction name module production)
  | dropModule {name : String} : LessCached (dropModule name) (dropModule name)
  | parse {grammar grammar' : Grammar} {start : Nat} {represented : Bool} :
      grammar.LessCached grammar' →
      LessCached (parse grammar start represented) (parse grammar' start represented)
  | trace {label : String} {grammar grammar' : Grammar} {start : Nat} :
      grammar.LessCached grammar' →
      LessCached (trace label grammar start) (trace label grammar' start)
  | represent {grammar grammar' : Grammar} :
      grammar.LessCached grammar' → LessCached (represent grammar) (represent grammar')

/-- Whether a command neither parses nor prints. -/
def setsUp : Command → Bool
  | parse _ _ _ | trace _ _ _ | represent _ => false
  | _ => true

/-- Whether a command binds no name anew: it parses or prints, or takes a chain to be parsed. -/
def reads : Command → Bool
  | read _ | parse _ _ _ | trace _ _ _ | represent _ => true
  | _ => false

/-- The uncached version keeps less than any command that stores nothing while it builds. -/
theorem uncached_lessCached {command : Command} (hunshared : command.all Grammar.isUnshared) :
    command.uncached.LessCached command := by
  have hnamed : ∀ definitions : List (String × Grammar),
      (∀ definition ∈ definitions, definition.2.all Grammar.isUnshared) →
      Named Grammar.LessCached
        (definitions.map fun definition => (definition.1, definition.2.uncached)) definitions := by
    intro definitions h
    induction definitions with
    | nil => exact .nil
    | cons definition definitions ih =>
        obtain ⟨hdefinition, hrest⟩ := List.forall_mem_cons.1 h
        exact .cons ⟨rfl, definition.2.uncached_lessCached hdefinition⟩ (ih hrest)
  cases command with
  | read => exact .read
  | openRule => exact .openRule
  | setRule name pattern => exact .setRule (pattern.uncached_lessCached hunshared)
  | isSet => exact .isSet
  | dropRule => exact .dropRule
  | store name grammar => exact .store (grammar.uncached_lessCached hunshared)
  | dropParser => exact .dropParser
  | define name definitions cached =>
      exact .define (hnamed definitions (List.all_eq_true.1 hunshared)) fun h => nomatch h
  | storeOnly name definitions production =>
      exact .storeOnly (hnamed definitions (List.all_eq_true.1 hunshared))
  | has => exact .has
  | storeProduction => exact .storeProduction
  | dropModule => exact .dropModule
  | parse grammar start represented => exact .parse (grammar.uncached_lessCached hunshared)
  | trace label grammar start => exact .trace (grammar.uncached_lessCached hunshared)
  | represent grammar => exact .represent (grammar.uncached_lessCached hunshared)

theorem LessCached.self {command command' : Command} (h : command.LessCached command') :
    command'.LessCached command' := by
  cases h with
  | setRule hpattern => exact .setRule hpattern.self
  | store hgrammar => exact .store hgrammar.self
  | define hdefinitions => exact .define (hdefinitions.self fun _ _ hless => hless.self) id
  | storeOnly hdefinitions => exact .storeOnly (hdefinitions.self fun _ _ hless => hless.self)
  | parse hgrammar => exact .parse hgrammar.self
  | trace hgrammar => exact .trace hgrammar.self
  | represent hgrammar => exact .represent hgrammar.self
  | _ => constructor

theorem LessCached.setsUp_eq {command command' : Command} (h : command.LessCached command') :
    command.setsUp = command'.setsUp := by
  cases h <;> rfl

theorem LessCached.reads_eq {command command' : Command} (h : command.LessCached command') :
    command.reads = command'.reads := by
  cases h <;> rfl

theorem all_uncached (command : Command) :
    command.uncached.all Grammar.isUnshared = command.all Grammar.isUnshared := by
  cases command with
  | setRule | store | parse | trace | represent => exact Grammar.all_uncached _
  | define | storeOnly =>
      simp only [uncached, Command.all, List.all_map, Function.comp_def, Grammar.all_uncached]
  | _ => rfl

theorem setsUp_uncached (command : Command) : command.uncached.setsUp = command.setsUp := by
  cases command <;> rfl

theorem reads_uncached (command : Command) : command.uncached.reads = command.reads := by
  cases command <;> rfl

end Command

/-! ### Workspaces in which nothing was built -/

/-- A world in which the cached workspace has built nothing yet. -/
structure World.Prepared (world : World) : Prop where
  valid : world.Valid
  unbuilt : ∀ site, world.cached.contentAt? site = none

namespace World.Prepared

variable {world : World}

theorem plain_unbuilt (h : world.Prepared) (site : Site) : world.plain.contentAt? site = none := by
  cases site with
  | part => rfl
  | cell place =>
      by_contra hsome
      obtain ⟨built, hbuilt⟩ := Option.ne_none_iff_exists'.1 hsome
      obtain ⟨place', built', -, hbuilt', -⟩ := h.valid.cells place built hbuilt
      cases (h.unbuilt (.cell place')).symm.trans hbuilt'
  | production module index =>
      exact h.valid.productionContent?_eq_none (h.unbuilt (.production module index))

/-- Where nothing was built, cells and the journal may stay as they are while everything else
changes. -/
theorem changed (h : world.Prepared) {plain cached : Workspace}
    (hplain : plain.cells = world.plain.cells) (hcached : cached.cells = world.cached.cells)
    (hjournal : plain.journal = world.plain.journal)
    (hjournal' : cached.journal = world.cached.journal)
    (hcontents : ∀ module index, plain.productionContent? module index = none)
    (hcontents' : ∀ module index, cached.productionContent? module index = none)
    (hrules : plain.rules = cached.rules) (hmoduleNames : plain.moduleNames = cached.moduleNames)
    (hparsers : Named world.Mirrors plain.parsers cached.parsers)
    (hsize : plain.slots.size = cached.slots.size)
    (hpatterns : ∀ slot, Option.Rel world.Mirrors (plain.pattern? slot) (cached.pattern? slot))
    (hproductions : ∀ module, Option.Rel (Named Grammar.LessCached) (plain.productions? module)
      (cached.productions? module))
    (hcaches : ∀ module, (plain.cacheSize? module).isSome → (cached.cacheSize? module).isSome)
    (hroomy : ∀ module index definition size, cached.definition? module index = some definition →
      cached.cacheSize? module = some size → index < size) :
    World.Prepared ⟨world.image?, plain, cached⟩ := by
  have hbody : plain.body? = world.plain.body? := by
    funext place
    rw [Workspace.body?, hplain, Workspace.body?]
  have hbody' : cached.body? = world.cached.body? := by
    funext place
    rw [Workspace.body?, hcached, Workspace.body?]
  have hcell : ∀ place, plain.cellContent? place = none := by
    intro place
    rw [Workspace.cellContent?, hplain]
    exact h.plain_unbuilt (.cell place)
  have hcell' : ∀ place, cached.cellContent? place = none := by
    intro place
    rw [Workspace.cellContent?, hcached]
    exact h.unbuilt (.cell place)
  refine ⟨{
    rules := hrules
    moduleNames := hmoduleNames
    parsers := by rwa [hbody']
    slots_size := hsize
    patterns := by rwa [hbody']
    productions := hproductions
    caches := hcaches
    roomy := hroomy
    bodies := by
      rw [hbody, hbody']
      exact h.valid.bodies
    cells := fun place built hbuilt => by
      rw [hcell] at hbuilt
      cases hbuilt
    contents := fun module index built hbuilt => by
      rw [hcontents] at hbuilt
      cases hbuilt
    madeCells := fun place built hbuilt => by
      rw [hcell'] at hbuilt
      cases hbuilt
    madeContents := fun module index built hbuilt => by
      rw [hcontents'] at hbuilt
      cases hbuilt
    builds := by
      rw [hjournal, hjournal']
      exact h.valid.builds }, fun site => ?_⟩
  cases site with
  | part => rfl
  | cell place => exact hcell' place
  | production module index => exact hcontents' module index

theorem contents (h : world.Prepared) (module index : Nat) :
    world.plain.productionContent? module index = none :=
  h.plain_unbuilt (.production module index)

theorem contents' (h : world.Prepared) (module index : Nat) :
    world.cached.productionContent? module index = none :=
  h.unbuilt (.production module index)

theorem renamed (h : world.Prepared) {rules rules' moduleNames moduleNames' : Scope Nat}
    {parsers parsers' : Scope Grammar} (hrules : rules = rules')
    (hmoduleNames : moduleNames = moduleNames') (hparsers : Named world.Mirrors parsers parsers') :
    World.Prepared ⟨world.image?, { world.plain with rules, moduleNames, parsers },
      { world.cached with rules := rules', moduleNames := moduleNames', parsers := parsers' }⟩ :=
  h.changed rfl rfl rfl rfl h.contents h.contents' hrules hmoduleNames hparsers h.valid.slots_size
    h.valid.patterns h.valid.productions h.valid.caches h.valid.roomy

theorem openRule (h : world.Prepared) (name : String) :
    World.Prepared ⟨world.image?, world.plain.openRule name, world.cached.openRule name⟩ := by
  refine h.changed rfl rfl rfl rfl h.contents h.contents' ?_ h.valid.moduleNames h.valid.parsers ?_
    (fun slot => ?_) h.valid.productions h.valid.caches h.valid.roomy
  · simp only [Workspace.openRule, h.valid.rules, h.valid.slots_size]
  · simp only [Workspace.openRule, Array.size_push, h.valid.slots_size]
  · have hpattern : ∀ workspace : Workspace,
        (workspace.openRule name).pattern? slot = workspace.pattern? slot := by
      intro workspace
      simp only [Workspace.pattern?, Workspace.openRule, Array.getElem?_push]
      split
      · rename_i hslot
        rw [hslot, Array.getElem?_eq_none (Nat.le_refl _)]
        rfl
      · rfl
    rw [hpattern, hpattern]
    exact h.valid.patterns slot

theorem fillSlot (h : world.Prepared) (slot : Nat) {pattern pattern' : Grammar}
    (hpattern : world.Mirrors pattern pattern') :
    World.Prepared ⟨world.image?, world.plain.fillSlot slot pattern,
      world.cached.fillSlot slot pattern'⟩ := by
  refine h.changed rfl rfl rfl rfl h.contents h.contents' h.valid.rules h.valid.moduleNames
    h.valid.parsers ?_ (fun other => ?_) h.valid.productions h.valid.caches h.valid.roomy
  · simp only [Workspace.fillSlot, Array.size_setIfInBounds, h.valid.slots_size]
  · by_cases hslot : slot = other
    · subst other
      by_cases hlt : slot < world.plain.slots.size
      · rw [Workspace.pattern?_fillSlot_self _ _ hlt,
          Workspace.pattern?_fillSlot_self _ _ (h.valid.slots_size ▸ hlt)]
        exact .some hpattern
      · have hlt' : ¬slot < world.cached.slots.size := h.valid.slots_size ▸ hlt
        simp only [Workspace.pattern?, Workspace.fillSlot]
        simp [hlt, hlt']
    · rw [Workspace.pattern?_fillSlot_of_ne _ _ hslot, Workspace.pattern?_fillSlot_of_ne _ _ hslot]
      exact h.valid.patterns other

end World.Prepared

/-! ### Modules that are added -/

namespace Workspace

theorem getElem?_addModule (workspace : Workspace) (added : Module) (module : Nat) :
    (workspace.addModule added).modules[module]? =
      if module = workspace.modules.size then some added else workspace.modules[module]? := by
  simp only [Workspace.addModule, Array.getElem?_push]

theorem productions?_addModule (workspace : Workspace) (definitions : List (String × Grammar))
    (cached : Bool) (module : Nat) :
    (workspace.addModule (.ofDefinitions definitions cached)).productions? module
      = if module = workspace.modules.size then some (Productions.ofDefinitions definitions)
        else workspace.productions? module := by
  rw [productions?, getElem?_addModule]
  split <;> rfl

theorem cacheSize?_addModule (workspace : Workspace) (definitions : List (String × Grammar))
    (cached : Bool) (module : Nat) :
    (workspace.addModule (.ofDefinitions definitions cached)).cacheSize? module
      = if module = workspace.modules.size then
          if cached then some (Productions.ofDefinitions definitions).length else none
        else workspace.cacheSize? module := by
  rw [cacheSize?, getElem?_addModule]
  split
  · cases cached <;> simp [Module.ofDefinitions]
  · rfl

theorem productionContent?_addModule {workspace : Workspace}
    (hempty : ∀ module index, workspace.productionContent? module index = none)
    (definitions : List (String × Grammar)) (cached : Bool) (module index : Nat) :
    (workspace.addModule (.ofDefinitions definitions cached)).productionContent? module index
      = none := by
  rw [productionContent?, getElem?_addModule]
  split
  · exact Module.built?_ofDefinitions definitions cached index
  · exact hempty module index

end Workspace

namespace World.Prepared

variable {world : World}

theorem modules_size (h : world.Prepared) :
    world.plain.modules.size = world.cached.modules.size := by
  have hlt : ∀ module, module < world.plain.modules.size ↔ module < world.cached.modules.size := by
    intro module
    have hcell : Keepable.isCell (.module module) = false := rfl
    simpa [Workspace.keepables] using Workspace.Mirrors.mem_keepables h.valid hcell
  exact Nat.le_antisymm (Nat.le_of_not_lt fun hgt => Nat.lt_irrefl _ ((hlt _).1 hgt))
    (Nat.le_of_not_lt fun hgt => Nat.lt_irrefl _ ((hlt _).2 hgt))

theorem addModule (h : world.Prepared) {definitions definitions' : List (String × Grammar)}
    (hdefinitions : Named Grammar.LessCached definitions definitions') {cached cached' : Bool}
    (hcached : cached → cached') : World.Prepared ⟨world.image?,
      world.plain.addModule (.ofDefinitions definitions cached),
      world.cached.addModule (.ofDefinitions definitions' cached')⟩ := by
  refine h.changed rfl rfl rfl rfl
    (Workspace.productionContent?_addModule h.contents definitions cached)
    (Workspace.productionContent?_addModule h.contents' definitions' cached')
    h.valid.rules h.valid.moduleNames h.valid.parsers h.valid.slots_size h.valid.patterns
    (fun module => ?_) (fun module => ?_) (fun module index definition size => ?_)
  · rw [Workspace.productions?_addModule, Workspace.productions?_addModule, h.modules_size]
    split
    · exact .some hdefinitions.ofDefinitions
    · exact h.valid.productions module
  · rw [Workspace.cacheSize?_addModule, Workspace.cacheSize?_addModule, h.modules_size]
    split
    · cases cached with
      | false => exact fun hsome => nomatch hsome
      | true =>
          rw [hcached rfl]
          exact fun _ => rfl
    · exact h.valid.caches module
  · rw [Workspace.definition?_eq, Workspace.productions?_addModule, Workspace.cacheSize?_addModule]
    split
    · intro hdefinition hsize
      obtain ⟨production, hproduction, -⟩ := Option.map_eq_some_iff.1 hdefinition
      have hlt := (List.getElem?_eq_some_iff.1 hproduction).1
      cases cached' with
      | false => cases hsize
      | true =>
          cases hsize
          exact hlt
    · rw [← Workspace.definition?_eq]
      exact h.valid.roomy module index definition size

end World.Prepared

/-! ### Steps -/

/-- Two sessions, and the cells of the second one that stand for cells of the first one. -/
structure Stage where
  image? : Nat → Option Nat
  plain : Session
  cached : Session

namespace Stage

def world (stage : Stage) : World := ⟨stage.image?, stage.plain.workspace, stage.cached.workspace⟩

/-- That two sessions are set up alike so far. -/
structure Prepared (stage : Stage) : Prop where
  chain : stage.plain.chain = stage.cached.chain
  world : stage.world.Prepared

theorem Prepared.mirrors {stage : Stage} (h : stage.Prepared) :
    Workspace.Mirrors stage.image? stage.plain.workspace stage.cached.workspace := h.world.valid

def Alike {α β : Type} (before : Stage) (step : Step α) (step' : Step β)
    (post : Stage → α → β → Prop) : Prop :=
  match step before.plain, step' before.cached with
  | .ok a plain, .ok b cached => ∃ after : Stage, after.plain = plain ∧ after.cached = cached ∧
      after.Prepared ∧ post after a b
  | .error refusal plain, .error refusal' cached => refusal = refusal' ∧
      ∃ after : Stage, after.plain = plain ∧ after.cached = cached ∧ after.Prepared
  | _, _ => False

namespace Alike

variable {α α' β β' : Type} {before : Stage}

theorem pure {a : α} {b : β} {post : Stage → α → β → Prop} (h : before.Prepared)
    (hpost : post before a b) : before.Alike (Pure.pure a) (Pure.pure b) post :=
  ⟨before, rfl, rfl, h, hpost⟩

theorem throw (refusal : Refusal) {post : Stage → α → β → Prop} (h : before.Prepared) :
    before.Alike (MonadExcept.throw refusal) (MonadExcept.throw refusal) post :=
  ⟨rfl, before, rfl, rfl, h⟩

theorem bind {step : Step α} {step' : Step α'} {between : Stage → α → α' → Prop}
    {next : α → Step β} {next' : α' → Step β'} {post : Stage → β → β' → Prop}
    (hstep : before.Alike step step' between)
    (hnext : ∀ (now : Stage) a a', now.Prepared → between now a a' →
      now.Alike (next a) (next' a') post) :
    before.Alike (step >>= next) (step' >>= next') post := by
  unfold Alike at hstep ⊢
  simp only [Bind.bind, EStateM.bind]
  cases hplain : step before.plain <;> cases hcached : step' before.cached <;>
    rw [hplain, hcached] at hstep
  · obtain ⟨now, rfl, rfl, hprepared, hbetween⟩ := hstep
    exact hnext now _ _ hprepared hbetween
  · exact hstep.elim
  · exact hstep.elim
  · exact hstep

theorem workspace {next : Workspace → Step α} {next' : Workspace → Step β}
    {post : Stage → α → β → Prop}
    (h : before.Alike (next before.plain.workspace) (next' before.cached.workspace) post) :
    before.Alike (Step.workspace >>= next) (Step.workspace >>= next') post := h

theorem modifyWorkspace {change change' : Workspace → Workspace} (h : before.Prepared)
    (hworld : World.Prepared ⟨before.image?, change before.plain.workspace,
      change' before.cached.workspace⟩) :
    before.Alike (Step.modifyWorkspace change) (Step.modifyWorkspace change') fun _ _ _ => True :=
  ⟨⟨before.image?, { before.plain with workspace := change before.plain.workspace },
    { before.cached with workspace := change' before.cached.workspace }⟩, rfl, rfl,
    ⟨h.chain, hworld⟩, trivial⟩

theorem demand (h : before.Prepared) (fault : Fault) (value? : Option α) :
    before.Alike (Step.ofRun (Run.demand fault value?)) (Step.ofRun (Run.demand fault value?))
      fun after a b => after = before ∧ a = b := by
  cases value? with
  | none => exact ⟨rfl, before, rfl, rfl, h⟩
  | some value => exact ⟨before, rfl, rfl, h, rfl, rfl⟩

theorem link (h : before.Prepared) {grammar grammar' : Grammar}
    (hless : grammar.LessCached grammar') :
    before.Alike (Step.ofRun (grammar.link none)) (Step.ofRun (grammar'.link none))
      fun after built built' => after.world.Mirrors built built' := by
  have hagrees := World.link_agrees h.world.valid hless none
  have hopens := hless.link_opens none before.cached.workspace
  have hlocal := grammar'.link_failsLocally none before.cached.workspace
  have hunbuilt : ∀ bodies site,
      (before.cached.workspace.openCells bodies).contentAt? site = none := by
    intro bodies site
    have hempty := h.world.unbuilt site
    cases site with
    | cell place => exact (Workspace.cellContent?_openCells _ bodies place).trans hempty
    | _ => exact hempty
  have hprepared : ∀ {now : World} {bodies : List Grammar}, now.Valid →
      now.cached = before.cached.workspace.openCells bodies →
      (⟨now.image?, { before.plain with workspace := now.plain },
        { before.cached with workspace := now.cached }⟩ : Stage).Prepared := by
    intro now bodies hvalid hcached
    refine ⟨h.chain, hvalid, fun site => ?_⟩
    show now.cached.contentAt? site = none
    rw [hcached]
    exact hunbuilt bodies site
  unfold World.Agrees Stage.world at hagrees
  dsimp only at hagrees
  unfold Alike Step.ofRun
  cases hplain : grammar.link none before.plain.workspace with
  | ok built plain =>
      rw [hplain] at hagrees
      cases hcached : grammar'.link none before.cached.workspace with
      | ok built' cached =>
          rw [hcached] at hagrees hopens
          obtain ⟨now, rfl, rfl, -, hvalid, hmirrors, -⟩ := hagrees
          obtain ⟨bodies, heq⟩ := hopens
          exact ⟨_, rfl, rfl, hprepared hvalid heq, hmirrors⟩
      | error fault' cached =>
          rw [hcached] at hagrees
          rw [hagrees] at hcached
          exact nomatch hlocal _ _ hcached
  | error fault plain =>
      rw [hplain] at hagrees
      cases hcached : grammar'.link none before.cached.workspace with
      | ok built' cached =>
          rw [hcached] at hagrees
          exact hagrees.elim
      | error fault' cached =>
          rw [hcached] at hagrees hopens
          rcases hagrees with rfl | ⟨rfl, now, rfl, rfl, -, hvalid⟩
          · exact nomatch hlocal _ _ hcached
          · obtain ⟨bodies, heq⟩ := hopens
            exact ⟨rfl, _, rfl, rfl, hprepared hvalid heq⟩

theorem slotOf (h : before.Prepared) (name : String) :
    before.Alike (Step.slotOf name) (Step.slotOf name) fun after slot slot' =>
      after = before ∧ slot = slot' := by
  refine .workspace ?_
  rw [h.mirrors.rules]
  exact .demand h _ _

theorem moduleOf (h : before.Prepared) (name production : String) :
    before.Alike (Step.moduleOf name production) (Step.moduleOf name production)
      fun after place place' => after = before ∧ place = place' := by
  refine .workspace ?_
  rw [h.mirrors.moduleNames]
  exact .demand h _ _

theorem modifyWorkspace_reply {change change' : Workspace → Workspace} (h : before.Prepared)
    (hworld : World.Prepared ⟨before.image?, change before.plain.workspace,
      change' before.cached.workspace⟩) (reply reply' : Reply) :
    before.Alike (Step.modifyWorkspace change >>= fun _ => Pure.pure reply)
      (Step.modifyWorkspace change' >>= fun _ => Pure.pure reply') fun _ _ _ => True :=
  (modifyWorkspace h hworld).bind fun _ _ _ hnow _ => .pure hnow trivial

theorem addModule (h : before.Prepared) {definitions definitions' : List (String × Grammar)}
    (hdefinitions : Named Grammar.LessCached definitions definitions') {cached cached' : Bool}
    (hcached : cached → cached') :
    before.Alike (Step.addModule definitions cached) (Step.addModule definitions' cached')
      fun _ place place' => place = place' := by
  refine .workspace ((modifyWorkspace h (h.world.addModule hdefinitions hcached)).bind ?_)
  exact fun now _ _ hnow _ => .pure hnow h.world.modules_size

theorem storeParser (h : before.Prepared) (name : String) {grammar grammar' : Grammar}
    (hmirrors : before.world.Mirrors grammar grammar') (reply reply' : Reply) :
    before.Alike (Step.modifyWorkspace (·.storeParser name grammar) >>= fun _ => Pure.pure reply)
      (Step.modifyWorkspace (·.storeParser name grammar') >>= fun _ => Pure.pure reply')
      fun _ _ _ => True := by
  refine modifyWorkspace_reply h ?_ _ _
  exact h.world.renamed h.mirrors.rules h.mirrors.moduleNames
    (h.mirrors.parsers.assign name hmirrors)

theorem storeProductionOf (h : before.Prepared) (place : Nat) (production name : String) :
    before.Alike (Step.storeProductionOf place production name)
      (Step.storeProductionOf place production name) fun _ _ _ => True := by
  refine .workspace ?_
  rw [h.mirrors.productionIndex?]
  cases before.cached.workspace.productionIndex? place production with
  | none => exact .throw _ h
  | some index =>
      have hlinked : before.world.Mirrors (.linked (.production place index))
          (.linked (.production place index)) := .linked (by simp)
      exact .storeParser h name hlinked _ _

end Alike

/-- **Commands that set up do so alike** if those of one session keep less than those of the
other. -/
theorem Prepared.perform {stage : Stage} (h : stage.Prepared) {command command' : Command}
    (hless : command.LessCached command') (hsetsUp : command.setsUp) :
    stage.Alike command.perform command'.perform fun _ _ _ => True := by
  cases hless with
  | @read source =>
      rw [Command.perform]
      cases source.chain with
      | error refusal => exact .throw refusal h
      | ok chain =>
          exact ⟨⟨stage.image?, { stage.plain with chain }, { stage.cached with chain }⟩, rfl, rfl,
            ⟨rfl, h.world⟩, trivial⟩
  | openRule => exact .modifyWorkspace_reply h (h.world.openRule _) _ _
  | setRule hpattern =>
      refine (Alike.slotOf h _).bind ?_
      rintro now slot _ hnow ⟨rfl, rfl⟩
      refine (Alike.link hnow hpattern).bind fun later built built' hlater hmirrors => ?_
      refine .workspace ?_
      rw [isSome_of_rel (hlater.mirrors.patterns slot)]
      split
      · exact .throw .alreadySet hlater
      · exact .modifyWorkspace_reply hlater (hlater.world.fillSlot slot hmirrors) _ _
  | isSet =>
      refine .workspace ((Alike.slotOf h _).bind ?_)
      exact fun now _ _ hnow _ => .pure hnow trivial
  | dropRule =>
      refine .workspace (.modifyWorkspace_reply h ?_ _ _)
      exact h.world.renamed (congrArg (Scope.remove · _) h.mirrors.rules) h.mirrors.moduleNames
        h.mirrors.parsers
  | store hgrammar =>
      refine (Alike.link h hgrammar).bind fun now built built' hnow hmirrors => ?_
      exact .storeParser hnow _ hmirrors _ _
  | dropParser =>
      refine .workspace (.modifyWorkspace_reply h ?_ _ _)
      exact h.world.renamed h.mirrors.rules h.mirrors.moduleNames (h.mirrors.parsers.remove _)
  | define hdefinitions hcached =>
      refine (Alike.addModule h hdefinitions hcached).bind ?_
      rintro now place _ hnow rfl
      refine .modifyWorkspace_reply hnow ?_ _ _
      exact hnow.world.renamed hnow.mirrors.rules
        (congrArg (Scope.assign · _ place) hnow.mirrors.moduleNames) hnow.mirrors.parsers
  | storeOnly hdefinitions =>
      refine (Alike.addModule h hdefinitions id).bind ?_
      rintro now place _ hnow rfl
      exact .storeProductionOf hnow _ _ _
  | has =>
      refine (Alike.moduleOf h _ _).bind fun now _ _ hnow _ => ?_
      exact .workspace (.pure hnow trivial)
  | storeProduction =>
      refine (Alike.moduleOf h _ _).bind ?_
      rintro now place _ hnow ⟨rfl, rfl⟩
      exact .storeProductionOf hnow _ _ _
  | dropModule =>
      refine .workspace (.modifyWorkspace_reply h ?_ _ _)
      exact h.world.renamed h.mirrors.rules (congrArg (Scope.remove · _) h.mirrors.moduleNames)
        h.mirrors.parsers
  | parse | trace | represent => cases hsetsUp

/-! ### Sessions -/

theorem Prepared.clearJournal {stage : Stage} (h : stage.Prepared) : Prepared
    ⟨stage.image?, { stage.plain with workspace := stage.plain.workspace.clearJournal },
      { stage.cached with workspace := stage.cached.workspace.clearJournal }⟩ where
  chain := h.chain
  world := ⟨h.mirrors.modifyJournal (fun _ => {}) (fun _ => {}) (Nat.le_refl _), h.world.unbuilt⟩

/-- **Two sessions are set up alike, or both are refused**, if all commands of the one keep less
than those of the other. -/
theorem Prepared.performAll {stage : Stage} (h : stage.Prepared) {commands commands' : List Command}
    (hless : List.Forall₂ Command.LessCached commands commands')
    (hsetsUp : ∀ command ∈ commands, command.setsUp) :
    match stage.plain.performAll commands, stage.cached.performAll commands' with
    | .ok plain, .ok cached =>
        ∃ after : Stage, after.plain = plain ∧ after.cached = cached ∧ after.Prepared
    | .error refusal, .error refusal' => refusal = refusal'
    | _, _ => False := by
  induction hless generalizing stage with
  | nil => exact ⟨stage, rfl, rfl, h⟩
  | @cons command command' commands commands' hcommand _ ih =>
      obtain ⟨hkind, hrest⟩ := List.forall_mem_cons.1 hsetsUp
      have halike := h.clearJournal.perform hcommand hkind
      unfold Alike at halike
      rw [Session.performAll, Session.performAll, Session.perform, Session.perform]
      dsimp only at halike ⊢
      cases hplain : command.perform _ with
      | ok reply plain =>
          rw [hplain] at halike
          cases hcached : command'.perform _ with
          | ok reply' cached =>
              rw [hcached] at halike
              obtain ⟨now, rfl, rfl, hnow, -⟩ := halike
              exact ih hnow hrest
          | error refusal' cached =>
              rw [hcached] at halike
              exact halike.elim
      | error refusal plain =>
          rw [hplain] at halike
          cases hcached : command'.perform _ with
          | ok reply' cached =>
              rw [hcached] at halike
              exact halike.elim
          | error refusal' cached =>
              rw [hcached] at halike
              obtain ⟨rfl, now, rfl, rfl, hnow⟩ := halike
              cases hminor : refusal.isMinor with
              | true => simpa only [hminor, if_true] using ih hnow hrest
              | false => simp only [hminor, Bool.false_eq_true, if_false]

theorem prepared_empty : (⟨fun _ => none, {}, {}⟩ : Stage).Prepared where
  chain := rfl
  world := {
    valid := {
      rules := rfl
      moduleNames := rfl
      parsers := .nil
      slots_size := rfl
      patterns := fun _ => .none
      productions := fun _ => .none
      caches := fun _ => id
      roomy := fun _ _ _ _ hdefinition => nomatch hdefinition
      bodies := fun _ _ himage => nomatch himage
      cells := fun _ _ hbuilt => nomatch hbuilt
      contents := fun _ _ _ hbuilt => nomatch hbuilt
      madeCells := fun _ _ hbuilt => nomatch hbuilt
      madeContents := fun _ _ _ hbuilt => nomatch hbuilt
      builds := Nat.le_refl _ }
    unbuilt := fun site => by cases site <;> rfl }

end Stage

end TokenGrammar
