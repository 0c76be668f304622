import TokenGrammar.Proofs.Steps

/-!
# Linking while a grammar is parsed

The changes that a run makes to its workspace, and linking, which is made of them. Each change keeps
the workspace on the track of the one at the beginning (`Workspace.Follows`), and cells are only
added. So what was known to be a construction before stays one, and `Grammar.link_builds` yields a
construction of the part that is linked.
-/

namespace TokenGrammar

namespace Workspace

variable {workspace : Workspace} {root : Grammar} {now : Workspace}

/-! ### Changes -/

theorem Follows.refl (workspace : Workspace) (root : Grammar) :
    workspace.Follows root workspace where
  slots := rfl
  rules := rfl
  moduleNames := rfl
  definition? _ _ := rfl
  productionIndex? _ _ := rfl
  parsers _ _ h := .inl h
  productions _ _ _ h := .inl h
  keptProductions _ _ _ h := h
  size_le := Nat.le_refl _
  cells place cell built hcell hbuilt := .inl (by simp [cellContent?, hcell, hbuilt])
  keptCells _ cell h := ⟨cell, h, rfl, fun _ hbuilt => hbuilt⟩
  opened place cell hplace hcell := by
    rw [Array.getElem?_eq_none hplace] at hcell
    cases hcell

theorem Follows.siblingsAt (h : workspace.Follows root now) (home? : Option Nat) :
    now.siblingsAt home? = workspace.siblingsAt home? := by
  funext name
  cases home? with
  | none => rfl
  | some home => exact congrArg (Option.map _) (h.productionIndex? home name)

theorem Follows.pattern? (h : workspace.Follows root now) (slot : Nat) :
    now.pattern? slot = workspace.pattern? slot := by
  rw [Workspace.pattern?, h.slots, Workspace.pattern?]

theorem Follows.modifyJournal (h : workspace.Follows root now) (change : Journal → Journal) :
    workspace.Follows root (now.modifyJournal change) :=
  { h with }

theorem grows_openCell (now : Workspace) (body : Grammar) : now.Grows (now.openCell body) := by
  intro place body' hbody
  obtain ⟨cell, hcell, rfl⟩ := Option.map_eq_some_iff.1 hbody
  have hlt : place < now.cells.size := (Array.getElem?_eq_some_iff.1 hcell).1
  simp [body?, openCell, Array.getElem?_push, Nat.ne_of_lt hlt, hcell]

theorem body?_openCell_self (now : Workspace) (body : Grammar) :
    (now.openCell body).body? now.cells.size = some body := by
  simp [body?, openCell]

theorem Follows.openCell (h : workspace.Follows root now) {home? : Option Nat}
    {part body : Grammar} (hpart : workspace.Comprises root home? (.deferredOnce part))
    (hbody : workspace.Presents home? part none body) :
    workspace.Follows root (now.openCell body) where
  slots := h.slots
  rules := h.rules
  moduleNames := h.moduleNames
  definition? := h.definition?
  productionIndex? := h.productionIndex?
  parsers label built hbuilt := (h.parsers label built hbuilt).imp_right
    fun ⟨home?, part, hshared, hbuilds⟩ =>
      ⟨home?, part, hshared, hbuilds.mono (grows_openCell now body)⟩
  productions module index built hbuilt := (h.productions module index built hbuilt).imp_right
    fun ⟨definition, hdefinition, hbuilds⟩ =>
      ⟨definition, hdefinition, hbuilds.mono (grows_openCell now body)⟩
  keptProductions := h.keptProductions
  size_le := Nat.le_trans h.size_le (by simp [Workspace.openCell])
  cells place cell built hcell hbuilt := by
    simp only [Workspace.openCell, Array.getElem?_push] at hcell
    split at hcell
    · cases hcell
      cases hbuilt
    · refine (h.cells place cell built hcell hbuilt).imp_right ?_
      exact fun hbuilds home? part hcomprises hpresents =>
        (hbuilds home? part hcomprises hpresents).mono (grows_openCell now body)
  keptCells place cell hcell := by
    obtain ⟨content, hcontent, hrest⟩ := h.keptCells place cell hcell
    have hlt : place < now.cells.size := (Array.getElem?_eq_some_iff.1 hcontent).1
    refine ⟨content, ?_, hrest⟩
    simp [Workspace.openCell, Array.getElem?_push, Nat.ne_of_lt hlt, hcontent]
  opened place cell hplace hcell := by
    simp only [Workspace.openCell, Array.getElem?_push] at hcell
    split at hcell
    · cases hcell
      exact ⟨home?, part, hpart, hbody⟩
    · exact h.opened place cell hplace hcell

theorem Follows.storeParser (h : workspace.Follows root now) {home? : Option Nat} {label : String}
    {part built : Grammar} (hpart : workspace.Comprises root home? (.shared label part))
    (hbuilt : Builds workspace root now.body? home? part built) :
    workspace.Follows root (now.storeParser label built) :=
  { h with
    parsers := fun label' built' hfind => by
      by_cases hlabel : label' = label
      · subst hlabel
        rw [Workspace.storeParser, Scope.find?_assign_self] at hfind
        cases hfind
        exact .inr ⟨home?, part, hpart, hbuilt⟩
      · rw [Workspace.storeParser, Scope.find?_assign_of_ne _ _ hlabel] at hfind
        exact h.parsers label' built' hfind }

theorem body?_fillCell (now : Workspace) (place : Nat) (built : Grammar) :
    (now.fillCell place built).body? = now.body? := by
  funext place'
  simp only [body?, fillCell, Array.getElem?_modify]
  split
  · simp [Option.map_map, Function.comp_def]
  · rfl

theorem grows_fillCell (now : Workspace) (place : Nat) (built : Grammar) :
    now.Grows (now.fillCell place built) := by
  intro place' body hbody
  rw [body?_fillCell]
  exact hbody

/-- What a cell holds may be kept if it is a construction of all that the waiting part presents. -/
theorem Follows.fillCell (h : workspace.Follows root now) {place : Nat} {body built : Grammar}
    (hbody : now.body? place = some body) (hempty : workspace.cellContent? place = none)
    (hbuilt : ∀ home? part, workspace.Comprises root home? part →
      workspace.Presents home? part none body →
        Builds workspace root now.body? home? part built) :
    workspace.Follows root (now.fillCell place built) := by
  have hfilled : ∀ place', (now.fillCell place built).cells[place']?
      = if place = place' then
          now.cells[place']?.map fun content => { content with built? := some built }
        else now.cells[place']? := fun place' => by
    simp only [Workspace.fillCell, Array.getElem?_modify]
  constructor
  case slots => exact h.slots
  case rules => exact h.rules
  case moduleNames => exact h.moduleNames
  case definition? => exact h.definition?
  case productionIndex? => exact h.productionIndex?
  case parsers =>
    rw [body?_fillCell]
    exact h.parsers
  case productions =>
    rw [body?_fillCell]
    exact h.productions
  case keptProductions => exact h.keptProductions
  case size_le => simpa [Workspace.fillCell] using h.size_le
  case cells =>
    intro place' content built' hcontent hbuilt'
    rw [body?_fillCell]
    rw [hfilled] at hcontent
    split at hcontent
    · subst place'
      obtain ⟨cell, hcell, rfl⟩ := Option.map_eq_some_iff.1 hcontent
      cases hbuilt'
      rw [body?, hcell] at hbody
      cases hbody
      exact .inr hbuilt
    · exact h.cells place' content built' hcontent hbuilt'
  case keptCells =>
    intro place' cell' hcell'
    obtain ⟨content, hcontent, hsame, hkept⟩ := h.keptCells place' cell' hcell'
    by_cases hplace : place = place'
    · subst place'
      refine ⟨{ content with built? := some built }, by rw [hfilled, if_pos rfl, hcontent]; rfl,
        hsame, fun built' hbuilt' => ?_⟩
      simp [cellContent?, hcell', hbuilt'] at hempty
    · exact ⟨content, by rw [hfilled, if_neg hplace, hcontent], hsame, hkept⟩
  case opened =>
    intro place' content hplace' hcontent
    rw [hfilled] at hcontent
    split at hcontent
    · obtain ⟨content', hcontent', rfl⟩ := Option.map_eq_some_iff.1 hcontent
      exact h.opened place' content' hplace' hcontent'
    · exact h.opened place' content hplace' hcontent

theorem definition?_fillProduction (now : Workspace) (module index : Nat) (built : Grammar)
    (module' index' : Nat) :
    (now.fillProduction module index built).definition? module' index'
      = now.definition? module' index' := by
  simp only [definition?, fillProduction, Array.getElem?_modify]
  split
  · cases now.modules[module']? <;> rfl
  · rfl

theorem productionIndex?_fillProduction (now : Workspace) (module index : Nat) (built : Grammar)
    (module' : Nat) (name : String) :
    (now.fillProduction module index built).productionIndex? module' name
      = now.productionIndex? module' name := by
  simp only [productionIndex?, fillProduction, Array.getElem?_modify]
  split
  · cases now.modules[module']? <;> rfl
  · rfl

theorem productionContent?_fillProduction_of_ne (now : Workspace) {module index : Nat}
    (built : Grammar) {module' index' : Nat} (hne : ¬(module = module' ∧ index = index')) :
    (now.fillProduction module index built).productionContent? module' index'
      = now.productionContent? module' index' := by
  simp only [productionContent?, fillProduction, Array.getElem?_modify]
  split
  · rename_i hmodule
    have hindex : index ≠ index' := fun hindex => hne ⟨hmodule, hindex⟩
    cases now.modules[module']? with
    | none => rfl
    | some found =>
        cases hcache : found.cache? with
        | none => simp [Module.built?, Module.keepBuilt, hcache]
        | some cache =>
            simp [Module.built?, Module.keepBuilt, hcache, Array.getElem?_setIfInBounds_ne hindex]
  · rfl

theorem productionContent?_fillProduction_self (now : Workspace) {module index : Nat}
    {built built' : Grammar} (hkept :
      (now.fillProduction module index built).productionContent? module index = some built') :
    built' = built := by
  simp only [productionContent?, fillProduction, Array.getElem?_modify, if_pos] at hkept
  cases hfound : now.modules[module]? with
  | none => simp [hfound] at hkept
  | some found =>
      cases hcache : found.cache? with
      | none => simp [hfound, Module.built?, Module.keepBuilt, hcache] at hkept
      | some cache =>
          simp only [hfound, Option.map_some, Option.bind_some, Module.built?, Module.keepBuilt,
            hcache, Option.bind_eq_bind, Array.getElem?_setIfInBounds, if_true] at hkept
          split at hkept
          · simpa using hkept.symm
          · simp at hkept

theorem Follows.fillProduction (h : workspace.Follows root now) {module index : Nat}
    {definition built : Grammar} (hempty : workspace.productionContent? module index = none)
    (hdefinition : workspace.definition? module index = some definition)
    (hbuilt : Builds workspace root now.body? (some module) definition built) :
    workspace.Follows root (now.fillProduction module index built) :=
  { h with
    definition? := fun module' index' =>
      (definition?_fillProduction now module index built module' index').trans
        (h.definition? module' index')
    productionIndex? := fun module' name =>
      (productionIndex?_fillProduction now module index built module' name).trans
        (h.productionIndex? module' name)
    productions := fun module' index' built' hkept => by
      by_cases hsame : module = module' ∧ index = index'
      · obtain ⟨rfl, rfl⟩ := hsame
        cases productionContent?_fillProduction_self now hkept
        exact .inr ⟨definition, hdefinition, hbuilt⟩
      · rw [productionContent?_fillProduction_of_ne now built hsame] at hkept
        exact h.productions module' index' built' hkept
    keptProductions := fun module' index' built' hkept => by
      by_cases hsame : module = module' ∧ index = index'
      · obtain ⟨rfl, rfl⟩ := hsame
        rw [hempty] at hkept
        cases hkept
      · rw [productionContent?_fillProduction_of_ne now built hsame,
          h.keptProductions module' index' built' hkept] }

end Workspace

/-! ### Linking -/

section Linking

variable {workspace : Workspace} {root : Grammar}

/-- A stretch of a run in which no leaf is tried. -/
structure Advances (workspace : Workspace) (root : Grammar) (before after : Workspace) : Prop where
  follows : workspace.Follows root after
  grows : before.Grows after
  misses : after.journal.misses = before.journal.misses

theorem Advances.trans {before between after : Workspace}
    (h : Advances workspace root before between) (h' : Advances workspace root between after) :
    Advances workspace root before after :=
  ⟨h'.follows, h.grows.trans h'.grows, h'.misses.trans h.misses⟩

/-- A stretch of a run that yields a construction of a part. -/
structure Linked (workspace : Workspace) (root : Grammar) (home? : Option Nat) (part : Grammar)
    (before : Workspace) (built : Grammar) (after : Workspace) : Prop
    extends Advances workspace root before after where
  builds : Builds workspace root after.body? home? part built

theorem Linked.after {home? : Option Nat} {part built : Grammar} {before between after : Workspace}
    (hadvances : Advances workspace root before between)
    (h : Linked workspace root home? part between built after) :
    Linked workspace root home? part before built after :=
  ⟨hadvances.trans h.toAdvances, h.builds⟩

theorem Linked.standing {home? home'? : Option Nat} {part grammar built : Grammar}
    {before after : Workspace} (h : Linked workspace root home'? grammar before built after)
    (hlink : ∀ target, part ≠ .linked target)
    (hstands : workspace.StandsFor root home? part home'? grammar) :
    Linked workspace root home? part before built after :=
  ⟨h.toAdvances, .standing hlink hstands h.builds⟩

def Opens (workspace : Workspace) (root : Grammar) (home? : Option Nat) (part : Grammar)
    (before : Workspace) (built : Grammar) (after : Workspace) : Prop :=
  ∃ home'? grammar, workspace.StandsFor root home? part home'? grammar ∧
    Linked workspace root home'? grammar before built after

theorem Opens.exists_linked {home? : Option Nat} {part built : Grammar} {before after : Workspace}
    (h : Opens workspace root home? part before built after)
    (hcomprises : workspace.Comprises root home? part) :
    ∃ home'? grammar, workspace.Comprises root home'? grammar ∧
      Linked workspace root home'? grammar before built after := by
  obtain ⟨home'?, grammar, hstands, hlinked⟩ := h
  exact ⟨home'?, grammar, hcomprises.standsFor hstands, hlinked⟩

theorem Opens.after {home? : Option Nat} {part built : Grammar} {before between after : Workspace}
    (hadvances : Advances workspace root before between)
    (h : Opens workspace root home? part between built after) :
    Opens workspace root home? part before built after := by
  obtain ⟨home'?, grammar, hstands, hlinked⟩ := h
  exact ⟨home'?, grammar, hstands, hlinked.after hadvances⟩

theorem Opens.of_standsFor {now : Workspace} (h : workspace.Follows root now)
    {home? home'? : Option Nat} {part grammar built : Grammar}
    (hstands : workspace.StandsFor root home? part home'? grammar)
    (hbuilds : Builds workspace root now.body? home'? grammar built) :
    Opens workspace root home? part now built now :=
  ⟨home'?, grammar, hstands, ⟨h, .refl now, rfl⟩, hbuilds⟩

theorem Linked.of_standsFor {now : Workspace} (h : workspace.Follows root now)
    {home? home'? : Option Nat} {part grammar built : Grammar}
    (hlink : ∀ target, part ≠ .linked target)
    (hstands : workspace.StandsFor root home? part home'? grammar)
    (hbuilds : Builds workspace root now.body? home'? grammar built) :
    Linked workspace root home? part now built now :=
  ⟨⟨h, .refl now, rfl⟩, .standing hlink hstands hbuilds⟩

/-- Only the names of stored parsers may come to be bound to something else. -/
theorem Workspace.Follows.bound? {now : Workspace} (h : workspace.Follows root now)
    (home? : Option Nat) {name : Name} (hname : ∀ label, name ≠ .parser label) :
    now.bound? home? name = workspace.bound? home? name := by
  cases name with
  | rule label => rw [Workspace.bound?, h.rules, Workspace.bound?]
  | handle label => rw [Workspace.bound?, h.rules, Workspace.bound?]
  | parser label => exact absurd rfl (hname label)
  | production owner label =>
      simp only [Workspace.bound?, h.moduleNames, h.productionIndex?]
  | sibling label => rw [Workspace.bound?, h.siblingsAt, Workspace.bound?]

theorem Name.resolve_builds {home? at? : Option Nat} {name : Name} {before after : Workspace}
    {built : Grammar} (hhome : ∀ label, name = .sibling label → at? = home?)
    (h : workspace.Follows root before) (hrun : name.resolve at? before = .ok built after) :
    Linked workspace root home? (.named name) before built after := by
  obtain ⟨hbound, rfl⟩ := Name.resolve_eq_ok hrun
  have hunfolded : workspace.bound? home? name = some built →
      Linked workspace root home? (.named name) after built after := fun hfound => by
    have hunfold : workspace.meaning? home? (.named name) = some (none, built) := by
      simp [Workspace.meaning?, hfound]
    exact .of_standsFor h (by simp) (.unfolded hunfold) (.refl _ built)
  cases name with
  | parser label =>
      obtain hfind | ⟨home'?, part, hshared, hbuilds⟩ := h.parsers label built hbound
      · exact hunfolded hfind
      · exact .of_standsFor h (by simp) (.stored hshared) hbuilds
  | sibling label =>
      obtain rfl := hhome label rfl
      rw [h.bound? at? (by simp)] at hbound
      exact hunfolded hbound
  | rule label | handle label | production owner label =>
      rw [h.bound? at? (by simp)] at hbound
      exact hunfolded hbound

theorem Workspace.Presents.resolve_builds {home? at? : Option Nat} {name : Name}
    {grammar built : Grammar} {before after : Workspace}
    (hpresents : workspace.Presents home? (.named name) at? grammar)
    (h : workspace.Follows root before) (hrun : grammar.link at? before = .ok built after) :
    Linked workspace root home? (.named name) before built after := by
  obtain ⟨rfl, rfl⟩ | ⟨rfl, rfl⟩ := hpresents
  · exact Name.resolve_builds (fun _ _ => rfl) h hrun
  · cases name with
    | sibling label =>
        cases hfind : workspace.siblingsAt home? label with
        | none =>
            -- What was anchored keeps the name of a sibling only if there is none.
            simp only [Grammar.anchor, hfind] at hrun
            have hbound := (Name.resolve_eq_ok hrun).1
            simp [Workspace.bound?, Workspace.siblingsAt] at hbound
        | some target =>
            simp only [Grammar.anchor, hfind] at hrun
            obtain ⟨rfl, rfl⟩ := Run.pure_eq_ok_iff.1 hrun
            have hunfold : workspace.meaning? home? (.named (.sibling label))
                = some (none, .linked target) := by
              simp [Workspace.meaning?, Workspace.bound?, hfind]
            exact .of_standsFor h (by simp) (.unfolded hunfold) .linked
    | rule label | handle label | parser label | production owner label =>
        exact Name.resolve_builds (by simp) h hrun

/-- **Linking constructs the part that is linked**, by induction on the part. -/
theorem Grammar.link_builds :
    ∀ (part : Grammar) {home? at? : Option Nat} {grammar built : Grammar}
      {before after : Workspace}, workspace.Comprises root home? part →
      workspace.Presents home? part at? grammar → workspace.Follows root before →
      grammar.link at? before = .ok built after →
      Linked workspace root home? part before built after
  | .leaf matcher, _, _, _, _, _, _, _, hpresents, h, hrun => by
      obtain rfl := hpresents.leaf
      cases linksTo_of_link hrun
      exact ⟨⟨h, .refl _, rfl⟩, .leaf⟩
  | .unary operator part, _, _, _, _, _, _, hcomprises, hpresents, h, hrun => by
      obtain ⟨part', rfl, hpart⟩ := hpresents.unary
      cases linksTo_of_link hrun with
      | unary hlink =>
          have hlinked := part.link_builds hcomprises.part hpart h hlink
          exact ⟨hlinked.toAdvances, .unary hlinked.builds⟩
  | .binary operator first second, _, _, _, _, _, _, hcomprises, hpresents, h, hrun => by
      obtain ⟨first', second', rfl, hfirst, hsecond⟩ := hpresents.binary
      cases linksTo_of_link hrun with
      | binary hlink hlink' =>
          have hlinked := first.link_builds hcomprises.first hfirst h hlink
          have hlinked' := second.link_builds hcomprises.second hsecond hlinked.follows hlink'
          exact ⟨hlinked.toAdvances.trans hlinked'.toAdvances,
            .binary (hlinked.builds.mono hlinked'.grows) hlinked'.builds⟩
  | .bind part next, _, at?, _, _, _, _, hcomprises, hpresents, h, hrun => by
      obtain ⟨part', next', rfl, hpart, hnext⟩ := hpresents.bind
      cases linksTo_of_link hrun with
      | bind hlink =>
          have hlinked := part.link_builds hcomprises.selecting hpart h hlink
          rw [← hlinked.follows.siblingsAt at?] at hnext
          exact ⟨hlinked.toAdvances, .bind hlinked.builds hnext⟩
  | .traced label part, _, _, _, _, _, _, hcomprises, hpresents, h, hrun => by
      obtain ⟨part', rfl, hpart⟩ := hpresents.traced
      cases linksTo_of_link hrun with
      | traced hlink =>
          have hlinked := part.link_builds (hcomprises.unfolded rfl) hpart h hlink
          exact ⟨hlinked.toAdvances, .traced hlinked.builds⟩
  | .deferred part, _, at?, _, _, _, _, _, hpresents, h, hrun => by
      obtain ⟨part', rfl, hpart⟩ := hpresents.deferred
      cases linksTo_of_link hrun
      refine ⟨⟨h, .refl _, rfl⟩, .deferred (.inr ⟨?_, rfl⟩)⟩
      rw [h.siblingsAt at?, hpart.anchor]
  | .deferredOnce part, home?, at?, _, _, before, _, hcomprises, hpresents, h, hrun => by
      obtain ⟨part', rfl, hpart⟩ := hpresents.deferredOnce
      cases linksTo_of_link hrun
      have hbody : workspace.Presents home? part none
          (part'.anchor (before.siblingsAt at?)) := by
        rw [h.siblingsAt at?, hpart.anchor]
        exact .inr ⟨rfl, rfl⟩
      exact ⟨⟨h.openCell hcomprises hbody, before.grows_openCell _, rfl⟩,
        .opened h.size_le (before.body?_openCell_self _) hbody⟩
  | .named name, _, _, _, _, _, _, _, hpresents, h, hrun => hpresents.resolve_builds h hrun
  | .siblingOr name otherwise, home?, at?, _, _, _, _, hcomprises, hpresents, h, hrun => by
      cases hfind : workspace.siblingsAt home? name with
      | none =>
          have hunfold : workspace.meaning? home? (.siblingOr name otherwise)
              = some (home?, otherwise) := by
            simp [Workspace.meaning?, hfind]
          have hcomprises' := hcomprises.unfolded hunfold
          obtain ⟨rfl, rfl⟩ | ⟨rfl, rfl⟩ := hpresents
          · rw [link_siblingOr, h.siblingsAt at?, hfind] at hrun
            exact (otherwise.link_builds hcomprises' (.refl _ _ _) h hrun).standing (by simp)
              (.unfolded hunfold)
          · simp only [Grammar.anchor, hfind] at hrun
            exact (otherwise.link_builds hcomprises' (.inr ⟨rfl, rfl⟩) h hrun).standing (by simp)
              (.unfolded hunfold)
      | some target =>
          have hunfold : workspace.meaning? home? (.siblingOr name otherwise)
              = some (none, .linked target) := by
            simp [Workspace.meaning?, hfind]
          obtain ⟨rfl, rfl⟩ | ⟨rfl, rfl⟩ := hpresents
          · rw [link_siblingOr, h.siblingsAt at?, hfind] at hrun
            cases hrun
            exact .of_standsFor h (by simp) (.unfolded hunfold) .linked
          · simp only [Grammar.anchor, hfind] at hrun
            cases linksTo_of_link hrun
            exact .of_standsFor h (by simp) (.unfolded hunfold) .linked
  | .shared label part, _, _, _, _, _, _, hcomprises, hpresents, h, hrun => by
      obtain ⟨part', rfl, hpart⟩ := hpresents.shared
      cases linksTo_of_link hrun with
      | shared hlink =>
          have hlinked := part.link_builds (hcomprises.unfolded rfl) hpart h hlink
          exact ⟨⟨hlinked.follows.storeParser hcomprises hlinked.builds, hlinked.grows,
            hlinked.misses⟩, .standing (by simp) (.unfolded rfl) hlinked.builds⟩
  | .linked target, _, _, _, _, _, _, _, hpresents, h, hrun => by
      obtain rfl := hpresents.linked
      cases linksTo_of_link hrun
      exact ⟨⟨h, .refl _, rfl⟩, .linked⟩

end Linking

end TokenGrammar
