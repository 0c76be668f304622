import TokenGrammar.Proofs.Caching.Building

/-!
# A plainer workspace and its mirror image

What holds between the two workspaces at every moment: names are bound alike, patterns and stored
parsers mirror each other, and whatever the plainer one has kept, the other one has kept too. What
the cached workspace has kept was built under the names that it still has. So it can stand in for
what the plainer one builds now, and it keeps nothing alive that a name does not keep alive anyway.
-/

namespace TokenGrammar

namespace Workspace

/-- That a grammar was built from a part at some time, when names were bound as they are now. -/
structure Made (workspace : Workspace) (home? : Option Nat) (part built : Grammar) : Prop where
  self : part.LessCached part
  linked : ∃ before after : Workspace, before.SameScope workspace ∧
    part.link home? before = .ok built after ∧ after.Grows workspace

theorem Made.mono {before after : Workspace} {home? : Option Nat} {part built : Grammar}
    (h : before.Made home? part built) (hcontinues : before.Continues after) :
    after.Made home? part built := by
  obtain ⟨first, last, hscope, hlink, hgrows⟩ := h.linked
  exact ⟨h.self, first, last, hscope.trans hcontinues.toSameScope, hlink,
    hgrows.trans hcontinues.bodies⟩

theorem Made.isKeptByName {workspace : Workspace} {home? : Option Nat} {part built : Grammar}
    (h : workspace.Made home? part built) {keepable : Keepable} (hcell : keepable.isCell = false)
    (hkeeps : keepable ∈ built.keeps) : workspace.isKeptByName keepable := by
  obtain ⟨first, last, hscope, hlink, -⟩ := h.linked
  rw [hscope.isKeptByName]
  exact h.self.link_keeps hcell hlink hkeeps

/-- A workspace in which less is kept, next to one in which more is, with the cells of the second
one that stand for cells of the first one. -/
structure Mirrors (image? : Nat → Option Nat) (plain cached : Workspace) : Prop where
  rules : plain.rules = cached.rules
  moduleNames : plain.moduleNames = cached.moduleNames
  parsers : Named (Grammar.Mirrors image? cached.body?) plain.parsers cached.parsers
  slots_size : plain.slots.size = cached.slots.size
  patterns : ∀ slot, Option.Rel (Grammar.Mirrors image? cached.body?) (plain.pattern? slot)
    (cached.pattern? slot)
  productions : ∀ module, Option.Rel (Named Grammar.LessCached) (plain.productions? module)
    (cached.productions? module)
  /-- Modules that keep productions keep them in the mirror image too. -/
  caches : ∀ module, (plain.cacheSize? module).isSome → (cached.cacheSize? module).isSome
  /-- There is room for every production. -/
  roomy : ∀ module index definition size, cached.definition? module index = some definition →
    cached.cacheSize? module = some size → index < size
  bodies : ∀ place place', image? place = some place' → ∃ body body',
    plain.body? place = some body ∧ cached.body? place' = some body' ∧ body.LessCached body'
  cells : ∀ place built, plain.cellContent? place = some built → ∃ place' built',
    image? place = some place' ∧ cached.cellContent? place' = some built' ∧
      built.Mirrors image? cached.body? built'
  contents : ∀ module index built, plain.productionContent? module index = some built →
    ∃ built', cached.productionContent? module index = some built' ∧
      built.Mirrors image? cached.body? built'
  madeCells : ∀ place built, cached.cellContent? place = some built → ∃ body,
    cached.body? place = some body ∧ cached.Made none body built
  madeContents : ∀ module index built, cached.productionContent? module index = some built →
    ∃ definition, cached.definition? module index = some definition ∧
      cached.Made (some module) definition built
  builds : cached.journal.builds.length ≤ plain.journal.builds.length

namespace Mirrors

variable {image? image'? : Nat → Option Nat} {plain cached : Workspace}

theorem free (h : Mirrors image? plain cached) {place : Nat} (hplace : plain.cells.size ≤ place) :
    image? place = none := by
  by_contra hsome
  obtain ⟨place', himage⟩ := Option.ne_none_iff_exists'.1 hsome
  obtain ⟨body, _, hbody, -⟩ := h.bodies place place' himage
  exact absurd (lt_of_body? hbody) (Nat.not_lt.2 hplace)

/-- Where the cached workspace has kept nothing, the plainer one has kept nothing either. -/
theorem cellContent?_eq_none (h : Mirrors image? plain cached) {place place' : Nat}
    (himage : image? place = some place') (hempty : cached.cellContent? place' = none) :
    plain.cellContent? place = none := by
  by_contra hsome
  obtain ⟨built, hbuilt⟩ := Option.ne_none_iff_exists'.1 hsome
  obtain ⟨other, built', himage', hbuilt', -⟩ := h.cells place built hbuilt
  rw [himage] at himage'
  cases himage'
  cases hempty.symm.trans hbuilt'

theorem productionContent?_eq_none (h : Mirrors image? plain cached) {module index : Nat}
    (hempty : cached.productionContent? module index = none) :
    plain.productionContent? module index = none := by
  by_contra hsome
  obtain ⟨built, hbuilt⟩ := Option.ne_none_iff_exists'.1 hsome
  obtain ⟨built', hbuilt', -⟩ := h.contents module index built hbuilt
  cases hempty.symm.trans hbuilt'

theorem productionIndex? (h : Mirrors image? plain cached) (module : Nat) (name : String) :
    plain.productionIndex? module name = cached.productionIndex? module name := by
  rw [productionIndex?_eq, productionIndex?_eq]
  have hrel : Option.Rel (· = ·) ((plain.productions? module).bind (·.index? name))
      ((cached.productions? module).bind (·.index? name)) := by
    refine rel_bind (h.productions module) fun productions productions' hnamed => ?_
    rw [hnamed.index? name]
    cases Productions.index? productions' name with
    | none => exact .none
    | some index => exact .some rfl
  generalize (plain.productions? module).bind (·.index? name) = index? at hrel ⊢
  generalize (cached.productions? module).bind (·.index? name) = index'? at hrel ⊢
  cases hrel with
  | none => rfl
  | some heq => rw [heq]

theorem definition? (h : Mirrors image? plain cached) (module index : Nat) :
    Option.Rel Grammar.LessCached (plain.definition? module index)
      (cached.definition? module index) := by
  rw [definition?_eq, definition?_eq]
  refine rel_bind (h.productions module) fun productions productions' hnamed => ?_
  rw [Option.map_eq_bind, Option.map_eq_bind]
  exact rel_bind (hnamed.getElem? index) fun _ _ hentry => .some hentry.2

theorem bindsAlike (h : Mirrors image? plain cached) :
    BindsAlike image? cached.body? plain cached where
  rules := h.rules
  moduleNames := h.moduleNames
  parsers := h.parsers
  productionIndex? := h.productionIndex?
  free _ := h.free

theorem rebuilds (h : Mirrors image? plain cached) {part part' built' : Grammar}
    {home? : Option Nat} (hless : part.LessCached part') (hmade : cached.Made home? part' built') :
    (part.link home?).BuildsLike image? cached.body? plain built' := by
  obtain ⟨before, after, hscope, hlink, hgrows⟩ := hmade.linked
  refine hless.link_mirrors ⟨?_, ?_, ?_, fun module name => ?_, fun _ => h.free⟩ hlink hgrows
  · rw [h.rules, hscope.rules]
  · rw [h.moduleNames, hscope.moduleNames]
  · rw [← hscope.parsers]
    exact h.parsers
  · rw [h.productionIndex?, productionIndex?_eq, hscope.productions?, ← productionIndex?_eq]

/-! ### Changes -/

/-- What has to be seen to when both workspaces go on: the new images, what is kept newly, and the
number of parts that were built. -/
theorem onward (h : Mirrors image? plain cached) {plain' cached' : Workspace}
    (hplain : plain.Continues plain') (hcached : cached.Continues cached')
    (himage : ∀ place place', image? place = some place' → image'? place = some place')
    (hbodies : ∀ place place', image'? place = some place' → image? place = some place' ∨
      ∃ body body', plain'.body? place = some body ∧ cached'.body? place' = some body' ∧
        body.LessCached body')
    (hcells : ∀ place built, plain'.cellContent? place = some built →
      plain.cellContent? place = some built ∨ ∃ place' built', image'? place = some place' ∧
        cached'.cellContent? place' = some built' ∧ built.Mirrors image'? cached'.body? built')
    (hcontents : ∀ module index built, plain'.productionContent? module index = some built →
      plain.productionContent? module index = some built ∨ ∃ built',
        cached'.productionContent? module index = some built' ∧
          built.Mirrors image'? cached'.body? built')
    (hmadeCells : ∀ place built, cached'.cellContent? place = some built →
      cached.cellContent? place = some built ∨ ∃ body, cached'.body? place = some body ∧
        cached'.Made none body built)
    (hmadeContents : ∀ module index built, cached'.productionContent? module index = some built →
      cached.productionContent? module index = some built ∨ ∃ definition,
        cached'.definition? module index = some definition ∧
          cached'.Made (some module) definition built)
    (hbuilds : cached'.journal.builds.length ≤ plain'.journal.builds.length) :
    Mirrors image'? plain' cached' := by
  have hmono : ∀ grammar grammar' : Grammar, grammar.Mirrors image? cached.body? grammar' →
      grammar.Mirrors image'? cached'.body? grammar' := fun _ _ hmirrors =>
    hmirrors.mono himage hcached.bodies
  constructor
  case rules => rw [hplain.rules, hcached.rules, h.rules]
  case moduleNames => rw [hplain.moduleNames, hcached.moduleNames, h.moduleNames]
  case parsers =>
    rw [hplain.parsers, hcached.parsers]
    exact h.parsers.imp hmono
  case slots_size => rw [hplain.slots, hcached.slots, h.slots_size]
  case patterns =>
    intro slot
    rw [hplain.pattern?, hcached.pattern?]
    exact rel_imp (h.patterns slot) hmono
  case productions =>
    intro module
    rw [hplain.productions?, hcached.productions?]
    exact h.productions module
  case caches =>
    intro module
    rw [hplain.cacheSize?, hcached.cacheSize?]
    exact h.caches module
  case roomy =>
    intro module index definition size
    rw [hcached.definition?, hcached.cacheSize?]
    exact h.roomy module index definition size
  case bodies =>
    intro place place' hplace
    rcases hbodies place place' hplace with hold | hnew
    · obtain ⟨body, body', hbody, hbody', hless⟩ := h.bodies place place' hold
      exact ⟨body, body', hplain.bodies _ _ hbody, hcached.bodies _ _ hbody', hless⟩
    · exact hnew
  case cells =>
    intro place built hbuilt
    rcases hcells place built hbuilt with hold | hnew
    · obtain ⟨place', built', hplace, hbuilt', hmirrors⟩ := h.cells place built hold
      exact ⟨place', built', himage _ _ hplace, hcached.cells _ _ hbuilt', hmono _ _ hmirrors⟩
    · exact hnew
  case contents =>
    intro module index built hbuilt
    rcases hcontents module index built hbuilt with hold | hnew
    · obtain ⟨built', hbuilt', hmirrors⟩ := h.contents module index built hold
      exact ⟨built', hcached.contents _ _ _ hbuilt', hmono _ _ hmirrors⟩
    · exact hnew
  case madeCells =>
    intro place built hbuilt
    rcases hmadeCells place built hbuilt with hold | hnew
    · obtain ⟨body, hbody, hmade⟩ := h.madeCells place built hold
      exact ⟨body, hcached.bodies _ _ hbody, hmade.mono hcached⟩
    · exact hnew
  case madeContents =>
    intro module index built hbuilt
    rcases hmadeContents module index built hbuilt with hold | hnew
    · obtain ⟨definition, hdefinition, hmade⟩ := h.madeContents module index built hold
      refine ⟨definition, ?_, hmade.mono hcached⟩
      rwa [hcached.definition?]
    · exact hnew
  case builds => exact hbuilds

theorem modifyJournal (h : Mirrors image? plain cached) (change change' : Journal → Journal)
    (hbuilds : (change' cached.journal).builds.length ≤ (change plain.journal).builds.length) :
    Mirrors image? (plain.modifyJournal change) (cached.modifyJournal change') :=
  h.onward (continues_modifyJournal plain change) (continues_modifyJournal cached change')
    (fun _ _ hold => hold) (fun _ _ hold => .inl hold) (fun _ _ hold => .inl hold)
    (fun _ _ _ hold => .inl hold) (fun _ _ hold => .inl hold) (fun _ _ _ hold => .inl hold) hbuilds

theorem openCells (h : Mirrors image? plain cached) {bodies bodies' : List Grammar}
    (hwidens : Widens image? image'? (cached.openCells bodies').body? plain bodies) :
    Mirrors image'? (plain.openCells bodies) (cached.openCells bodies') := by
  refine h.onward (continues_openCells plain bodies) (continues_openCells cached bodies')
    hwidens.le (fun place place' hplace => ?_) (fun place built hbuilt => .inl ?_)
    (fun _ _ _ hold => .inl hold) (fun place built hbuilt => .inl ?_)
    (fun _ _ _ hold => .inl hold) h.builds
  · refine (hwidens.fresh place place' hplace).imp_right ?_
    rintro ⟨body, body', hle, hbody, hbody', hless⟩
    refine ⟨body, body', ?_, hbody', hless⟩
    simp [body?, Workspace.openCells, Array.getElem?_append_right hle, hbody]
  · rwa [cellContent?_openCells] at hbuilt
  · rwa [cellContent?_openCells] at hbuilt

theorem fillCachedCell (h : Mirrors image? plain cached) {place : Nat} {body built : Grammar}
    (hbody : cached.body? place = some body) (hempty : cached.cellContent? place = none)
    (hmade : cached.Made none body built) : Mirrors image? plain (cached.fillCell place built) := by
  have hcontinues := continues_fillCell built hempty
  refine h.onward (.refl plain) hcontinues (fun _ _ hold => hold) (fun _ _ hold => .inl hold)
    (fun _ _ hold => .inl hold) (fun _ _ _ hold => .inl hold) (fun place' built' hbuilt => ?_)
    (fun _ _ _ hold => .inl hold) h.builds
  by_cases hplace : place = place'
  · subst place'
    rw [cellContent?_fillCell_self] at hbuilt
    · cases hbuilt
      exact .inr ⟨body, hcontinues.bodies _ _ hbody, hmade.mono hcontinues⟩
    · exact lt_of_body? hbody
  · rw [cellContent?_fillCell_of_ne _ _ hplace] at hbuilt
    exact .inl hbuilt

theorem fillPlainCell (h : Mirrors image? plain cached) {place place' : Nat}
    {built built' : Grammar} (hempty : plain.cellContent? place = none)
    (himage : image? place = some place') (hbuilt' : cached.cellContent? place' = some built')
    (hmirrors : built.Mirrors image? cached.body? built') :
    Mirrors image? (plain.fillCell place built) cached := by
  refine h.onward (continues_fillCell built hempty) (.refl cached) (fun _ _ hold => hold)
    (fun _ _ hold => .inl hold) (fun other found hfound => ?_) (fun _ _ _ hold => .inl hold)
    (fun _ _ hold => .inl hold) (fun _ _ _ hold => .inl hold) h.builds
  by_cases hplace : place = other
  · subst other
    obtain ⟨body, _, hbody, -⟩ := h.bodies place place' himage
    rw [cellContent?_fillCell_self] at hfound
    · cases hfound
      exact .inr ⟨place', built', himage, hbuilt', hmirrors⟩
    · exact lt_of_body? hbody
  · rw [cellContent?_fillCell_of_ne _ _ hplace] at hfound
    exact .inl hfound

theorem fillCachedProduction (h : Mirrors image? plain cached) {module index : Nat}
    {definition built : Grammar} (hdefinition : cached.definition? module index = some definition)
    (hempty : cached.productionContent? module index = none)
    (hmade : cached.Made (some module) definition built) :
    Mirrors image? plain (cached.fillProduction module index built) := by
  have hcontinues := continues_fillProduction built hempty
  refine h.onward (.refl plain) hcontinues (fun _ _ hold => hold) (fun _ _ hold => .inl hold)
    (fun _ _ hold => .inl hold) (fun _ _ _ hold => .inl hold) (fun _ _ hold => .inl hold)
    (fun module' index' built' hbuilt => ?_) h.builds
  by_cases hsame : module = module' ∧ index = index'
  · obtain ⟨rfl, rfl⟩ := hsame
    cases productionContent?_fillProduction_self cached hbuilt
    refine .inr ⟨definition, ?_, hmade.mono hcontinues⟩
    rwa [hcontinues.definition?]
  · rw [productionContent?_fillProduction_of_ne cached built hsame] at hbuilt
    exact .inl hbuilt

theorem fillPlainProduction (h : Mirrors image? plain cached) {module index : Nat}
    {built : Grammar} (hempty : plain.productionContent? module index = none)
    (hmirrors : (plain.cacheSize? module).isSome → ∃ built',
      cached.productionContent? module index = some built' ∧
        built.Mirrors image? cached.body? built') :
    Mirrors image? (plain.fillProduction module index built) cached := by
  refine h.onward (continues_fillProduction built hempty) (.refl cached) (fun _ _ hold => hold)
    (fun _ _ hold => .inl hold) (fun _ _ hold => .inl hold)
    (fun module' index' found hfound => ?_) (fun _ _ hold => .inl hold)
    (fun _ _ _ hold => .inl hold) h.builds
  by_cases hsame : module = module' ∧ index = index'
  · obtain ⟨rfl, rfl⟩ := hsame
    cases productionContent?_fillProduction_self plain hfound
    refine .inr (hmirrors ?_)
    rw [← plain.cacheSize?_fillProduction module index built module]
    exact cacheSize?_isSome_of_productionContent? hfound
  · rw [productionContent?_fillProduction_of_ne plain built hsame] at hfound
    exact .inl hfound

end Mirrors

end Workspace

end TokenGrammar
