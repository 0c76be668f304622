import TokenGrammar.Proofs.Caching.Worlds

/-!
# Runs in lockstep

A run in a workspace and a run in its mirror image agree if both yield a value, or both meet the
same fault, and the workspaces mirror each other afterwards. The one way in which they may part is
that the cached workspace has no representation of a grammar that the plainer one can still print.
To build a part, or to look up what was kept for it, are runs that agree whichever of the two
happens on either side.
-/

namespace TokenGrammar

/-- Two workspaces, and the cells of the second one that stand for cells of the first one. -/
structure World where
  image? : Nat → Option Nat
  plain : Workspace
  cached : Workspace

namespace World

def Valid (world : World) : Prop := Workspace.Mirrors world.image? world.plain world.cached

/-- A later world, with the images of earlier cells and all that the cached workspace kept. -/
structure Leads (before after : World) : Prop where
  image : ∀ place place', before.image? place = some place' → after.image? place = some place'
  cached : before.cached.Continues after.cached

theorem Leads.refl (world : World) : world.Leads world := ⟨fun _ _ h => h, .refl world.cached⟩

theorem Leads.trans {before between after : World} (h : before.Leads between)
    (h' : between.Leads after) : before.Leads after :=
  ⟨fun place place' hplace => h'.image _ _ (h.image place place' hplace), h.cached.trans h'.cached⟩

abbrev Mirrors (world : World) (grammar grammar' : Grammar) : Prop :=
  grammar.Mirrors world.image? world.cached.body? grammar'

theorem Leads.mirrors {before after : World} (h : before.Leads after) {grammar grammar' : Grammar}
    (hmirrors : before.Mirrors grammar grammar') : after.Mirrors grammar grammar' :=
  hmirrors.mono h.image h.cached.bodies

def Agrees {α β : Type} (before : World) (run : Run α) (run' : Run β)
    (post : World → α → β → Prop) : Prop :=
  match run before.plain, run' before.cached with
  | .ok a plain, .ok b cached =>
      ∃ after : World, after.plain = plain ∧ after.cached = cached ∧ before.Leads after ∧
        after.Valid ∧ post after a b
  | .error fault plain, .error fault' cached => fault' = .unprintable ∨ fault = fault' ∧
      ∃ after : World,
        after.plain = plain ∧ after.cached = cached ∧ before.Leads after ∧ after.Valid
  | .ok _ _, .error fault' _ => fault' = .unprintable
  | .error _ _, .ok _ _ => False

namespace Agrees

variable {α α' β β' : Type} {before : World}

theorem pure {a : α} {b : β} {post : World → α → β → Prop} (hvalid : before.Valid)
    (hpost : post before a b) : before.Agrees (Pure.pure a) (Pure.pure b) post :=
  ⟨before, rfl, rfl, .refl before, hvalid, hpost⟩

theorem throw (fault : Fault) {post : World → α → β → Prop} (hvalid : before.Valid) :
    before.Agrees (MonadExcept.throw fault) (MonadExcept.throw fault) post :=
  .inr ⟨rfl, before, rfl, rfl, .refl before, hvalid⟩

theorem bind {run : Run α} {run' : Run α'} {between : World → α → α' → Prop} {next : α → Run β}
    {next' : α' → Run β'} {post : World → β → β' → Prop} (hrun : before.Agrees run run' between)
    (hnext : ∀ (now : World) a a', before.Leads now → now.Valid → between now a a' →
      now.Agrees (next a) (next' a') post) :
    before.Agrees (run >>= next) (run' >>= next') post := by
  unfold Agrees at hrun ⊢
  cases hplain : run before.plain with
  | ok a plain =>
      rw [Run.bind_of_ok hplain]
      rw [hplain] at hrun
      cases hcached : run' before.cached with
      | ok a' cached =>
          rw [Run.bind_of_ok hcached]
          rw [hcached] at hrun
          obtain ⟨now, rfl, rfl, hleads, hvalid, hbetween⟩ := hrun
          have hsecond := hnext now a a' hleads hvalid hbetween
          unfold Agrees at hsecond
          revert hsecond
          cases next a now.plain <;> cases next' a' now.cached
          · rintro ⟨after, hplain, hcached, hleads', hvalid, hpost⟩
            exact ⟨after, hplain, hcached, hleads.trans hleads', hvalid, hpost⟩
          · exact id
          · exact id
          · refine Or.imp_right ?_
            rintro ⟨hfault, after, hplain, hcached, hleads', hvalid⟩
            exact ⟨hfault, after, hplain, hcached, hleads.trans hleads', hvalid⟩
      | error fault' cached =>
          rw [Run.bind_of_error hcached]
          rw [hcached] at hrun
          -- the plainer workspace goes on while the other one could not print
          cases next a plain
          · exact hrun
          · exact .inl hrun
  | error fault plain =>
      rw [Run.bind_of_error hplain]
      rw [hplain] at hrun
      cases hcached : run' before.cached with
      | ok a' cached =>
          rw [hcached] at hrun
          exact hrun.elim
      | error fault' cached =>
          rw [Run.bind_of_error hcached]
          rw [hcached] at hrun
          exact hrun

theorem get {next : Workspace → Run α} {next' : Workspace → Run β} {post : World → α → β → Prop}
    (h : before.Agrees (next before.plain) (next' before.cached) post) :
    before.Agrees (MonadState.get >>= next) (MonadState.get >>= next') post := h

theorem imp {run : Run α} {run' : Run β} {post post' : World → α → β → Prop}
    (hrun : before.Agrees run run' post)
    (himp : ∀ (after : World) a b, before.Leads after → after.Valid → post after a b →
      post' after a b) : before.Agrees run run' post' := by
  rw [← bind_pure run, ← bind_pure run']
  exact hrun.bind fun after a b hleads hvalid hpost =>
    .pure hvalid (himp after a b hleads hvalid hpost)

/-- Nothing is claimed where the cached workspace cannot print a grammar. -/
theorem of_unprintable {run : Run α} {run' : Run β} {post : World → α → β → Prop}
    {after : Workspace} (h : run' before.cached = .error .unprintable after) :
    before.Agrees run run' post := by
  unfold Agrees
  rw [h]
  cases run before.plain with
  | ok => rfl
  | error => exact .inl rfl

theorem changed {change change' : Workspace → Workspace} (after : World)
    (hplain : after.plain = change before.plain) (hcached : after.cached = change' before.cached)
    (hleads : before.Leads after) (hvalid : after.Valid) :
    before.Agrees (modify change) (modify change') fun now _ _ => now = after :=
  ⟨after, hplain, hcached, hleads, hvalid, rfl⟩

theorem demand {r : α → β → Prop} {a? : Option α} {b? : Option β} (fault : Fault)
    (hrel : Option.Rel r a? b?) (hvalid : before.Valid) :
    before.Agrees (Run.demand fault a?) (Run.demand fault b?) fun after a b =>
      after = before ∧ r a b := by
  cases hrel with
  | none => exact .throw fault hvalid
  | some hr => exact .pure hvalid ⟨rfl, hr⟩

end Agrees

/-! ### Building -/

/-- What a world has kept for its parts, and may keep. Linking changes nothing about it. -/
structure SameKept (before after : World) : Prop where
  plain : before.plain.Continues after.plain
  plainCells : ∀ place, after.plain.cellContent? place = before.plain.cellContent? place
  plainContents : ∀ module index,
    after.plain.productionContent? module index = before.plain.productionContent? module index
  cachedCells : ∀ place, after.cached.cellContent? place = before.cached.cellContent? place
  cachedContents : ∀ module index,
    after.cached.productionContent? module index = before.cached.productionContent? module index

variable {before : World} {part part' : Grammar} {home? : Option Nat}

/-- **Linking agrees with linking a part that keeps more.** -/
theorem link_agrees (hvalid : before.Valid) (hless : part.LessCached part') (home? : Option Nat) :
    before.Agrees (part.link home?) (part'.link home?) fun after built built' =>
      after.Mirrors built built' ∧ after.cached.Made home? part' built' ∧
        before.SameKept after := by
  have hsame : ∀ {image'? : Nat → Option Nat} (bodies bodies' : List Grammar),
      before.SameKept ⟨image'?, before.plain.openCells bodies, before.cached.openCells bodies'⟩ :=
    fun bodies bodies' => {
      plain := Workspace.continues_openCells _ _
      plainCells := Workspace.cellContent?_openCells _ _
      plainContents := fun _ _ => rfl
      cachedCells := Workspace.cellContent?_openCells _ _
      cachedContents := fun _ _ => rfl }
  have hopens := hless.link_opens home? before.cached
  unfold Agrees
  cases hlink : part'.link home? before.cached with
  | ok built' cached =>
      rw [hlink] at hopens
      obtain ⟨bodies', rfl⟩ := hopens
      have hgrows := before.cached.grows_openCells bodies'
      obtain ⟨built, bodies, image'?, hrun, hwidens, hmirrors⟩ :=
        hless.link_mirrors (hvalid.bindsAlike.mono hgrows) hlink fun _ _ hbody => hbody
      rw [hrun]
      refine ⟨⟨image'?, _, _⟩, rfl, rfl, ⟨hwidens.le, Workspace.continues_openCells _ _⟩,
        hvalid.openCells hwidens, hmirrors, ?_, hsame bodies bodies'⟩
      exact ⟨hless.self, _, _, Workspace.continues_openCells _ _ |>.toSameScope, hlink, .refl _⟩
  | error fault cached =>
      rw [hlink] at hopens
      obtain ⟨bodies', rfl⟩ := hopens
      have hgrows := before.cached.grows_openCells bodies'
      obtain ⟨bodies, hrun⟩ :=
        hless.link_fails (hvalid.bindsAlike.mono hgrows) hlink fun _ _ hbody => hbody
      rw [hrun]
      refine .inr ⟨rfl, ⟨before.image?, _, _⟩, rfl, rfl,
        ⟨fun _ _ h => h, Workspace.continues_openCells _ _⟩, hvalid.openCells ?_⟩
      exact ⟨fun _ _ h => h, fun _ _ h => .inl h⟩

/-! ### What was kept, or is built now -/

theorem SameKept.trans {before between after : World} (h : before.SameKept between)
    (h' : between.SameKept after) : before.SameKept after where
  plain := h.plain.trans h'.plain
  plainCells place := (h'.plainCells place).trans (h.plainCells place)
  plainContents module index := (h'.plainContents module index).trans (h.plainContents module index)
  cachedCells place := (h'.cachedCells place).trans (h.cachedCells place)
  cachedContents module index :=
    (h'.cachedContents module index).trans (h.cachedContents module index)

theorem journaled_agrees (change change' : Journal → Journal) (hvalid : before.Valid)
    (hbuilds : (change' before.cached.journal).builds.length
      ≤ (change before.plain.journal).builds.length) :
    before.Agrees (modify (·.modifyJournal change)) (modify (·.modifyJournal change'))
      fun after _ _ => before.SameKept after := by
  refine ⟨⟨before.image?, before.plain.modifyJournal change, before.cached.modifyJournal change'⟩,
    rfl, rfl, ⟨fun _ _ h => h, Workspace.continues_modifyJournal _ _⟩,
    hvalid.modifyJournal change change' hbuilds, ?_⟩
  exact ⟨Workspace.continues_modifyJournal _ _, fun _ => rfl, fun _ _ => rfl, fun _ => rfl,
    fun _ _ => rfl⟩

theorem noteEntry_agrees (hvalid : before.Valid) (site site' : Site) :
    before.Agrees (Run.noteEntry site) (Run.noteEntry site') fun after _ _ =>
      before.SameKept after :=
  journaled_agrees (fun journal => { journal with entries := site :: journal.entries })
    (fun journal => { journal with entries := site' :: journal.entries }) hvalid hvalid.builds

theorem build_agrees (hvalid : before.Valid) (hless : part.LessCached part') (site site' : Site)
    (home? : Option Nat) :
    before.Agrees (Run.build site home? part) (Run.build site' home? part')
      fun after built built' => after.Mirrors built built' ∧
        after.cached.Made home? part' built' ∧ before.SameKept after := by
  have hnoted : before.Agrees (Run.noteBuild site) (Run.noteBuild site') fun after _ _ =>
      before.SameKept after := by
    let change (site : Site) (journal : Journal) : Journal :=
      { journal with builds := site :: journal.builds }
    have hlength : (change site' before.cached.journal).builds.length
        ≤ (change site before.plain.journal).builds.length := Nat.succ_le_succ hvalid.builds
    exact journaled_agrees (change site) (change site') hvalid hlength
  refine hnoted.bind fun now _ _ _ hvalid hsame => ?_
  exact (link_agrees hvalid hless home?).imp fun after built built' _ _ h =>
    ⟨h.1, h.2.1, hsame.trans h.2.2⟩

end World

namespace World

variable {before : World} {part part' : Grammar} {home? : Option Nat}

theorem rebuild_agrees (hvalid : before.Valid) (hless : part.LessCached part') {built' : Grammar}
    (hmade : before.cached.Made home? part' built') (site : Site)
    {keep : Grammar → Workspace → Workspace}
    (hkeep : ∀ (after : World) built, before.Leads after → before.SameKept after → after.Valid →
      after.Mirrors built built' →
      Workspace.Mirrors after.image? (keep built after.plain) after.cached) :
    before.Agrees (Run.keptOr none site home? part keep) (Pure.pure built')
      fun after built built' => after.Mirrors built built' ∧
        after.cached.Made home? part' built' := by
  let noted := before.plain.modifyJournal fun journal =>
    { journal with builds := site :: journal.builds }
  have hnoted : Workspace.Mirrors before.image? noted before.cached := by
    have hlength : before.cached.journal.builds.length ≤ noted.journal.builds.length :=
      Nat.le_succ_of_le hvalid.builds
    exact hvalid.modifyJournal _ id hlength
  obtain ⟨built, bodies, image'?, hrun, hwidens, hmirrors⟩ := hnoted.rebuilds hless hmade
  let after : World := ⟨image'?, noted.openCells bodies, before.cached⟩
  have hleads : before.Leads after := ⟨hwidens.le, .refl _⟩
  have hsame : before.SameKept after := {
    plain := (Workspace.continues_modifyJournal _ _).trans (Workspace.continues_openCells _ _)
    plainCells := Workspace.cellContent?_openCells noted bodies
    plainContents := fun _ _ => rfl
    cachedCells := fun _ => rfl
    cachedContents := fun _ _ => rfl }
  have hvalid' : after.Valid := by
    have hopened : Workspace.Mirrors image'? (noted.openCells bodies)
        (before.cached.openCells []) := hnoted.openCells (by rwa [Workspace.openCells_nil])
    rwa [Workspace.openCells_nil] at hopened
  have hbuilds : Run.keptOr none site home? part keep before.plain
      = .ok built (keep built after.plain) := Run.bind_of_ok hrun
  unfold Agrees
  rw [hbuilds]
  exact ⟨⟨image'?, keep built after.plain, before.cached⟩, rfl, rfl, ⟨hwidens.le, .refl _⟩,
    hkeep after built hleads hsame hvalid' hmirrors, hmirrors, hmade⟩

/-- **What is kept or built for a part agrees with what is kept or built for its mirror image**, if
the image has kept something whenever the part has, and if both may keep what they build. -/
theorem keptOr_agrees (hvalid : before.Valid) (hless : part.LessCached part')
    {kept? kept'? : Option Grammar} (site site' : Site)
    {keep keep' : Grammar → Workspace → Workspace}
    (hkept : ∀ built, kept? = some built →
      ∃ built', kept'? = some built' ∧ before.Mirrors built built')
    (hmade : ∀ built', kept'? = some built' → before.cached.Made home? part' built')
    (hboth : kept'? = none → ∀ (after : World) built built', before.Leads after →
      before.SameKept after → after.Valid → after.Mirrors built built' →
      after.cached.Made home? part' built' →
      after.cached.Continues (keep' built' after.cached) ∧
        Workspace.Mirrors after.image? (keep built after.plain) (keep' built' after.cached))
    (honly : ∀ built', kept? = none → kept'? = some built' → ∀ (after : World) built,
      before.Leads after → before.SameKept after → after.Valid → after.Mirrors built built' →
      Workspace.Mirrors after.image? (keep built after.plain) after.cached) :
    before.Agrees (Run.keptOr kept? site home? part keep)
      (Run.keptOr kept'? site' home? part' keep')
      fun after built built' => after.Mirrors built built' ∧
        after.cached.Made home? part' built' := by
  cases hkept? : kept? with
  | some built =>
      obtain ⟨built', hkept', hmirrors⟩ := hkept built hkept?
      rw [hkept']
      exact .pure hvalid ⟨hmirrors, hmade built' hkept'⟩
  | none =>
      cases hkept'? : kept'? with
      | none =>
          refine (build_agrees hvalid hless site site' home?).bind ?_
          rintro after built built' hleads hvalid ⟨hmirrors, hmade, hsame⟩
          obtain ⟨hcontinues, hvalid'⟩ :=
            hboth hkept'? after built built' hleads hsame hvalid hmirrors hmade
          refine (Agrees.changed ⟨after.image?, keep built after.plain, keep' built' after.cached⟩
            rfl rfl ⟨fun _ _ h => h, hcontinues⟩ hvalid').bind ?_
          rintro last - - hleads' hlast rfl
          exact .pure hlast ⟨hleads'.mirrors hmirrors, hmade.mono hcontinues⟩
      | some built' =>
          exact rebuild_agrees hvalid hless (hmade built' hkept'?) site
            (honly built' hkept? hkept'?)

end World

namespace World

variable {before : World}

theorem agrees_of_entered {run run' rest rest' : Run Grammar} {site site' : Site}
    {post : World → Grammar → Grammar → Prop} (hvalid : before.Valid)
    (hrun : run before.plain = rest (before.plain.entered site))
    (hrun' : run' before.cached = rest' (before.cached.entered site'))
    (hrest : ∀ now : World, before.Leads now → before.SameKept now → now.Valid →
      now.Agrees rest rest' post) : before.Agrees run run' post := by
  have hagrees := (noteEntry_agrees hvalid site site').bind fun now _ _ hleads hvalid hsame =>
    hrest now hleads hsame hvalid
  unfold Agrees at hagrees ⊢
  rw [hrun, hrun']
  exact hagrees

theorem partContent_agrees (hvalid : before.Valid) {part part' : Grammar}
    (hless : part.LessCached part') :
    before.Agrees (Run.partContent part) (Run.partContent part') fun after built built' =>
      after.Mirrors built built' := by
  refine agrees_of_entered hvalid (Run.partContent_eq part _) (Run.partContent_eq part' _) ?_
  intro now hleads hsame hvalid
  refine (keptOr_agrees hvalid hless (.part part) (.part part') ?_ ?_ ?_ ?_).imp
    fun _ _ _ _ _ h => h.1
  · exact fun _ hkept => nomatch hkept
  · exact fun _ hkept => nomatch hkept
  · exact fun _ after _ _ _ _ hvalid _ _ => ⟨.refl _, hvalid⟩
  · exact fun _ _ hkept => nomatch hkept

/-- A part that is built each time, where the other workspace has a cell. -/
theorem partContent_agrees_cell (hvalid : before.Valid) {part part' : Grammar} {place' : Nat}
    (hbody' : before.cached.body? place' = some part') (hless : part.LessCached part') :
    before.Agrees (Run.partContent part) (Run.cellContent place') fun after built built' =>
      after.Mirrors built built' ∧ after.cached.Made none part' built' := by
  refine agrees_of_entered hvalid (Run.partContent_eq part _) (Run.cellContent_eq hbody') ?_
  intro now hleads hsame hvalid'
  refine keptOr_agrees hvalid' hless (.part part) (.cell place') ?_ ?_ ?_ ?_
  · exact fun _ hkept => nomatch hkept
  · intro built' hkept'
    obtain ⟨body, hbody, hmade⟩ := hvalid.madeCells place' built' hkept'
    rw [hbody'] at hbody
    cases hbody
    exact hmade.mono hleads.cached
  · intro hempty after built built' hleads' hsame' hvalid' hmirrors hmade
    have hempty : after.cached.cellContent? place' = none := by
      rw [hsame'.cachedCells, hsame.cachedCells, hempty]
    have hbody := (hleads.trans hleads').cached.bodies place' part' hbody'
    exact ⟨Workspace.continues_fillCell built' hempty,
      Workspace.Mirrors.fillCachedCell hvalid' hbody hempty hmade⟩
  · exact fun _ _ _ after _ _ _ hvalid _ => hvalid

theorem cellContent_agrees (hvalid : before.Valid) {place place' : Nat}
    (himage : before.image? place = some place') :
    before.Agrees (Run.cellContent place) (Run.cellContent place') fun after built built' =>
      after.Mirrors built built' := by
  obtain ⟨body, body', hbody, hbody', hless⟩ := hvalid.bodies place place' himage
  refine agrees_of_entered hvalid (Run.cellContent_eq hbody) (Run.cellContent_eq hbody') ?_
  intro now hleads hsame hvalid'
  refine (keptOr_agrees hvalid' hless (.cell place) (.cell place') ?_ ?_ ?_ ?_).imp
    fun _ _ _ _ _ h => h.1
  · intro built hkept
    obtain ⟨place'', built', himage', hbuilt', hmirrors⟩ := hvalid.cells place built hkept
    rw [himage] at himage'
    cases himage'
    exact ⟨built', hbuilt', hleads.mirrors hmirrors⟩
  · intro built' hkept'
    obtain ⟨body, hbody, hmade⟩ := hvalid.madeCells place' built' hkept'
    rw [hbody'] at hbody
    cases hbody
    exact hmade.mono hleads.cached
  · intro hempty' after built built' hleads' hsame' hvalid' hmirrors hmade
    have hlater := hleads.trans hleads'
    have hempty := hvalid.cellContent?_eq_none himage hempty'
    have hempty : after.plain.cellContent? place = none := by
      rw [hsame'.plainCells, hsame.plainCells, hempty]
    have hempty' : after.cached.cellContent? place' = none := by
      rw [hsame'.cachedCells, hsame.cachedCells, hempty']
    have hbody' := hlater.cached.bodies place' body' hbody'
    have hfilled := Workspace.Mirrors.fillCachedCell hvalid' hbody' hempty' hmade
    refine ⟨Workspace.continues_fillCell built' hempty', hfilled.fillPlainCell hempty
      (hlater.image _ _ himage) (Workspace.cellContent?_fillCell_self _ _ ?_) ?_⟩
    · exact Workspace.lt_of_body? hbody'
    · rwa [Workspace.body?_fillCell]
  · intro built' hempty hkept' after built hleads' hsame' hvalid' hmirrors
    have hlater := hleads.trans hleads'
    refine Workspace.Mirrors.fillPlainCell hvalid' ?_ (hlater.image _ _ himage)
      (hlater.cached.cells place' built' hkept') hmirrors
    rw [hsame'.plainCells, hsame.plainCells, hempty]

theorem productionContent_agrees_of_none (hvalid : before.Valid) {place index : Nat}
    (hdefinition : before.plain.definition? place index = none)
    (hdefinition' : before.cached.definition? place index = none)
    {post : World → Grammar → Grammar → Prop} :
    before.Agrees (Run.productionContent place index) (Run.productionContent place index) post := by
  have hempty' : before.cached.productionContent? place index = none := by
    by_contra hsome
    obtain ⟨built, hbuilt⟩ := Option.ne_none_iff_exists'.1 hsome
    obtain ⟨_, hdefinition, -⟩ := hvalid.madeContents place index built hbuilt
    rw [hdefinition'] at hdefinition
    cases hdefinition
  have hempty := hvalid.productionContent?_eq_none hempty'
  refine agrees_of_entered hvalid (Run.productionContent_eq_error hempty hdefinition)
    (Run.productionContent_eq_error hempty' hdefinition') ?_
  exact fun now _ _ hvalid => .throw .unbuilt hvalid

/-- A production, whether its module keeps what it builds or not. -/
theorem productionContent_agrees (hvalid : before.Valid) (place index : Nat) :
    before.Agrees (Run.productionContent place index) (Run.productionContent place index)
      fun after built built' => after.Mirrors built built' := by
  have hrel := hvalid.definition? place index
  generalize hdefinition : before.plain.definition? place index = definition? at hrel
  generalize hdefinition' : before.cached.definition? place index = definition'? at hrel
  cases hrel with
  | none => exact productionContent_agrees_of_none hvalid hdefinition hdefinition'
  | @some definition definition' hless =>
      refine agrees_of_entered hvalid (Run.productionContent_eq fun _ => hdefinition)
        (Run.productionContent_eq fun _ => hdefinition') fun now hleads hsame hvalid' => ?_
      refine (keptOr_agrees hvalid' hless _ _ ?_ ?_ ?_ ?_).imp fun _ _ _ _ _ h => h.1
      · intro built hkept
        obtain ⟨built', hbuilt', hmirrors⟩ := hvalid.contents place index built hkept
        exact ⟨built', hbuilt', hleads.mirrors hmirrors⟩
      · intro built' hkept'
        obtain ⟨found, hfound, hmade⟩ := hvalid.madeContents place index built' hkept'
        rw [hdefinition'] at hfound
        cases hfound
        exact hmade.mono hleads.cached
      · intro hempty' after built built' hleads' hsame' hvalid' hmirrors hmade
        have hlater := hleads.trans hleads'
        have hempty := hvalid.productionContent?_eq_none hempty'
        have hempty : after.plain.productionContent? place index = none := by
          rw [hsame'.plainContents, hsame.plainContents, hempty]
        have hempty' : after.cached.productionContent? place index = none := by
          rw [hsame'.cachedContents, hsame.cachedContents, hempty']
        have hfound : after.cached.definition? place index = some definition' := by
          rw [hlater.cached.definition?, hdefinition']
        have hfilled := Workspace.Mirrors.fillCachedProduction hvalid' hfound hempty' hmade
        refine ⟨Workspace.continues_fillProduction built' hempty',
          hfilled.fillPlainProduction hempty fun hcache => ⟨built', ?_, hmirrors⟩⟩
        -- where the plainer workspace keeps what it builds, the other one has room for it too
        obtain ⟨size, hsize⟩ := Option.isSome_iff_exists.1 (hvalid'.caches place hcache)
        exact Workspace.productionContent?_fillProduction_of_lt built' hsize
          (hvalid'.roomy place index definition' size hfound hsize)
      · intro built' hempty hkept' after built hleads' hsame' hvalid' hmirrors
        have hlater := hleads.trans hleads'
        refine Workspace.Mirrors.fillPlainProduction hvalid' ?_ fun _ =>
          ⟨built', hlater.cached.contents place index built' hkept', hmirrors⟩
        rw [hsame'.plainContents, hsame.plainContents, hempty]

end World

end TokenGrammar
