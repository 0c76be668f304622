import TokenGrammar.Proofs.Caching.Lockstep
import TokenGrammar.Proofs.Correspondence
import TokenGrammar.Proofs.Endings

/-!
# How often parts are built

A journal tells which parts were reached and which were built when they were reached. Between two
steps of a run the two always tally: what is kept is built once if it was ever reached, and never
otherwise, and what is not kept is built as often as it is reached. What is kept by now is exactly
what was reached.
-/

namespace TokenGrammar

open scoped Classical

namespace Workspace

def keepsAt (workspace : Workspace) : Site → Bool
  | .part _ => false
  | .cell _ => true
  | .production module _ => (workspace.cacheSize? module).isSome

def contentAt? (workspace : Workspace) : Site → Option Grammar
  | .part _ => none
  | .cell place => workspace.cellContent? place
  | .production module index => workspace.productionContent? module index

/-- How often a site is built that was reached at some times. -/
noncomputable def due (workspace : Workspace) (entered : List Site) (site : Site) : Nat :=
  if workspace.keepsAt site then if site ∈ entered then 1 else 0 else entered.count site

/-- That everything was built as often as it should, given what was reached and what was built
before the run. -/
structure Tallies (entered builds : List Site) (workspace : Workspace) : Prop where
  roomy : ∀ module index definition size, workspace.definition? module index = some definition →
    workspace.cacheSize? module = some size → index < size
  kept : ∀ site, (workspace.contentAt? site).isSome ↔
    workspace.keepsAt site ∧ site ∈ workspace.journal.entries ++ entered
  counted : ∀ site, (workspace.journal.builds ++ builds).count site
    = workspace.due (workspace.journal.entries ++ entered) site

variable {entered builds : List Site} {before after : Workspace}

/-- A later workspace in which nothing was reached, built or kept. -/
structure SameTally (before after : Workspace) : Prop where
  definition? : ∀ module index, after.definition? module index = before.definition? module index
  cacheSize? : ∀ module, after.cacheSize? module = before.cacheSize? module
  contentAt? : ∀ site, after.contentAt? site = before.contentAt? site
  entries : after.journal.entries = before.journal.entries
  builds : after.journal.builds = before.journal.builds
  bodies : before.Grows after

theorem SameTally.refl (workspace : Workspace) : workspace.SameTally workspace :=
  ⟨fun _ _ => rfl, fun _ => rfl, fun _ => rfl, rfl, rfl, .refl workspace⟩

theorem SameTally.trans {before between after : Workspace} (h : before.SameTally between)
    (h' : between.SameTally after) : before.SameTally after where
  definition? module index := (h'.definition? module index).trans (h.definition? module index)
  cacheSize? module := (h'.cacheSize? module).trans (h.cacheSize? module)
  contentAt? site := (h'.contentAt? site).trans (h.contentAt? site)
  entries := h'.entries.trans h.entries
  builds := h'.builds.trans h.builds
  bodies := h.bodies.trans h'.bodies

theorem keepsAt_congr (hcache : ∀ module, after.cacheSize? module = before.cacheSize? module)
    (site : Site) : after.keepsAt site = before.keepsAt site := by
  cases site with
  | production module index => rw [keepsAt, hcache, keepsAt]
  | _ => rfl

theorem Tallies.of_sameTally (h : before.Tallies entered builds) (hsame : before.SameTally after) :
    after.Tallies entered builds := by
  refine ⟨fun module index definition size => ?_, fun site => ?_, fun site => ?_⟩
  · rw [hsame.definition?, hsame.cacheSize?]
    exact h.roomy module index definition size
  · rw [hsame.contentAt?, keepsAt_congr hsame.cacheSize?, hsame.entries]
    exact h.kept site
  · rw [due, keepsAt_congr hsame.cacheSize?, hsame.entries, hsame.builds]
    exact h.counted site

/-- A site that is built when it is reached, and then holds what was built, if it keeps anything. -/
theorem Tallies.build (h : before.Tallies entered builds) {site : Site}
    (hempty : before.contentAt? site = none)
    (hdefinition : ∀ module index, after.definition? module index = before.definition? module index)
    (hcache : ∀ module, after.cacheSize? module = before.cacheSize? module)
    (hother : ∀ other, other ≠ site → after.contentAt? other = before.contentAt? other)
    (hself : (after.contentAt? site).isSome = before.keepsAt site)
    (hentries : after.journal.entries = site :: before.journal.entries)
    (hbuilds : after.journal.builds = site :: before.journal.builds) :
    after.Tallies entered builds := by
  refine ⟨fun module index definition size => ?_, fun other => ?_, fun other => ?_⟩
  · rw [hdefinition, hcache]
    exact h.roomy module index definition size
  · rw [keepsAt_congr hcache, hentries]
    by_cases hsite : other = site
    · subst other
      simp [hself]
    · rw [hother other hsite, h.kept]
      simp [hsite]
  · have hcounted := h.counted other
    have hkept := h.kept other
    rw [hentries, hbuilds, due, keepsAt_congr hcache]
    rw [due] at hcounted
    by_cases hsite : other = site
    · subst other
      rw [List.cons_append, List.cons_append, List.count_cons_self, List.count_cons_self, hcounted]
      cases hkeeps : before.keepsAt site with
      | false => rfl
      | true =>
          -- nothing was kept, so the site was not reached before
          have hmem : site ∉ before.journal.entries ++ entered := fun hmem => by
            have hsome := hkept.2 ⟨hkeeps, hmem⟩
            rw [hempty] at hsome
            cases hsome
          simp [hmem]
    · have hne : site ≠ other := fun heq => hsite heq.symm
      rw [List.cons_append, List.cons_append, List.count_cons_of_ne hne, List.count_cons_of_ne hne,
        hcounted]
      simp [hsite]

/-- A site that is reached again after what it holds was kept. -/
theorem Tallies.reach (h : before.Tallies entered builds) {site : Site}
    (hkept : (before.contentAt? site).isSome) : (before.entered site).Tallies entered builds := by
  obtain ⟨hkeeps, hmem⟩ := (h.kept site).1 hkept
  have hmem_iff : ∀ other, other ∈ site :: (before.journal.entries ++ entered) ↔
      other ∈ before.journal.entries ++ entered := by
    intro other
    rw [List.mem_cons, or_iff_right_of_imp]
    rintro rfl
    exact hmem
  refine ⟨h.roomy, fun other => ?_, fun other => ?_⟩
  · refine (h.kept other).trans (and_congr_right' ?_)
    exact (hmem_iff other).symm
  · refine (h.counted other).trans ?_
    by_cases hsite : other = site
    · subst other
      show before.due _ _ = before.due (site :: (before.journal.entries ++ entered)) site
      simp only [due, hkeeps, if_true, hmem_iff]
    · have hne : site ≠ other := fun heq => hsite heq.symm
      show before.due _ _ = before.due (site :: (before.journal.entries ++ entered)) other
      simp only [due, hmem_iff, List.count_cons_of_ne hne]

/-! ### Runs that reach and build nothing -/

instance : IsPreorder Workspace SameTally where
  refl := SameTally.refl
  trans _ _ _ := SameTally.trans

theorem sameTally_modifyJournal (workspace : Workspace) (change : Journal → Journal)
    (hentries : (change workspace.journal).entries = workspace.journal.entries)
    (hbuilds : (change workspace.journal).builds = workspace.journal.builds) :
    workspace.SameTally (workspace.modifyJournal change) :=
  ⟨fun _ _ => rfl, fun _ => rfl, fun _ => rfl, hentries, hbuilds, .refl _⟩

theorem sameTally_openCell (workspace : Workspace) (body : Grammar) :
    workspace.SameTally (workspace.openCell body) := by
  rw [openCell_eq]
  refine ⟨fun _ _ => rfl, fun _ => rfl, fun site => ?_, rfl, rfl, workspace.grows_openCells _⟩
  cases site with
  | cell place => exact cellContent?_openCells _ _ place
  | part | production => rfl

theorem sameTally_storeParser (workspace : Workspace) (label : String) (grammar : Grammar) :
    workspace.SameTally (workspace.storeParser label grammar) :=
  ⟨fun _ _ => rfl, fun _ => rfl, fun _ => rfl, rfl, rfl, .refl workspace⟩

end Workspace

theorem Grammar.link_sameTally (home? : Option Nat) (grammar : Grammar) :
    (grammar.link home?).Respects Workspace.SameTally :=
  grammar.link_respects Workspace.sameTally_openCell Workspace.sameTally_storeParser home?

namespace Run

variable {α β : Type} {entered builds : List Site}

theorem noteEvent_sameTally (event : TraceEvent) :
    (noteEvent event).Respects Workspace.SameTally :=
  .changed fun before => before.sameTally_modifyJournal _ rfl rfl

theorem noteMiss_sameTally (diagnostic : Diagnostic) :
    (noteMiss diagnostic).Respects Workspace.SameTally :=
  .changed fun before => before.sameTally_modifyJournal _ rfl rfl

/-! ### Runs that leave the tally right -/

def Tallied (entered builds : List Site) (run : Run α) : Prop :=
  ∀ (before : Workspace) a after, before.Tallies entered builds → run before = .ok a after →
    after.Tallies entered builds

theorem Respects.tallied {run : Run α} (h : run.Respects Workspace.SameTally) :
    Tallied entered builds run :=
  fun before a after htallies hrun => htallies.of_sameTally (h before a after hrun)

theorem Tallied.bind {run : Run α} {next : α → Run β} (hrun : Tallied entered builds run)
    (hnext : ∀ a, Tallied entered builds (next a)) : Tallied entered builds (run >>= next) := by
  intro before b after h hbind
  obtain ⟨a, between, hfirst, hsecond⟩ := Run.bind_eq_ok_iff.1 hbind
  exact hnext a between b after (hrun before a between h hfirst) hsecond

def tallying (entered builds : List Site) : Correspondence Run Run where
  Relates run run' := run = run' ∧ Tallied entered builds run
  pure a := ⟨rfl, (Respects.pure a).tallied⟩
  bind hrun hnext := by
    refine ⟨?_, hrun.2.bind fun a => (hnext a).2⟩
    rw [hrun.1, funext fun a => (hnext a).1]

/-- Looking up what a site holds, or building it now, leaves the tally right if what is built is
kept where the site keeps anything. -/
theorem tallied_keptOr {run : Run Grammar} {before after : Workspace} (site : Site)
    {home? : Option Nat} {part content : Grammar} {keep : Grammar → Workspace → Workspace}
    (h : before.Tallies entered builds)
    (heq : run before = keptOr (before.contentAt? site) site home? part keep (before.entered site))
    (hkeep : ∀ (now : Workspace) content, before.Grows now →
      (∀ module, now.cacheSize? module = before.cacheSize? module) →
      before.contentAt? site = none → (keep content now).journal = now.journal ∧
        (∀ module index,
          (keep content now).definition? module index = now.definition? module index) ∧
        (∀ module, (keep content now).cacheSize? module = now.cacheSize? module) ∧
        (∀ other, other ≠ site → (keep content now).contentAt? other = now.contentAt? other) ∧
        ((keep content now).contentAt? site).isSome = before.keepsAt site)
    (hrun : run before = .ok content after) : after.Tallies entered builds := by
  rw [heq] at hrun
  obtain ⟨hkept, rfl⟩ | ⟨hempty, between, hbuild, rfl⟩ := keptOr_eq_ok hrun
  · exact h.reach (by rw [hkept]; rfl)
  · rw [build_eq] at hbuild
    have hsame := part.link_sameTally home? _ content between hbuild
    obtain ⟨hjournal, hdefinition, hcache, hother, hself⟩ := hkeep between content hsame.bodies
      hsame.cacheSize? hempty
    refine h.build hempty (fun module index => ?_) (fun module => ?_) (fun other hne => ?_) hself
      ?_ ?_
    · rw [hdefinition, hsame.definition?]
      rfl
    · rw [hcache, hsame.cacheSize?]
      rfl
    · rw [hother other hne, hsame.contentAt?]
      rfl
    · rw [hjournal, hsame.entries]
      rfl
    · rw [hjournal, hsame.builds]
      rfl

theorem tallied_partContent (part : Grammar) : Tallied entered builds (partContent part) := by
  intro before content after h hrun
  refine tallied_keptOr (.part part) h (partContent_eq part before) ?_ hrun
  exact fun now _ _ _ _ => ⟨rfl, fun _ _ => rfl, fun _ => rfl, fun _ _ => rfl, rfl⟩

theorem tallied_cellContent (place : Nat) : Tallied entered builds (cellContent place) := by
  intro before content after h hrun
  have hfound : ∃ body, before.body? place = some body := by
    obtain ⟨cell, hcell, -⟩ := cellContent_eq_ok hrun
    exact ⟨cell.body, Option.map_eq_some_iff.2 ⟨cell, hcell, rfl⟩⟩
  obtain ⟨body, hbody⟩ := hfound
  refine tallied_keptOr (.cell place) h (cellContent_eq hbody) ?_ hrun
  intro now content hgrows hcache hempty
  refine ⟨rfl, fun _ _ => rfl, fun _ => rfl, fun other hne => ?_, ?_⟩
  · cases other with
    | cell other =>
        have hne : place ≠ other := fun heq => hne (heq ▸ rfl)
        exact Workspace.cellContent?_fillCell_of_ne now content hne
    | _ => rfl
  · have hlt := Workspace.lt_of_body? (hgrows place body hbody)
    show ((now.fillCell place content).cellContent? place).isSome = true
    rw [Workspace.cellContent?_fillCell_self now content hlt]
    rfl

theorem tallied_productionContent (place index : Nat) :
    Tallied entered builds (productionContent place index) := by
  intro before content after h hrun
  have hfound : ∃ definition, before.productionContent? place index = none →
      before.definition? place index = some definition := by
    cases hdefinition : before.definition? place index with
    | some definition => exact ⟨definition, fun _ => rfl⟩
    | none =>
        refine ⟨default, fun hempty => ?_⟩
        rw [productionContent_eq_error hempty hdefinition] at hrun
        cases hrun
  obtain ⟨definition, hdefinition⟩ := hfound
  refine tallied_keptOr (.production place index) h (productionContent_eq hdefinition) ?_ hrun
  intro now built hgrows hcache hempty
  refine ⟨rfl, now.definition?_fillProduction place index built,
    now.cacheSize?_fillProduction place index built, fun other hne => ?_, ?_⟩
  · cases other with
    | production place' index' =>
        have hne : ¬(place = place' ∧ index = index') := by
          rintro ⟨rfl, rfl⟩
          exact hne rfl
        exact Workspace.productionContent?_fillProduction_of_ne now built hne
    | _ => rfl
  · show ((now.fillProduction place index built).productionContent? place index).isSome
      = (before.cacheSize? place).isSome
    cases hsize : before.cacheSize? place with
    | some size =>
        have hlt := h.roomy place index definition size (hdefinition hempty) hsize
        have hsize' := (hcache place).trans hsize
        rw [Workspace.productionContent?_fillProduction_of_lt built hsize' hlt]
        rfl
    | none =>
        rw [Option.isSome_none, Option.isSome_eq_false_iff, Option.isNone_iff_eq_none]
        by_contra hsome
        obtain ⟨kept, hkept⟩ := Option.ne_none_iff_exists'.1 hsome
        have hcached := Workspace.cacheSize?_isSome_of_productionContent? hkept
        rw [now.cacheSize?_fillProduction, hcache, hsize] at hcached
        cases hcached

/-! ### Parsing -/

theorem tallied_opened (held : List Grammar) (target : Link) :
    Tallied entered builds (target.opened held) := by
  cases target with
  | rule slot =>
      exact (Respects.get.bind fun _ => (Respects.demand _ _).bind fun _ => .pure _).tallied
  | handle slot =>
      exact ((Respects.demandAlive _ _ _).bind fun _ =>
        Respects.get.bind fun _ => (Respects.demand _ _).bind fun _ => .pure _).tallied
  | cell place => exact (tallied_cellContent place).bind fun _ => (Respects.pure _).tallied
  | production place index =>
      exact (tallied_productionContent place index).bind fun _ => (Respects.pure _).tallied
  | reference place index =>
      exact (Respects.demandAlive _ _ _).tallied.bind fun _ =>
        (tallied_productionContent place index).bind fun _ => (Respects.pure _).tallied

theorem tallied_parseNoting (matcher : Leaf) :
    (tallying entered builds).Parsers matcher.parseNoting matcher.parseNoting := by
  intro chain start
  refine (tallying entered builds).bind (Correspondence.Parsers.leaf matcher chain start) ?_
  intro outcome
  cases outcome with
  | success => exact (tallying entered builds).pure _
  | failure diagnostic =>
      exact (tallying entered builds).bind ⟨rfl, (noteMiss_sameTally diagnostic).tallied⟩ fun _ =>
        (tallying entered builds).pure _

theorem tallied_grammar {enter : Enter} (henter : ∀ held grammar chain start,
    Tallied entered builds (enter held grammar chain start)) (held : List Grammar) :
    ∀ grammar : Grammar, (tallying entered builds).Parsers (grammar.parser enter held)
      (grammar.parser enter held)
  | .leaf matcher => tallied_parseNoting matcher
  | .unary operator part => (tallied_grammar henter held part).unary operator
  | .binary operator first second =>
      (tallied_grammar henter held first).binary operator (tallied_grammar henter held second)
  | .bind part next =>
      (tallied_grammar henter held part).bind fun value chain start =>
        ⟨rfl, (Grammar.link_sameTally none _).tallied.bind fun selected => henter _ _ chain start⟩
  | .traced label part => fun chain start => by
      refine ⟨rfl, Respects.get.tallied.bind fun now => ?_⟩
      refine (Respects.demand _ _).tallied.bind fun text => ?_
      refine (noteEvent_sameTally _).tallied.bind fun _ => ?_
      refine (tallied_grammar henter held part chain start).2.bind fun outcome => ?_
      exact ((noteEvent_sameTally _).bind fun _ => .pure _).tallied
  | .deferred part => fun chain start =>
      ⟨rfl, (tallied_partContent part).bind fun built => henter _ _ chain start⟩
  | .linked target => fun chain start => by
      refine ⟨rfl, ?_⟩
      show Tallied entered builds (target.parser enter held chain start)
      rw [Link.parser_eq_opened]
      exact (tallied_opened held target).bind fun opened => henter _ _ chain start
  | .deferredOnce _ | .named _ | .siblingOr _ _ | .shared _ _ => fun _ _ =>
      ⟨rfl, (Respects.throw .unbuilt).tallied⟩

/-- **A parse that yields an outcome leaves the tally right.** -/
theorem tallied_parseWithin (depth : Nat) (held : List Grammar) (grammar : Grammar)
    (chain : Chain) (start : Cursor) :
    Tallied entered builds (Grammar.parseWithin depth held grammar chain start) := by
  induction depth generalizing held grammar chain start with
  | zero => exact (Respects.throw .endless).tallied
  | succ depth ih => exact (tallied_grammar ih held grammar chain start).2

end Run

end TokenGrammar
