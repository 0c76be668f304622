import TokenGrammar.Proofs.Indices
import TokenGrammar.Proofs.Lacking
import TokenGrammar.Proofs.Opening
import TokenGrammar.Proofs.Sessions

/-!
# Closed grammars meet no fault

A grammar is closed in a workspace that provides for it. Parsing a closed grammar meets no fault
that says that something is missing, on any chain and from any cursor, and every link that is
followed leads somewhere. What carries the argument is that whatever is reached has been built, that
all its links lead somewhere, and that the grammars which are held own what it keeps, and what was
kept on the way to it (`Ready`). Entering another grammar preserves this, and so does whatever a
parse does before it comes back.
-/

namespace TokenGrammar

/-! ### What is ready to be parsed -/

/-- A workspace on the way of parsing a root. -/
structure Workspace.Tracks (workspace : Workspace) (root : Grammar) (now : Workspace) : Prop where
  follows : workspace.Follows root now
  precedes : workspace.Precedes now
  wellLinked : now.WellLinked

/-- That a construction of what was reached along a path can be parsed with, while grammars are held
that own all that is kept there. -/
structure Ready (workspace : Workspace) (root : Grammar) (now : Workspace)
    (held path : List Grammar) (home? : Option Nat) (grammar built : Grammar) : Prop where
  reaches : workspace.Reaches root path home? grammar
  builds : Builds workspace root now.body? home? grammar built
  stands : built.Stands now.hasTarget
  owns : ∀ keepable ∈ built.keeps, now.Owns held keepable
  attends : now.Attends held path

section Ready

variable {workspace : Workspace} {root : Grammar} {now later : Workspace}
  {held held' path : List Grammar} {home? home'? : Option Nat} {grammar grammar' built : Grammar}

theorem Workspace.Tracks.refl (hlinked : workspace.WellLinked) : workspace.Tracks root workspace :=
  ⟨.refl workspace root, .refl workspace, hlinked⟩

theorem Workspace.Tracks.modifyJournal (h : workspace.Tracks root now)
    (change : Journal → Journal) : workspace.Tracks root (now.modifyJournal change) where
  follows := h.follows.modifyJournal change
  precedes := h.precedes.trans (now.appends_modifyJournal change).precedes
  wellLinked := (h.wellLinked.modifyJournal change).wellLinked

namespace Ready

theorem mono (h : Ready workspace root now held path home? grammar built)
    (hlater : now.Precedes later) : Ready workspace root later held path home? grammar built where
  reaches := h.reaches
  builds := h.builds.mono hlater.bodies
  stands := h.stands.imp hlater.grown.hasTarget
  owns keepable hkeeps := (h.owns keepable hkeeps).mono hlater fun _ hgrammar => hgrammar
  attends := h.attends.mono hlater fun _ hgrammar => hgrammar

theorem of_steps (h : Ready workspace root now held path home? grammar built)
    (hlater : now.Precedes later) (hheld : ∀ grammar ∈ held, grammar ∈ held')
    {steps : List Grammar} {built' : Grammar}
    (hreaches : workspace.Reaches root (grammar' :: (steps ++ path)) home'? grammar')
    (hbuilds : Builds workspace root later.body? home'? grammar' built')
    (hstands : built'.Stands later.hasTarget)
    (howns : ∀ keepable ∈ built'.keeps, later.Owns held' keepable)
    (hsteps : ∀ step ∈ steps, ∀ keepable ∈ step.keeps, later.Owns held' keepable) :
    Ready workspace root later held' (grammar' :: (steps ++ path)) home'? grammar' built' := by
  refine ⟨hreaches, hbuilds, hstands, howns, fun step hstep keepable hkeeps => ?_⟩
  obtain rfl | hstep := List.mem_cons.1 hstep
  · exact howns keepable (hbuilds.mem_keeps hkeeps)
  obtain hstep | hstep := List.mem_append.1 hstep
  · exact hsteps step hstep keepable hkeeps
  · exact (h.attends step hstep keepable hkeeps).mono hlater hheld

section Parts

variable {p q p' q' : Grammar} {next next' : Selector} {label : String}

theorem part {operator : UnaryOperator}
    (h : Ready workspace root now held path home? (.unary operator p) (.unary operator p'))
    (hbuilds : Builds workspace root now.body? home? p p') :
    Ready workspace root now held path home? p p' where
  reaches := h.reaches.part
  builds := hbuilds
  stands := ⟨h.stands.isBuilt, (Bool.and_eq_true_iff.1 h.stands.leads).2⟩
  owns := h.owns
  attends := h.attends

theorem first {operator : BinaryOperator}
    (h : Ready workspace root now held path home? (.binary operator p q)
      (.binary operator p' q'))
    (hbuilds : Builds workspace root now.body? home? p p') :
    Ready workspace root now held path home? p p' where
  reaches := h.reaches.first
  builds := hbuilds
  stands := ⟨(Bool.and_eq_true_iff.1 h.stands.isBuilt).1,
    (Bool.and_eq_true_iff.1 (Bool.and_eq_true_iff.1 h.stands.leads).1).2⟩
  owns keepable hkeeps := h.owns keepable (List.mem_append_left _ hkeeps)
  attends := h.attends

theorem second {operator : BinaryOperator}
    (h : Ready workspace root now held path home? (.binary operator p q)
      (.binary operator p' q'))
    (hbuilds : Builds workspace root now.body? home? q q') :
    Ready workspace root now held path home? q q' where
  reaches := h.reaches.second
  builds := hbuilds
  stands := ⟨(Bool.and_eq_true_iff.1 h.stands.isBuilt).2,
    (Bool.and_eq_true_iff.1 h.stands.leads).2⟩
  owns keepable hkeeps := h.owns keepable (List.mem_append_right _ hkeeps)
  attends := h.attends

theorem selecting (h : Ready workspace root now held path home? (.bind p next) (.bind p' next'))
    (hbuilds : Builds workspace root now.body? home? p p') :
    Ready workspace root now held path home? p p' where
  reaches := h.reaches.selecting
  builds := hbuilds
  stands := ⟨h.stands.isBuilt,
    (Bool.and_eq_true_iff.1 (Bool.and_eq_true_iff.1 h.stands.leads).1).2⟩
  owns := h.owns
  attends := h.attends

theorem traced
    (h : Ready workspace root now held path home? (.traced label p) (.traced label p'))
    (hbuilds : Builds workspace root now.body? home? p p') :
    Ready workspace root now held (p :: path) home? p p' := by
  have hreaches : workspace.Reaches root (p :: ([] ++ path)) home? p := h.reaches.unfolded rfl
  have hleads := (Bool.and_eq_true_iff.1 h.stands.leads).2
  exact h.of_steps (.refl now) (fun _ hmem => hmem) hreaches hbuilds ⟨h.stands.isBuilt, hleads⟩
    h.owns nofun

end Parts

theorem standing (h : Ready workspace root now held path home? grammar built)
    (hlinked : workspace.WellLinked) (hroot : workspace.Covers root)
    (hlink : ∀ target, grammar ≠ .linked target)
    (hstands : workspace.StandsFor root home? grammar home'? grammar')
    (hbuilds : Builds workspace root now.body? home'? grammar' built) :
    ∃ path, Ready workspace root now held path home'? grammar' built := by
  have hkeepers : grammar.keepers = [] := by
    cases grammar <;> first | rfl | exact absurd rfl (hlink _)
  refine ⟨_, h.of_steps (.refl now) (fun _ h => h) (h.reaches.standsFor hlinked hroot hstands)
    hbuilds h.stands h.owns fun step hstep => ?_⟩
  rw [hkeepers] at hstep
  cases hstep

end Ready

end Ready

/-! ### Opening what is ready -/

section Opening

variable {α : Type} {workspace : Workspace} {root : Grammar} {before after : Workspace}
  {held path : List Grammar} {home? : Option Nat} {grammar built : Grammar}

/-- That a run stays on the way and yields something with a property, or meets a fault that is
excused. -/
def Serves (workspace : Workspace) (root : Grammar) (run : Run α) (before : Workspace)
    (post : α → Workspace → Prop) : Prop :=
  Lands run before
    (fun value after => workspace.Tracks root after ∧ before.Precedes after ∧ post value after)
    fun fault _ => workspace.Excuses root fault

def Readied (workspace : Workspace) (root : Grammar) (held : List Grammar) (built : Grammar)
    (now : Workspace) : Prop :=
  ∃ path home? grammar, Ready workspace root now held path home? grammar built

variable (hlinked : workspace.WellLinked) (hroot : workspace.Covers root)

include hlinked hroot

theorem Ready.opens (h : Ready workspace root before held path home? grammar built)
    (htracks : workspace.Tracks root before) {held' : List Grammar} {built' : Grammar}
    (hopens : Opens workspace root home? grammar before built' after)
    (hlater : before.Precedes after)
    (hlinks : before.WellLinkedAfter after ∧ built'.Stands after.hasTarget)
    (hheld : ∀ grammar ∈ held, grammar ∈ held')
    (howns : ∀ keepable ∈ built'.keeps, after.Owns held' keepable)
    (hkeepers : ∀ keeper ∈ grammar.keepers, ∀ keepable ∈ keeper.keeps,
      after.Owns held' keepable) :
    workspace.Tracks root after ∧ before.Precedes after ∧
      Readied workspace root held' built' after := by
  obtain ⟨home'?, grammar', hstands, hbuilt⟩ := hopens
  refine ⟨⟨hbuilt.follows, htracks.precedes.trans hlater, hlinks.1.wellLinked⟩, hlater, ?_⟩
  exact ⟨_, home'?, grammar', h.of_steps hlater hheld (h.reaches.standsFor hlinked hroot hstands)
    hbuilt.builds hlinks.2 howns hkeepers⟩

/-- What is built to be held itself owns what it keeps. -/
theorem Ready.opens_held (h : Ready workspace root before held path home? grammar built)
    (htracks : workspace.Tracks root before) {built' : Grammar}
    (hopens : Opens workspace root home? grammar before built' after)
    (hlater : before.Precedes after)
    (hlinks : before.WellLinkedAfter after ∧ built'.Stands after.hasTarget)
    (hkeepers : grammar.keepers = []) :
    workspace.Tracks root after ∧ before.Precedes after ∧
      Readied workspace root (built' :: held) built' after := by
  refine h.opens hlinked hroot htracks hopens hlater hlinks
    (fun _ hmem => List.mem_cons_of_mem _ hmem)
    (fun _ hkeeps => Workspace.owns_of_mem List.mem_cons_self hkeeps) fun keeper hkeeper => ?_
  rw [hkeepers] at hkeeper
  cases hkeeper

variable (hprovides : workspace.Provides root)

include hprovides

theorem Ready.serves_link {target : Link}
    (h : Ready workspace root before held path home? (.linked target) (.linked target))
    (htracks : workspace.Tracks root before) :
    Serves workspace root (target.opened held) before fun opened after =>
      Readied workspace root opened.1 opened.2 after := by
  refine .of_results (fun opened after hrun => ?_) fun fault after hrun => ?_
  · have hlinks := (target.opened_linksWell held htracks.wellLinked).of_ok hrun
    have howned := Link.owned_of_opened h.owns hlinks.2.leads hrun
    refine h.opens hlinked hroot htracks
      (Link.opened_builds h.reaches.comprises htracks.follows hrun)
      (target.opened_precedes held before opened after hrun) hlinks howned.held howned.content ?_
    intro keeper hkeeper
    rw [List.mem_singleton.1 hkeeper]
    exact howned.keeper
  · exact hprovides.excuses_opened htracks.follows htracks.precedes hlinked hroot h.reaches
      h.stands.leads h.attends hrun

theorem Ready.serves_cell {place : Nat} {part waiting : Grammar}
    (h : Ready workspace root before held path home? (.deferredOnce part) (.linked (.cell place)))
    (htracks : workspace.Tracks root before) (hplace : workspace.cells.size ≤ place)
    (hbody : before.body? place = some waiting)
    (hpresents : workspace.Presents home? part none waiting) :
    Serves workspace root ((Link.cell place).opened held) before fun opened after =>
      Readied workspace root opened.1 opened.2 after := by
  have hserves (now : Workspace) (cell : Cell) (hnow : workspace.Follows root now)
      (hgrows : before.Grows now) (hcell : now.cells[place]? = some cell) :
      workspace.CellServes root now place cell home? (.deferredOnce part) := by
    have hwaiting := hgrows place waiting hbody
    rw [Workspace.body?, hcell] at hwaiting
    cases hwaiting
    exact hnow.serves_of_opened hcell hplace (h.reaches.comprises.unfolded rfl) hpresents
      (.unfolded rfl)
  refine .of_results (fun opened after hrun => ?_) fun fault after hrun => ?_
  · have hlinks := ((Link.cell place).opened_linksWell held htracks.wellLinked).of_ok hrun
    have howned := Link.owned_of_opened h.owns hlinks.2.leads hrun
    have hlater := (Link.cell place).opened_precedes held before opened after hrun
    obtain ⟨content, _, hcontent, hpure⟩ := Run.bind_eq_ok_iff.1 hrun
    obtain ⟨rfl, rfl⟩ := Run.pure_eq_ok_iff.1 hpure
    refine h.opens hlinked hroot htracks
      (Run.cellContent_builds h.reaches.comprises htracks.follows hserves hcontent) hlater hlinks
      howned.held howned.content ?_
    intro keeper hkeeper
    cases hkeeper
  · replace hrun := Run.error_of_bind_pure hrun
    obtain ⟨cell, hcell, _⟩ := Option.map_eq_some_iff.1 hbody
    exact hprovides.excuses_cellContent htracks.follows htracks.precedes hlinked hroot h.reaches
      hcell (hserves before cell htracks.follows (.refl before) hcell) hrun

theorem Ready.serves_deferred {part waiting : Grammar}
    (h : Ready workspace root before held path home? (.deferred part) (.deferred waiting))
    (htracks : workspace.Tracks root before)
    (hpresents : workspace.Presents home? part none waiting) :
    Serves workspace root (Run.partContent waiting) before fun built after =>
      Readied workspace root (built :: held) built after := by
  have hcovers : before.Covers waiting := (Bool.and_eq_true_iff.1 h.stands.leads).2
  refine .of_results (fun built after hrun => ?_) fun fault after hrun => ?_
  · exact h.opens_held hlinked hroot htracks
      (Run.partContent_builds h.reaches.comprises hpresents htracks.follows hrun)
      (Run.partContent_appends waiting before built after hrun).precedes
      ((Run.partContent_linksWell htracks.wellLinked hcovers).of_ok hrun) rfl
  · exact hprovides.excuses_partContent htracks.follows htracks.precedes h.reaches hpresents hrun

omit hlinked hroot in
theorem Ready.serves_selected {part built : Grammar} {next next' : Selector} (value : Value)
    (h : Ready workspace root before held path home? (.bind part next) (.bind built next'))
    (htracks : workspace.Tracks root before)
    (hpresents : workspace.Presents home? (next.select value) none (next'.select value)) :
    Serves workspace root ((next'.select value).link none) before fun selected after =>
      Readied workspace root (selected :: held) selected after := by
  have hreaches := h.reaches.selected value
  have hnext : next'.all (Grammar.leads before.hasTarget) :=
    (Bool.and_eq_true_iff.1 h.stands.leads).2
  have hcovers := Selector.all_select (Grammar.selected_leads before.hasTarget) value hnext
  refine .of_results (fun selected after hrun => ?_) fun fault after hrun => ?_
  · have hbuilt := Grammar.link_builds _ hreaches.comprises hpresents htracks.follows hrun
    have hlater := (Grammar.link_appends none _ before selected after hrun).precedes
    have hlinks := (Grammar.link_linksWell _ none htracks.wellLinked hcovers).of_ok hrun
    have hsteps : workspace.Reaches root (next.select value :: ([] ++ path)) home?
        (next.select value) := hreaches
    refine ⟨⟨hbuilt.follows, htracks.precedes.trans hlater, hlinks.1.wellLinked⟩, hlater, _, home?,
      _, h.of_steps hlater (fun _ hmem => List.mem_cons_of_mem _ hmem) hsteps hbuilt.builds
        hlinks.2 (fun _ hkeeps => Workspace.owns_of_mem List.mem_cons_self hkeeps) ?_⟩
    intro step hstep
    cases hstep
  · exact hprovides.excuses_link _ hreaches hpresents htracks.follows htracks.precedes hrun

end Opening

/-! ### Indices in range -/

/-- Whether what a link leads to is in range, and if it is a production of a module that keeps what
was built, then its place for that as well. -/
def Workspace.InRange (workspace : Workspace) : Link → Prop
  | .rule slot | .handle slot => slot < workspace.slots.size
  | .cell place => place < workspace.cells.size
  | .production place index | .reference place index => ∃ found,
      workspace.modules[place]? = some found ∧ index < found.productions.length ∧
        ∀ cache, found.cache? = some cache → index < cache.size

theorem Workspace.WellLinked.inRange {workspace : Workspace} (h : workspace.WellLinked)
    {target : Link} (hthere : workspace.hasTarget target) : workspace.InRange target := by
  cases target with
  | rule | handle | cell =>
      have hlt := of_decide_eq_true hthere
      exact hlt
  | production place index | reference place index =>
      obtain ⟨definition, hdefinition⟩ := Option.isSome_iff_exists.1 hthere
      obtain ⟨found, hfound, hproduction⟩ := Option.bind_eq_some_iff.1 hdefinition
      obtain ⟨production, hproduction, _⟩ := Option.bind_eq_some_iff.1 hproduction
      have hindex := (List.getElem?_eq_some_iff.1 hproduction).1
      refine ⟨found, hfound, hindex, fun cache hcache => ?_⟩
      rw [h.caches hfound hcache]
      exact hindex

/-- Whether the link that is followed at a step, if one is, is in range. -/
def Visit.InRange (visit : Visit) : Prop :=
  ∀ target, visit.subject = .built (.linked target) → visit.before.InRange target

def Diary.InRange (diary : Diary) : Prop := ∀ visit ∈ diary.visits, visit.InRange

/-! ### Parsing -/

namespace Watched

variable {α β : Type} {workspace : Workspace} {root : Grammar}

/-- That a watched run stays on the way or meets a fault that is excused, and follows no link that
is out of range. -/
def Safe (workspace : Workspace) (root : Grammar) (run : Watched α) (before : Diary)
    (post : α → Workspace → Prop) : Prop :=
  Lands run before
    (fun value after => workspace.Tracks root after.workspace ∧
      before.workspace.Precedes after.workspace ∧ after.InRange ∧ post value after.workspace)
    fun fault after => workspace.Excuses root fault ∧ after.InRange

theorem Safe.bind {run : Watched α} {next : α → Watched β} {before : Diary}
    {between : α → Workspace → Prop} {post : β → Workspace → Prop}
    (hrun : Safe workspace root run before between)
    (hnext : ∀ a now, workspace.Tracks root now.workspace → now.InRange →
      before.workspace.Precedes now.workspace → between a now.workspace →
        Safe workspace root (next a) now post) :
    Safe workspace root (run >>= next) before post := by
  refine Lands.bind hrun fun a now hnow => ?_
  obtain ⟨htracks, hlater, hrange, hbetween⟩ := hnow
  refine (hnext a now htracks hrange hlater hbetween).imp (fun b after hafter => ?_)
    fun _ _ hfault => hfault
  exact ⟨hafter.1, hlater.trans hafter.2.1, hafter.2.2⟩

theorem safe_ofRun {run : Run α} {before : Diary} {post : α → Workspace → Prop}
    (hrange : before.InRange) (hrun : Serves workspace root run before.workspace post) :
    Safe workspace root (ofRun run) before post :=
  lands_ofRun (hrun.imp (fun _ _ hafter => ⟨hafter.1, hafter.2.1, hrange, hafter.2.2⟩)
    fun _ _ hexcused => ⟨hexcused, hrange⟩)

def safely (workspace : Workspace) (root : Grammar) (base : Workspace) :
    Correspondence Watched Watched where
  Relates run _ := ∀ before : Diary, workspace.Tracks root before.workspace →
    base.Precedes before.workspace → before.InRange →
      Safe workspace root run before fun _ _ => True
  pure _ _ htracks _ hrange := ⟨htracks, .refl _, hrange, trivial⟩
  bind hrun hnext before htracks hbase hrange := by
    refine (hrun before htracks hbase hrange).bind fun a now htracks hrange hlater _ => ?_
    exact hnext a now htracks (hbase.trans hlater) hrange

/-- A step is safe if what follows is, and a link that it follows leads somewhere. -/
theorem safely_visit {base : Workspace} {subject : Subject} {depth : Nat} {held : List Grammar}
    {p : Parser Watched Value}
    (hthere : ∀ target, subject = .built (.linked target) → base.hasTarget target)
    (hp : (safely workspace root base).Parsers p p) :
    (safely workspace root base).Parsers (visit subject depth held p)
      (visit subject depth held p) := by
  intro chain start before htracks hbase hrange
  refine hp chain start _ htracks hbase fun step hstep => ?_
  obtain rfl | hstep := List.mem_cons.1 hstep
  · intro target htarget
    exact htracks.wellLinked.inRange (hbase.grown.hasTarget target (hthere target htarget))
  · exact hrange step hstep

end Watched

section Parsing

open Watched

variable {workspace : Workspace} {root : Grammar} {chain : Chain} {start : Cursor}

def Secures (workspace : Workspace) (root : Grammar)
    (enter : List Grammar → Grammar → Parser Watched Value) : Prop :=
  ∀ {held : List Grammar} {built : Grammar} (chain : Chain) (start : Cursor) (before : Diary),
    workspace.Tracks root before.workspace → before.InRange →
      Readied workspace root held built before.workspace →
        Safe workspace root (enter held built chain start) before fun _ _ => True

theorem Secures.safe_ofRun_bind {α : Type} {enter : List Grammar → Grammar → Parser Watched Value}
    (henter : Secures workspace root enter) {run : Run α} {before : Diary}
    {held : α → List Grammar} {built : α → Grammar} (hrange : before.InRange)
    (hserves : Serves workspace root run before.workspace fun a after =>
      Readied workspace root (held a) (built a) after) :
    Safe workspace root (ofRun run >>= fun a => enter (held a) (built a) chain start) before
      fun _ _ => True := by
  refine (safe_ofRun hrange hserves).bind fun a now htracks hrange _ hready => ?_
  exact henter chain start now htracks hrange hready

theorem serves_modifyJournal {before : Workspace} (htracks : workspace.Tracks root before)
    (change : Journal → Journal) :
    Serves workspace root (modify (·.modifyJournal change)) before fun _ _ => True :=
  ⟨htracks.modifyJournal change, (before.appends_modifyJournal change).precedes, trivial⟩

theorem serves_parseNoting (matcher : Leaf) {before : Workspace}
    (htracks : workspace.Tracks root before) :
    Serves workspace root (matcher.parseNoting chain start) before fun _ _ => True := by
  rw [Leaf.parseNoting_eq]
  exact serves_modifyJournal htracks _

/-- Announcing a part fails only if it has no representation. -/
theorem serves_announcing {held path : List Grammar} {home? : Option Nat} {label : String}
    {part built : Grammar} {before : Workspace} (htracks : workspace.Tracks root before)
    (hreaches : workspace.Reaches root path home? (.traced label part)) :
    Serves workspace root (do
      let text ← Run.demand .unprintable ((← get).textOf? held built)
      Run.noteEvent (.entered label text start)) before fun _ _ => True := by
  unfold Serves Lands
  rw [Run.get_bind]
  cases before.textOf? held built with
  | none => exact ⟨path, home?, label, part, hreaches⟩
  | some text => exact serves_modifyJournal htracks _

variable (hlinked : workspace.WellLinked) (hroot : workspace.Covers root)
  (hprovides : workspace.Provides root)

include hlinked hroot hprovides

theorem Ready.safely_watchedParser {depth : Nat}
    {enter : List Grammar → Grammar → Parser Watched Value} (henter : Secures workspace root enter)
    {base : Workspace} {held : List Grammar} {home? : Option Nat} {grammar built : Grammar}
    (hbuilds : Builds workspace root base.body? home? grammar built) :
    ∀ {path : List Grammar}, Ready workspace root base held path home? grammar built →
      (safely workspace root base).Parsers (built.watchedParser depth enter held)
        (built.watchedParser depth enter held) := by
  induction hbuilds with
  | leaf =>
      intro path h
      refine safely_visit nofun fun chain start before htracks _ hrange => ?_
      exact safe_ofRun hrange (serves_parseNoting _ htracks)
  | @unary _ operator _ _ hbuilds ih =>
      intro path h
      exact safely_visit nofun ((ih (h.part hbuilds)).unary operator)
  | @binary _ operator _ _ _ _ hfirst hsecond ihfirst ihsecond =>
      intro path h
      exact safely_visit nofun
        ((ihfirst (h.first hfirst)).binary operator (ihsecond (h.second hsecond)))
  | bind hbuilds hnext ih =>
      intro path h
      refine safely_visit nofun (.bind (ih (h.selecting hbuilds)) fun value =>
        safely_visit nofun ?_)
      intro chain start before htracks hbase hrange
      have hserves := (h.mono hbase).serves_selected hprovides value htracks (hnext value)
      exact henter.safe_ofRun_bind hrange hserves
  | traced hbuilds ih =>
      intro path h
      refine safely_visit nofun fun chain start before htracks hbase hrange => ?_
      refine (safe_ofRun hrange (serves_announcing htracks h.reaches)).bind ?_
      intro _ now htracks hrange hlater _
      refine (ih (h.traced hbuilds) chain start now htracks (hbase.trans hlater) hrange).bind ?_
      intro outcome later htracks hrange _ _
      refine (safe_ofRun hrange (serves_modifyJournal htracks _)).bind ?_
      intro _ last htracks hrange _ _
      exact ⟨htracks, .refl _, hrange, trivial⟩
  | deferred hpresents =>
      intro path h
      refine safely_visit nofun fun chain start before htracks hbase hrange => ?_
      have hserves := (h.mono hbase).serves_deferred hlinked hroot hprovides htracks hpresents
      exact henter.safe_ofRun_bind hrange hserves
  | @opened _ place part waiting hplace hbody hpresents =>
      intro path h
      have hthere (target : Link) (htarget : Subject.built (.linked (.cell place))
          = .built (.linked target)) : base.hasTarget target := by
        cases htarget
        exact h.stands.leads
      refine safely_visit hthere fun chain start before htracks hbase hrange => ?_
      have hserves := (h.mono hbase).serves_cell hlinked hroot hprovides htracks hplace
        (hbase.bodies place waiting hbody) hpresents
      exact henter.safe_ofRun_bind hrange hserves
  | @linked _ target =>
      intro path h
      have hthere (target' : Link) (htarget : Subject.built (.linked target)
          = .built (.linked target')) : base.hasTarget target' := by
        cases htarget
        exact h.stands.leads
      refine safely_visit hthere fun chain start before htracks hbase hrange => ?_
      have hserves := (h.mono hbase).serves_link hlinked hroot hprovides htracks
      exact henter.safe_ofRun_bind hrange hserves
  | standing hlink hstands hbuilds ih =>
      intro path h
      obtain ⟨path', hready⟩ := h.standing hlinked hroot hlink hstands hbuilds
      exact ih hready
  | named | siblingOr | shared | deferredOnce => exact fun h => nomatch h.stands.isBuilt

/-- **Parsing what is ready is safe**, by induction on the depth. -/
theorem secures_watchWithin (depth : Nat) :
    Secures workspace root fun held grammar => grammar.watchWithin depth held := by
  induction depth with
  | zero => exact fun _ _ _ _ hrange _ => ⟨trivial, hrange⟩
  | succ depth ih =>
      rintro held built chain start before htracks hrange ⟨path, home?, grammar, hready⟩
      exact hready.safely_watchedParser hlinked hroot hprovides ih hready.builds chain start
        before htracks (.refl _) hrange

/-- Parsing the root itself is safe, because it is held and owns all that it keeps. -/
theorem Grammar.safe_watchWithin (hstands : root.Stands workspace.hasTarget) (depth : Nat)
    (chain : Chain) (start : Cursor) :
    Safe workspace root (root.watchWithin depth [root] chain start) { workspace }
      fun _ _ => True := by
  have howns : ∀ keepable ∈ root.keeps, workspace.Owns [root] keepable :=
    fun _ hkeeps => Workspace.owns_of_mem (List.mem_singleton_self root) hkeeps
  have hready : Ready workspace root workspace [root] [root] none root root :=
    ⟨.root, .refl _ root, hstands, howns, fun step hstep => List.mem_singleton.1 hstep ▸ howns⟩
  exact secures_watchWithin hlinked hroot hprovides depth chain start { workspace } (.refl hlinked)
    nofun ⟨_, _, _, hready⟩

end Parsing

/-- **Parsing a closed grammar meets no fault that says that something is missing**, and follows no
link that is out of range. Without regard to what is provided, a parse ends in such a fault exactly
if one of its steps lacks what the fault says is missing, whatever surrounds that step. Repetitions
may be explored and groups collected by index, as no index is ever out of range. -/
theorem Session.faultless_of_provides {session : Session} (hreached : session.Reached)
    {grammar root : Grammar} (hgrammar : grammar.all Grammar.isUnlinked) {workspace : Workspace}
    (hlink : grammar.link none session.workspace.clearJournal = .ok root workspace)
    (depth : Nat) (chain : Chain) (start : Cursor) :
    (workspace.Provides root →
      (∀ fault after, root.parseWithin depth [root] chain start workspace = .error fault after →
        workspace.Excuses root fault) ∧
      ∀ visit ∈ root.visits depth [root] chain start workspace, visit.InRange) ∧
    (∀ fault : Fault, fault.isMissing →
      ((∃ after, root.parseWithin depth [root] chain start workspace = .error fault after) ↔
        ∃ visit ∈ root.visits depth [root] chain start workspace, visit.Lacks fault)) ∧
    (∀ (part : Grammar) (held : List Grammar) (before : Workspace), ∃ steps, ∀ more,
      (part.parseWithin depth held).manyByIndex (steps + more) chain start before
        = (part.parseWithin depth held).manyShortestFirst chain start before) ∧
    ∀ candidates : List (Candidate Value),
      IndexedGroups.ofCandidates? candidates = some (groupByStop candidates) := by
  obtain ⟨hlinked, hstands⟩ := hreached.stands_of_link hgrammar hlink
  refine ⟨fun hprovides => ?_, fun fault hmissing => Grammar.error_iff_lacks hmissing,
    fun part held before => part.manyByIndex_parseWithin depth held chain start before,
    IndexedGroups.ofCandidates?_eq⟩
  have hsafe := Grammar.safe_watchWithin hlinked hstands.leads hprovides hstands depth chain start
  have hreflects := root.watchWithin_reflects depth [root] chain start { workspace }
  unfold Grammar.visits
  cases hwatched : root.watchWithin depth [root] chain start { workspace } with
  | ok outcome last =>
      refine ⟨fun fault after hparse => ?_, (hsafe.of_ok hwatched).2.2.1⟩
      cases (hreflects.of_ok hwatched).1.symm.trans hparse
  | error fault' last =>
      obtain ⟨hexcused, hrange⟩ := hsafe.of_error hwatched
      refine ⟨fun fault after hparse => ?_, hrange⟩
      cases (hreflects.of_error hwatched).1.symm.trans hparse
      exact hexcused

section Letters

private def lettersBefore (again : Grammar) : Grammar :=
  .binary .either (.binary .seqRight (.leaf (.literal "a")) again) (.leaf .nothing)

/-- Letters as a rule, which refers to itself by a handle, and as a production, which refers to
itself as a sibling. The production is stored, and its module has no name. -/
private def letterSession : Session :=
  (((Session.perform {} (.openRule "letters")).2.perform
    (.setRule "letters" (lettersBefore (.named (.handle "letters"))))).2.perform
    (.storeOnly "spelling" [("letters", lettersBefore (.named (.sibling "letters")))] "letters")).2

private def letterWorkspace : Workspace where
  slots := #[some (lettersBefore (.linked (.handle 0)))]
  modules := #[.ofDefinitions [("letters", lettersBefore (.named (.sibling "letters")))] false]
  rules := [("letters", 0)]
  parsers := [("spelling", .linked (.production 0 0))]

private def letterGrammar : Grammar :=
  .binary .seq (.named (.rule "letters")) (.named (.parser "spelling"))

private def letterRoot : Grammar := .binary .seq (.linked (.rule 0)) (.linked (.production 0 0))

/-- What can be reached from the letters, each with what is held on the way and with its home. The
reference is reached behind the production only. -/
private inductive LetterPart : List Grammar → Option Nat → Grammar → Prop
  | root {path : List Grammar} : LetterPart path none letterRoot
  | rule {path : List Grammar} : LetterPart path none (.linked (.rule 0))
  | production {path : List Grammar} : LetterPart path none (.linked (.production 0 0))
  | handle {path : List Grammar} : LetterPart path none (.linked (.handle 0))
  | sibling {path : List Grammar} : .linked (.production 0 0) ∈ path →
      LetterPart path (some 0) (.named (.sibling "letters"))
  | reference {path : List Grammar} : .linked (.production 0 0) ∈ path →
      LetterPart path none (.linked (.reference 0 0))
  | pattern {path : List Grammar} : LetterPart path none (lettersBefore (.linked (.handle 0)))
  | definition {path : List Grammar} : .linked (.production 0 0) ∈ path →
      LetterPart path (some 0) (lettersBefore (.named (.sibling "letters")))
  | step {path : List Grammar} {home? : Option Nat} {again : Grammar} :
      LetterPart path home? again →
      LetterPart path home? (.binary .seqRight (.leaf (.literal "a")) again)
  | leaf {path : List Grammar} {home? : Option Nat} {matcher : Leaf} :
      LetterPart path home? (.leaf matcher)

private theorem letterPart_of_reaches {path : List Grammar} {home? : Option Nat} {grammar : Grammar}
    (h : letterWorkspace.Reaches letterRoot path home? grammar) :
    LetterPart path home? grammar := by
  induction h with
  | root => exact .root
  | part _ ih | selecting _ ih | selected _ _ ih | stored _ _ ih => cases ih
  | first _ ih =>
      cases ih with
      | root => exact .rule
      | pattern => exact .step .handle
      | definition hpath => exact .step (.sibling hpath)
      | step => exact .leaf
  | second _ ih =>
      cases ih with
      | root => exact .production
      | pattern | definition => exact .leaf
      | step hagain => exact hagain
  | unfolded _ hmeaning ih =>
      cases ih with
      | rule | handle =>
          cases hmeaning
          exact .pattern
      | production | reference =>
          cases hmeaning
          exact .definition (List.mem_cons_of_mem _ List.mem_cons_self)
      | sibling hpath =>
          cases hmeaning
          exact .reference (List.mem_cons_of_mem _ hpath)
      | root | pattern | definition | step | leaf => cases hmeaning

private theorem provides_letterRoot : letterWorkspace.Provides letterRoot where
  rules h := by
    cases letterPart_of_reaches h
    rfl
  handles h := by
    cases letterPart_of_reaches h
    exact ⟨rfl, Workspace.lasts_of_rule (List.mem_singleton_self _)⟩
  siblings h := by
    cases letterPart_of_reaches h
    rfl
  references h := by
    cases letterPart_of_reaches h with
    | reference hpath => exact Workspace.lasts_of_production hpath

theorem Session.faultless_letters :
    ∃ (session : Session) (grammar root : Grammar) (workspace : Workspace),
      session.Reached ∧ grammar.all Grammar.isUnlinked ∧
      grammar.link none session.workspace.clearJournal = .ok root workspace ∧
      workspace.Provides root ∧ ∀ depth chain start fault after,
        root.parseWithin depth [root] chain start workspace = .error fault after →
          workspace.Excuses root fault := by
  have hreached : letterSession.Reached := .perform (.perform (.perform .start rfl) rfl) rfl
  have hgrammar : letterGrammar.all Grammar.isUnlinked := rfl
  have hlink : letterGrammar.link none letterSession.workspace.clearJournal
      = .ok letterRoot letterWorkspace := rfl
  refine ⟨letterSession, letterGrammar, letterRoot, letterWorkspace, hreached, hgrammar, hlink,
    provides_letterRoot, fun depth chain start => ?_⟩
  exact ((faultless_of_provides hreached hgrammar hlink depth chain start).1
    provides_letterRoot).1

end Letters

end TokenGrammar
