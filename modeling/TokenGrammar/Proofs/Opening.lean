import TokenGrammar.Proofs.Faults
import TokenGrammar.Proofs.Provision

/-!
# Opening what is provided

Where a parse goes on with another grammar, it first looks up or builds that grammar. If nothing is
missing that it relies on, then this fails only for the reasons that excuse a fault, and what is
opened is ready to be parsed: the grammars that are held own whatever it keeps, and whatever was
kept on the way to it.
-/

namespace TokenGrammar

section Building

variable {workspace : Workspace} {root : Grammar} {path : List Grammar} {home? at? : Option Nat}
  {before after : Workspace} {fault : Fault}

theorem Workspace.bound?_eq_none (hfollows : workspace.Follows root before)
    (hprecedes : workspace.Precedes before) {name : Name}
    (hnone : before.bound? home? name = none) : workspace.bound? home? name = none := by
  cases name with
  | parser label =>
      have hnone : before.parsers.find? label = none := hnone
      refine Option.eq_none_iff_forall_ne_some.2 fun built hbuilt => ?_
      have hbound := hprecedes.parsers label (Option.isSome_iff_exists.2 ⟨built, hbuilt⟩)
      rw [hnone] at hbound
      cases hbound
  | rule | handle | production | sibling =>
      rw [← hfollows.bound? home? (by simp), hnone]

/-- A name is missing only if it was bound to nothing, and was not the name of a sibling. -/
theorem Workspace.Provides.excuses_missing (hprovides : workspace.Provides root) {name : Name}
    (hreaches : workspace.Reaches root path home? (.named name))
    (hnone : workspace.bound? home? name = none) : workspace.Excuses root name.missing := by
  cases name with
  | sibling label =>
      have hsibling := hprovides.siblings hreaches
      rw [Workspace.bound?, Option.map_eq_none_iff] at hnone
      rw [hnone] at hsibling
      cases hsibling
  | rule | handle | parser | production => exact ⟨path, home?, hreaches, hnone⟩

theorem Workspace.Provides.excuses_resolve (hprovides : workspace.Provides root) {name : Name}
    {grammar : Grammar} (hreaches : workspace.Reaches root path home? (.named name))
    (hpresents : workspace.Presents home? (.named name) at? grammar)
    (hfollows : workspace.Follows root before) (hprecedes : workspace.Precedes before)
    (hrun : grammar.link at? before = .error fault after) : workspace.Excuses root fault := by
  have hnamed {at? : Option Nat} (hsame : before.bound? at? name = before.bound? home? name)
      (hrun : name.resolve at? before = .error fault after) : workspace.Excuses root fault := by
    rw [Name.resolve_eq, hsame] at hrun
    cases hbound : before.bound? home? name with
    | some found => simp [hbound] at hrun
    | none =>
        rw [hbound] at hrun
        cases hrun
        have hunbound := Workspace.bound?_eq_none hfollows hprecedes hbound
        exact hprovides.excuses_missing hreaches hunbound
  obtain ⟨rfl, rfl⟩ | ⟨rfl, rfl⟩ := hpresents
  · exact hnamed rfl hrun
  · cases name with
    | sibling label =>
        -- an anchored sibling was found when it was anchored
        obtain ⟨target, htarget⟩ := Option.isSome_iff_exists.1 (hprovides.siblings hreaches)
        simp only [Grammar.anchor, htarget] at hrun
        cases hrun
    | rule | handle | parser | production => exact hnamed rfl hrun

/-- **Building fails only for a name that is bound to nothing**, by induction on the part. -/
theorem Workspace.Provides.excuses_link (hprovides : workspace.Provides root) :
    ∀ (part : Grammar) {path : List Grammar} {home? at? : Option Nat} {grammar : Grammar}
      {before after : Workspace} {fault : Fault}, workspace.Reaches root path home? part →
      workspace.Presents home? part at? grammar → workspace.Follows root before →
      workspace.Precedes before → grammar.link at? before = .error fault after →
      workspace.Excuses root fault
  | .leaf _, _, _, _, _, _, _, _, _, hpresents, _, _, hrun => by
      obtain rfl := hpresents.leaf
      cases hrun
  | .unary operator part, _, _, _, _, _, _, _, hreaches, hpresents, hfollows, hprecedes, hrun => by
      obtain ⟨part', rfl, hpart⟩ := hpresents.unary
      replace hrun := Run.error_of_bind_pure hrun
      exact hprovides.excuses_link part hreaches.part hpart hfollows hprecedes hrun
  | .binary operator first second, _, _, _, _, before, _, _, hreaches, hpresents, hfollows,
      hprecedes, hrun => by
      obtain ⟨first', second', rfl, hfirst, hsecond⟩ := hpresents.binary
      obtain hrun | ⟨built, between, hlink, hrun⟩ := Run.bind_eq_error_iff.1 hrun
      · exact hprovides.excuses_link first hreaches.first hfirst hfollows hprecedes hrun
      replace hrun := Run.error_of_bind_pure hrun
      have hlinked := Grammar.link_builds first hreaches.comprises.first hfirst hfollows hlink
      have hlater := (first'.link_appends _ before built between hlink).precedes
      exact hprovides.excuses_link second hreaches.second hsecond hlinked.follows
        (hprecedes.trans hlater) hrun
  | .bind part next, _, _, _, _, _, _, _, hreaches, hpresents, hfollows, hprecedes, hrun => by
      obtain ⟨part', next', rfl, hpart, _⟩ := hpresents.bind
      replace hrun := Run.error_of_bind (by rintro _ _ ⟨⟩) hrun
      exact hprovides.excuses_link part hreaches.selecting hpart hfollows hprecedes hrun
  | .traced label part, _, _, _, _, _, _, _, hreaches, hpresents, hfollows, hprecedes, hrun => by
      obtain ⟨part', rfl, hpart⟩ := hpresents.traced
      replace hrun := Run.error_of_bind_pure hrun
      exact hprovides.excuses_link part (hreaches.unfolded rfl) hpart hfollows hprecedes hrun
  | .deferred part, _, _, _, _, _, _, _, _, hpresents, _, _, hrun => by
      obtain ⟨part', rfl, _⟩ := hpresents.deferred
      cases hrun
  | .deferredOnce part, _, _, _, _, _, _, _, _, hpresents, _, _, hrun => by
      obtain ⟨part', rfl, _⟩ := hpresents.deferredOnce
      cases hrun
  | .named name, _, _, _, _, _, _, _, hreaches, hpresents, hfollows, hprecedes, hrun =>
      hprovides.excuses_resolve hreaches hpresents hfollows hprecedes hrun
  | .siblingOr name otherwise, _, home?, _, _, before, _, _, hreaches, hpresents, hfollows,
      hprecedes, hrun => by
      cases hfind : workspace.siblingsAt home? name with
      | some target =>
          obtain ⟨rfl, rfl⟩ | ⟨rfl, rfl⟩ := hpresents
          · rw [Grammar.link_siblingOr, hfollows.siblingsAt, hfind] at hrun
            cases hrun
          · simp only [Grammar.anchor, hfind] at hrun
            cases hrun
      | none =>
          have hunfold : workspace.meaning? home? (.siblingOr name otherwise)
              = some (home?, otherwise) := by
            simp [Workspace.meaning?, hfind]
          have hreaches' := hreaches.unfolded hunfold
          obtain ⟨rfl, rfl⟩ | ⟨rfl, rfl⟩ := hpresents
          · rw [Grammar.link_siblingOr, hfollows.siblingsAt, hfind] at hrun
            exact hprovides.excuses_link otherwise hreaches' (.refl _ _ _) hfollows hprecedes hrun
          · simp only [Grammar.anchor, hfind] at hrun
            exact hprovides.excuses_link otherwise hreaches' (.inr ⟨rfl, rfl⟩) hfollows hprecedes
              hrun
  | .shared label part, _, _, _, _, _, _, _, hreaches, hpresents, hfollows, hprecedes, hrun => by
      obtain ⟨part', rfl, hpart⟩ := hpresents.shared
      replace hrun := Run.error_of_bind (by rintro _ _ ⟨⟩) hrun
      exact hprovides.excuses_link part (hreaches.unfolded rfl) hpart hfollows hprecedes hrun
  | .linked target, _, _, _, _, _, _, _, _, hpresents, _, _, hrun => by
      obtain rfl := hpresents.linked
      cases hrun

end Building

/-! ### Contents -/

section Contents

variable {workspace : Workspace} {root : Grammar} {path : List Grammar} {home? : Option Nat}
  {before after : Workspace} {fault : Fault} (hprovides : workspace.Provides root)
  (hfollows : workspace.Follows root before) (hprecedes : workspace.Precedes before)

include hprovides hfollows hprecedes

/-- What a site holds is there already, or building it fails only for what excuses a fault. -/
theorem Workspace.Provides.excuses_keptOr {kept? : Option Grammar} {site : Site}
    {at? : Option Nat} {grammar : Grammar} {keep : Grammar → Workspace → Workspace}
    (hpart : kept? = none → ∃ path home? part, workspace.Reaches root path home? part ∧
      workspace.Presents home? part at? grammar)
    (hrun : Run.keptOr kept? site at? grammar keep (before.entered site) = .error fault after) :
    workspace.Excuses root fault := by
  cases kept? with
  | some built => cases hrun
  | none =>
      obtain ⟨path, home?, part, hreaches, hpresents⟩ := hpart rfl
      rw [Run.keptOr_eq_error_iff] at hrun
      have hentered := hprecedes.trans (before.appends_entered site).precedes
      have hbegun := hentered.trans ((before.entered site).appends_begun site).precedes
      exact hprovides.excuses_link part hreaches hpresents
        ((hfollows.modifyJournal _).modifyJournal _) hbegun hrun

theorem Workspace.Provides.excuses_partContent {part grammar : Grammar}
    (hreaches : workspace.Reaches root path home? (.deferred part))
    (hpresents : workspace.Presents home? part none grammar)
    (hrun : Run.partContent grammar before = .error fault after) :
    workspace.Excuses root fault := by
  rw [Run.partContent_eq] at hrun
  exact hprovides.excuses_keptOr hfollows hprecedes
    (fun _ => ⟨_, _, _, hreaches.unfolded rfl, hpresents⟩) hrun

theorem Workspace.Provides.excuses_cellContent (hlinked : workspace.WellLinked)
    (hroot : workspace.Covers root) {place : Nat} {grammar : Grammar}
    (hreaches : workspace.Reaches root path home? grammar) {cell : Cell}
    (hcell : before.cells[place]? = some cell)
    (hserves : workspace.CellServes root before place cell home? grammar)
    (hrun : Run.cellContent place before = .error fault after) : workspace.Excuses root fault := by
  obtain ⟨home'?, part, hstands, _, hwaiting⟩ := hserves
  have hbody : before.body? place = some cell.body := by rw [Workspace.body?, hcell]; rfl
  have hkept : before.cellContent? place = cell.built? := by
    rw [Workspace.cellContent?, hcell]
    rfl
  rw [Run.cellContent_eq hbody] at hrun
  refine hprovides.excuses_keptOr hfollows hprecedes (fun hempty => ?_) hrun
  exact ⟨_, _, part, hreaches.standsFor hlinked hroot hstands, (hwaiting (hkept ▸ hempty)).2⟩

theorem Workspace.Provides.excuses_productionContent {target : Link} {place index : Nat}
    (htarget : target = .production place index ∨ target = .reference place index)
    (hreaches : workspace.Reaches root path home? (.linked target))
    (hthere : before.hasTarget target)
    (hrun : Run.productionContent place index before = .error fault after) :
    workspace.Excuses root fault := by
  have hsome : (before.definition? place index).isSome := by
    obtain rfl | rfl := htarget <;> exact hthere
  obtain ⟨definition, hdefinition⟩ := Option.isSome_iff_exists.1 hsome
  rw [Run.productionContent_eq fun _ => hdefinition] at hrun
  refine hprovides.excuses_keptOr hfollows hprecedes (fun hempty => ?_) hrun
  rw [hfollows.definition?] at hdefinition
  have hmeaning := Workspace.meaning?_of_definition htarget home?
    (hfollows.productionContent?_eq_none hempty) hdefinition
  exact ⟨_, _, definition, hreaches.unfolded hmeaning, .refl _ _ _⟩

/-- **Opening a link fails only for what excuses a fault.** -/
theorem Workspace.Provides.excuses_opened (hlinked : workspace.WellLinked)
    (hroot : workspace.Covers root) {held : List Grammar} {target : Link}
    (hreaches : workspace.Reaches root path home? (.linked target))
    (hthere : before.hasTarget target) (hattends : before.Attends held path)
    (hrun : target.opened held before = .error fault after) : workspace.Excuses root fault := by
  have hpattern {slot : Nat} {next : Grammar → List Grammar × Grammar}
      (hset : (workspace.pattern? slot).isSome)
      (hrun : (get >>= fun now => Run.demand .unsetRule (now.pattern? slot) >>= fun pattern =>
        pure (next pattern) : Run (List Grammar × Grammar)) before = .error fault after) :
      workspace.Excuses root fault := by
    obtain ⟨pattern, hpattern⟩ := Option.isSome_iff_exists.1 hset
    rw [Run.get_bind, hfollows.pattern?, hpattern] at hrun
    cases hrun
  cases target with
  | rule slot => exact hpattern (hprovides.rules hreaches) hrun
  | handle slot =>
      obtain ⟨hset, hlasts⟩ := hprovides.handles hreaches
      have halive := hlasts.isAlive hfollows hprecedes hattends
      rw [Link.opened, Run.bind_of_ok (Run.demandAlive_of halive)] at hrun
      exact hpattern hset hrun
  | cell place =>
      replace hrun := Run.error_of_bind_pure hrun
      have hcell := Array.getElem?_eq_getElem (of_decide_eq_true hthere)
      exact hprovides.excuses_cellContent hfollows hprecedes hlinked hroot hreaches hcell
        (hfollows.serves_link hcell hreaches.comprises) hrun
  | production place index =>
      replace hrun := Run.error_of_bind_pure hrun
      exact hprovides.excuses_productionContent hfollows hprecedes (.inl rfl) hreaches hthere hrun
  | reference place index =>
      have halive := (hprovides.references hreaches).isAlive hfollows hprecedes hattends
      rw [Link.opened, Run.bind_of_ok (Run.demandAlive_of halive)] at hrun
      replace hrun := Run.error_of_bind_pure hrun
      exact hprovides.excuses_productionContent hfollows hprecedes (.inr rfl) hreaches hthere hrun

end Contents

/-! ### What is opened is owned -/

section Owning

variable {before after : Workspace} {held : List Grammar}

theorem Run.cellContent_kept {place : Nat} {built : Grammar}
    (hrun : Run.cellContent place before = .ok built after) :
    after.cellContent? place = some built := by
  obtain ⟨cell, hcell, hcontent⟩ := Run.cellContent_eq_ok hrun
  obtain ⟨hbuilt, rfl⟩ | ⟨_, between, hbuild, rfl⟩ := hcontent
  · exact Option.bind_eq_some_iff.2 ⟨cell, hcell, hbuilt⟩
  · have hplace := (Array.getElem?_eq_some_iff.1 hcell).1
    have hcells := (Run.build_appends _ _ _ _ _ _ hbuild).cells
    exact between.cellContent?_fillCell_self _ (Nat.lt_of_lt_of_le hplace hcells)

theorem Workspace.Owns.pattern {slot : Nat} {pattern : Grammar} (h : before.Owns held (.slot slot))
    (hpattern : before.pattern? slot = some pattern) (hcovers : before.Covers pattern) :
    ∀ keepable ∈ pattern.keeps, before.Owns held keepable := fun _ hkeeps =>
  h.keptBy (Workspace.mem_keptBy_slot.2 ⟨pattern, hpattern, hkeeps⟩)
    (Grammar.mem_keepables hcovers hkeeps)

theorem Workspace.Owns.content {place : Nat} {built : Grammar} (h : before.Owns held (.cell place))
    (hbuilt : before.cellContent? place = some built) (hcovers : before.Covers built) :
    ∀ keepable ∈ built.keeps, before.Owns held keepable := fun _ hkeeps =>
  h.keptBy (Workspace.mem_keptBy_cell.2 ⟨built, hbuilt, hkeeps⟩)
    (Grammar.mem_keepables hcovers hkeeps)

/-- What is owned once a link was opened: what was held goes on being held, and beside what was
opened, its keeper is owned too. -/
structure Link.Owned (target : Link) (held : List Grammar) (opened : List Grammar × Grammar)
    (after : Workspace) : Prop where
  held : ∀ grammar ∈ held, grammar ∈ opened.1
  content : ∀ keepable ∈ opened.2.keeps, after.Owns opened.1 keepable
  keeper : ∀ keepable ∈ (Grammar.linked target.keeper).keeps, after.Owns opened.1 keepable

/-- **What is opened is owned**, by the place that holds it or by itself. -/
theorem Link.owned_of_opened {target : Link} {opened : List Grammar × Grammar}
    (howns : ∀ keepable ∈ (Grammar.linked target).keeps, before.Owns held keepable)
    (hcovers : after.Covers opened.2) (hrun : target.opened held before = .ok opened after) :
    target.Owned held opened after := by
  have hlater : before.Precedes after := target.opened_precedes held before opened after hrun
  cases Link.opening_of_opened hrun with
  | @rule slot _ hpattern =>
      have hslot := howns (.slot slot) (List.mem_singleton_self _)
      exact ⟨fun _ h => h, hslot.pattern hpattern hcovers, howns⟩
  | @handle slot _ _ hpattern =>
      have hslot : before.Owns (.linked (.rule slot) :: held) (.slot slot) :=
        Workspace.owns_of_mem List.mem_cons_self (List.mem_singleton_self _)
      refine ⟨fun _ h => List.mem_cons_of_mem _ h, hslot.pattern hpattern hcovers,
        fun _ hkeeps => ?_⟩
      exact Workspace.owns_of_mem List.mem_cons_self hkeeps
  | @cell place _ _ hcontent =>
      have hcell (keepable : Keepable) (hkeeps : keepable ∈ (Grammar.linked (.cell place)).keeps) :=
        (howns keepable hkeeps).mono hlater fun _ h => h
      refine ⟨fun _ h => h, ?_, hcell⟩
      exact (hcell _ (List.mem_singleton_self _)).content (Run.cellContent_kept hcontent) hcovers
  | production =>
      refine ⟨fun _ h => List.mem_cons_of_mem _ h,
        fun _ hkeeps => Workspace.owns_of_mem List.mem_cons_self hkeeps, fun keepable hkeeps => ?_⟩
      exact (howns keepable hkeeps).mono hlater fun _ h => List.mem_cons_of_mem _ h
  | reference =>
      refine ⟨fun _ h => List.mem_cons_of_mem _ (List.mem_cons_of_mem _ h), fun _ hkeeps => ?_,
        fun _ hkeeps => Workspace.owns_of_mem List.mem_cons_self hkeeps⟩
      exact Workspace.owns_of_mem (List.mem_cons_of_mem _ List.mem_cons_self) hkeeps

end Owning

end TokenGrammar
