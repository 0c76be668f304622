import TokenGrammar.Proofs.Lifetimes.Moments
import TokenGrammar.Proofs.Lifetimes.Weakness
import TokenGrammar.Proofs.Roots

/-!
# Steps that bring nothing back to life

What is built keeps what its names are bound to, and what has a name is alive. What is entered is
kept by the link that is followed, or is held from then on if it was alive. So no step of building,
opening or parsing keeps anything that was not alive before, provided that what was put off keeps
nothing.

A grammar that was built but is not stored anywhere yet is held like those that are being parsed.
-/

namespace TokenGrammar

/-! ### Changes -/

namespace Moment

variable {held held' : List Grammar} {before after : Workspace}

theorem leads_of_precedes (h : before.Precedes after)
    (hroots : ∀ keepable ∈ before.keepables, after.isRoot held' keepable →
      before.isAlive held keepable)
    (hkept : ∀ keepable ∈ before.keepables, ∀ keeper, keepable ∈ after.keptBy keeper →
      keepable ∈ before.keptBy keeper ∨ before.isAlive held keepable) :
    (⟨held, before⟩ : Moment).Leads ⟨held', after⟩ where
  there _ := h.grown.mem_keepables
  lasts _ _ := h.mem_keptBy
  roots := hroots
  kept := hkept

theorem leads_modifyJournal (held : List Grammar) (before : Workspace)
    (change : Journal → Journal) :
    (⟨held, before⟩ : Moment).Leads ⟨held, before.modifyJournal change⟩ := by
  have hlater := (before.appends_modifyJournal change).precedes
  have hroots : ∀ keepable ∈ before.keepables,
      (before.modifyJournal change).isRoot held keepable → before.isAlive held keepable :=
    fun _ _ hroot => Workspace.isAlive_of_isRoot hroot
  refine leads_of_precedes hlater hroots ?_
  intro keepable _ keeper hkept
  cases keeper <;> exact .inl hkept

theorem leads_new {after : Workspace} {new : Keepable} {grammar : Grammar}
    (hnew : new ∉ before.keepables) (hgrammar : grammar.keeps = [new])
    (hthere : ∀ keepable ∈ before.keepables, keepable ∈ after.keepables)
    (hkept : ∀ keeper keepable, keepable ∈ after.keptBy keeper ↔ keepable ∈ before.keptBy keeper)
    (hnames : ∀ keepable, after.isKeptByName keepable = before.isKeptByName keepable) :
    (⟨held, before⟩ : Moment).Leads ⟨grammar :: held, after⟩ where
  there := hthere
  lasts keeper keepable := (hkept keeper keepable).2
  kept _ _ keeper h := .inl ((hkept keeper _).1 h)
  roots keepable hbefore hroot := by
    obtain hself | hroot := Workspace.isRoot_cons_iff.1 hroot
    · rw [hgrammar, List.mem_singleton] at hself
      exact absurd hbefore (hself ▸ hnew)
    · refine Workspace.isAlive_of_isRoot ?_
      rwa [Workspace.isRoot_iff, hnames, ← Workspace.isRoot_iff] at hroot

theorem leads_openCell (held : List Grammar) (before : Workspace) (body : Grammar) :
    (⟨held, before⟩ : Moment).Leads
      ⟨.linked (.cell before.cells.size) :: held, before.openCell body⟩ := by
  have hlater := (before.appends_openCell body).precedes
  have hnew : .cell before.cells.size ∉ before.keepables := by simp [Workspace.mem_keepables]
  refine leads_new hnew rfl (fun _ => hlater.grown.mem_keepables) (fun keeper keepable => ?_)
    fun _ => rfl
  cases keeper with
  | cell place =>
      rw [Workspace.mem_keptBy_cell, Workspace.mem_keptBy_cell, before.cellContent?_openCell]
  | slot | module => rfl

theorem leads_storeParser (before : Workspace) (label : String) {grammar : Grammar}
    (hheld : ∀ keepable ∈ grammar.keeps, before.isAlive held keepable) :
    (⟨held, before⟩ : Moment).Leads ⟨held, before.storeParser label grammar⟩ := by
  have hlater := (before.appends_storeParser label grammar).precedes
  refine leads_of_precedes hlater (fun keepable _ hroot => ?_) ?_
  · obtain hroot | hname := Workspace.isRoot_iff.1 hroot
    · exact Workspace.isAlive_of_isRoot (Workspace.isRoot_iff.2 (.inl hroot))
    · obtain hname | hname | ⟨binding, hbinding, hkept⟩ := Workspace.isKeptByName_iff.1 hname
      · exact Workspace.isAlive_of_isKeptByName (Workspace.isKeptByName_iff.2 (.inl hname))
      · exact Workspace.isAlive_of_isKeptByName (Workspace.isKeptByName_iff.2 (.inr (.inl hname)))
      · obtain rfl | hbinding := List.mem_cons.1 hbinding
        · exact hheld keepable hkept
        · have hbefore := (List.mem_filter.1 hbinding).1
          exact Workspace.isAlive_of_isKeptByName
            (Workspace.isKeptByName_iff.2 (.inr (.inr ⟨binding, hbefore, hkept⟩)))
  · intro keepable _ keeper hkept
    cases keeper <;> exact .inl hkept

theorem leads_fillCell {place : Nat} {built : Grammar} (hempty : before.cellContent? place = none)
    (hheld : ∀ keepable ∈ built.keeps, before.isAlive held keepable) :
    (⟨held, before⟩ : Moment).Leads ⟨held, before.fillCell place built⟩ := by
  have hlater := before.precedes_fillCell built hempty
  have hroots : ∀ keepable ∈ before.keepables,
      (before.fillCell place built).isRoot held keepable → before.isAlive held keepable :=
    fun _ _ hroot => Workspace.isAlive_of_isRoot hroot
  refine leads_of_precedes hlater hroots ?_
  intro keepable _ keeper hkept
  cases keeper with
  | cell other =>
      obtain ⟨content, hcontent, hkept⟩ := Workspace.mem_keptBy_cell.1 hkept
      obtain rfl | hcontent := Workspace.cellContent?_of_fillCell hcontent
      · exact .inr (hheld keepable hkept)
      · exact .inl (Workspace.mem_keptBy_cell.2 ⟨content, hcontent, hkept⟩)
  | slot | module => exact .inl hkept

theorem leads_fillProduction {place index : Nat} {built : Grammar}
    (hempty : before.productionContent? place index = none)
    (hheld : ∀ keepable ∈ built.keeps, before.isAlive held keepable) :
    (⟨held, before⟩ : Moment).Leads ⟨held, before.fillProduction place index built⟩ := by
  have hlater := before.precedes_fillProduction built hempty
  have hroots : ∀ keepable ∈ before.keepables,
      (before.fillProduction place index built).isRoot held keepable →
        before.isAlive held keepable := fun _ _ hroot => Workspace.isAlive_of_isRoot hroot
  refine leads_of_precedes hlater hroots ?_
  intro keepable _ keeper hkept
  cases keeper with
  | module other =>
      obtain ⟨index', content, hcontent, hkept⟩ := Workspace.mem_keptBy_module.1 hkept
      obtain rfl | hcontent := Workspace.productionContent?_of_fillProduction hcontent
      · exact .inr (hheld keepable hkept)
      · exact .inl (Workspace.mem_keptBy_module.2 ⟨index', content, hcontent, hkept⟩)
  | slot | cell => exact .inl hkept

end Moment

/-! ### Computations -/

/-- That a computation brings nothing back to life, however it ends, and that whatever is put off
keeps nothing. What is held may change with the value that it yields; after an error nothing is held
any more. -/
def Upholds {ε σ α : Type} (view : σ → Workspace) (held : List Grammar) (run : EStateM ε σ α)
    (before : σ) (held' : α → List Grammar) (post : α → σ → Prop) : Prop :=
  Lands run before
    (fun value after => (view after).PutsOffWeakly ∧
      (⟨held, view before⟩ : Moment).Leads ⟨held' value, view after⟩ ∧ post value after)
    fun _ after => (view after).PutsOffWeakly ∧
      (⟨held, view before⟩ : Moment).Leads ⟨[], view after⟩

/-- Nothing that is held is needed any more after an error. -/
theorem Moment.leads_nil (held : List Grammar) (workspace : Workspace) :
    (⟨held, workspace⟩ : Moment).Leads ⟨[], workspace⟩ := by
  refine leads_of_roots fun keepable hroot => isAlive_of_isRoot ?_
  obtain ⟨_, hmem, _⟩ | hname := Workspace.isRoot_iff.1 hroot
  · cases hmem
  · exact Workspace.isRoot_iff.2 (.inr hname)

namespace Upholds

variable {ε σ α β : Type} {view : σ → Workspace} {held held' : List Grammar} {before : σ}

theorem pure {value : α} {held' : α → List Grammar} {post : α → σ → Prop}
    (h : (view before).PutsOffWeakly)
    (hheld : ∀ keepable, (view before).isRoot (held' value) keepable →
      (view before).isAlive held keepable)
    (hpost : post value before) :
    Upholds view held (Pure.pure value : EStateM ε σ α) before held' post :=
  ⟨h, Moment.leads_of_roots hheld, hpost⟩

theorem pure_of_roots {value : α} {held' : α → List Grammar} {post : α → σ → Prop}
    (h : (view before).PutsOffWeakly)
    (hheld : ∀ keepable, (view before).isRoot (held' value) keepable →
      (view before).isRoot held keepable)
    (hpost : post value before) :
    Upholds view held (Pure.pure value : EStateM ε σ α) before held' post :=
  .pure h (fun keepable hroot => Workspace.isAlive_of_isRoot (hheld keepable hroot)) hpost

theorem throw {error : ε} {held' : α → List Grammar} {post : α → σ → Prop}
    (h : (view before).PutsOffWeakly) :
    Upholds view held (MonadExcept.throw error : EStateM ε σ α) before held' post :=
  ⟨h, Moment.leads_nil held (view before)⟩

theorem after {run : EStateM ε σ α} {between : List Grammar} {now : σ} {held' : α → List Grammar}
    {post : α → σ → Prop}
    (hleads : (⟨held, view before⟩ : Moment).Leads ⟨between, view now⟩)
    (hrun : Upholds view between run now held' post) :
    Lands run now
      (fun value after => (view after).PutsOffWeakly ∧
        (⟨held, view before⟩ : Moment).Leads ⟨held' value, view after⟩ ∧ post value after)
      fun _ after => (view after).PutsOffWeakly ∧
        (⟨held, view before⟩ : Moment).Leads ⟨[], view after⟩ :=
  Lands.imp hrun (fun _ _ hafter => ⟨hafter.1, hleads.trans hafter.2.1, hafter.2.2⟩)
    fun _ _ hafter => ⟨hafter.1, hleads.trans hafter.2⟩

theorem bind {run : EStateM ε σ α} {next : α → EStateM ε σ β} {between : α → List Grammar}
    {held' : β → List Grammar} {found : α → σ → Prop} {post : β → σ → Prop}
    (hrun : Upholds view held run before between found)
    (hnext : ∀ value now, run before = .ok value now → (view now).PutsOffWeakly →
      found value now → Upholds view (between value) (next value) now held' post) :
    Upholds view held (run >>= next) before held' post := by
  unfold Upholds Lands at hrun ⊢
  simp only [Bind.bind, EStateM.bind]
  cases hresult : run before with
  | error error after =>
      rw [hresult] at hrun
      exact hrun
  | ok value now =>
      rw [hresult] at hrun
      obtain ⟨hweak, hleads, hfound⟩ := hrun
      exact (hnext value now hresult hweak hfound).after hleads

theorem modify {change : σ → σ} {between : List Grammar} {next : Unit → EStateM ε σ β}
    {held' : β → List Grammar} {post : β → σ → Prop}
    (hleads : (⟨held, view before⟩ : Moment).Leads ⟨between, view (change before)⟩)
    (hnext : Upholds view between (next ()) (change before) held' post) :
    Upholds view held (modify change >>= next) before held' post := by
  have hafter := hnext.after hleads
  exact hafter

theorem hold {run : EStateM ε σ α} {between : List Grammar} {held' : α → List Grammar}
    {post : α → σ → Prop}
    (hheld : ∀ keepable, (view before).isRoot between keepable →
      (view before).isAlive held keepable)
    (hrun : Upholds view between run before held' post) :
    Upholds view held run before held' post :=
  hrun.after (Moment.leads_of_roots hheld)

theorem get {next : σ → EStateM ε σ β} {held' : β → List Grammar} {post : β → σ → Prop}
    (hnext : Upholds view held (next before) before held' post) :
    Upholds view held (MonadState.get >>= next) before held' post := hnext

end Upholds

/-! ### Building -/

section Building

variable {before : Workspace} {held : List Grammar}

theorem Run.demand_upholds {α : Type} {fault : Fault} {value? : Option α}
    (h : before.PutsOffWeakly) :
    Upholds id held (Run.demand fault value?) before (fun _ => held) fun value after =>
      value? = some value ∧ after = before := by
  cases value? with
  | none => exact .throw h
  | some value => exact .pure_of_roots h (fun _ hroot => hroot) ⟨rfl, rfl⟩

/-- **What is built keeps nothing that was not alive**, by induction on the grammar. -/
theorem Grammar.link_upholds (home? : Option Nat) : ∀ (grammar : Grammar) {held : List Grammar}
    {before : Workspace}, before.PutsOffWeakly → grammar.isWeak →
      Upholds id held (grammar.link home?) before (fun built => built :: held)
        fun built _ => built.putsOffWeakly
  | .leaf matcher, _, _, h, _ =>
      .pure_of_roots h
        (fun _ hroot => (Workspace.isRoot_cons_iff.1 hroot).resolve_left List.not_mem_nil) rfl
  | .unary operator part, _, _, h, hweak => by
      refine .bind (part.link_upholds home? h (Bool.and_eq_true_iff.1 hweak).2) ?_
      intro built now _ hnow hbuilt
      exact .pure_of_roots hnow (fun _ hroot => hroot) hbuilt
  | .binary operator first second, held, _, h, hweak => by
      obtain ⟨hfirst, hsecond⟩ := Bool.and_eq_true_iff.1 hweak
      refine .bind (first.link_upholds home? h (Bool.and_eq_true_iff.1 hfirst).2) ?_
      intro builtFirst between _ hbetween hbuiltFirst
      refine .bind (second.link_upholds home? hbetween hsecond) ?_
      intro builtSecond now _ hnow hbuiltSecond
      refine .pure_of_roots hnow (fun keepable hroot => ?_)
        (Bool.and_eq_true_iff.2 ⟨hbuiltFirst, hbuiltSecond⟩)
      rw [Workspace.isRoot_cons_iff, Workspace.isRoot_cons_iff]
      rw [Workspace.isRoot_cons_iff, keeps, List.mem_append] at hroot
      rwa [← or_assoc, @or_comm (keepable ∈ builtSecond.keeps)]
  | .bind part next, _, _, h, hweak => by
      obtain ⟨hpart, hnext⟩ := Bool.and_eq_true_iff.1 hweak
      refine .bind (part.link_upholds home? h (Bool.and_eq_true_iff.1 hpart).2) ?_
      intro built now _ hnow hbuilt
      have hnext := next.leads_anchor (now.isWeak_of_siblingsAt home?) hnext
      exact .get (.pure_of_roots hnow (fun _ hroot => hroot)
        (Bool.and_eq_true_iff.2 ⟨hbuilt, hnext⟩))
  | .traced label part, _, _, h, hweak => by
      refine .bind (part.link_upholds home? h (Bool.and_eq_true_iff.1 hweak).2) ?_
      intro built now _ hnow hbuilt
      exact .pure_of_roots hnow (fun _ hroot => hroot) hbuilt
  | .deferred part, _, before, h, hweak => by
      have hpart := part.leads_anchor (before.isWeak_of_siblingsAt home?)
        (Bool.and_eq_true_iff.1 hweak).2
      exact .get (.pure_of_roots h
        (fun _ hroot => (Workspace.isRoot_cons_iff.1 hroot).resolve_left List.not_mem_nil) hpart)
  | .deferredOnce part, held, before, h, hweak => by
      have hpart := part.leads_anchor (before.isWeak_of_siblingsAt home?)
        (Bool.and_eq_true_iff.1 hweak).2
      refine .get (.get (.modify (Moment.leads_openCell held before _) ?_))
      exact .pure_of_roots (h.openCell hpart) (fun _ hroot => hroot) rfl
  | .named name, _, before, h, _ => by
      unfold Upholds Lands
      rw [link, name.resolve_eq]
      cases hbound : before.bound? home? name with
      | none => exact ⟨h, Moment.leads_nil _ _⟩
      | some found =>
          refine ⟨h, Moment.leads_of_roots fun keepable hroot => ?_, h.bound? hbound⟩
          obtain hkept | hroot := Workspace.isRoot_cons_iff.1 hroot
          · exact Workspace.isAlive_of_isKeptByName (Workspace.isKeptByName_of_bound? hbound hkept)
          · exact Workspace.isAlive_of_isRoot hroot
  | .siblingOr name otherwise, _, before, h, hweak => by
      refine .get ?_
      cases hsibling : before.siblingsAt home? name with
      | none => exact otherwise.link_upholds home? h (Bool.and_eq_true_iff.1 hweak).2
      | some target =>
          refine .pure_of_roots h (fun _ hroot => ?_) rfl
          have hnone := keeps_eq_nil_of_isWeak (.linked target)
            (before.isWeak_of_siblingsAt home? name target hsibling)
          exact (Workspace.isRoot_cons_iff.1 hroot).resolve_left (hnone ▸ List.not_mem_nil)
  | .shared label part, held, _, h, hweak => by
      refine .bind (part.link_upholds home? h (Bool.and_eq_true_iff.1 hweak).2) ?_
      intro built between _ hbetween hbuilt
      refine .modify (Moment.leads_storeParser between label
        (fun _ hkept => Workspace.isAlive_of_mem List.mem_cons_self hkept)) ?_
      exact .pure_of_roots (hbetween.storeParser label hbuilt) (fun _ hroot => hroot) hbuilt
  | .linked target, _, _, h, hweak =>
      .pure_of_roots h (fun _ hroot => (Workspace.isRoot_cons_iff.1 hroot).resolve_left
        (keeps_eq_nil_of_isWeak (.linked target) hweak ▸ List.not_mem_nil)) rfl

theorem Run.build_upholds {site : Site} {home? : Option Nat} {part : Grammar}
    (h : before.PutsOffWeakly) (hpart : part.isWeak) :
    Upholds id held (Run.build site home? part) before (fun built => built :: held)
      fun built _ => built.putsOffWeakly :=
  .modify (Moment.leads_modifyJournal held before _)
    (part.link_upholds home? (h.modifyJournal _) hpart)

theorem Run.noteEntry_upholds {α : Type} {site : Site} {next : Run α} {held' : α → List Grammar}
    {post : α → Workspace → Prop} (h : before.PutsOffWeakly)
    (hnext : (before.entered site).PutsOffWeakly →
      Upholds id held next (before.entered site) held' post) :
    Upholds id held (Run.noteEntry site >>= fun _ => next) before held' post :=
  .modify (Moment.leads_modifyJournal held before _) (hnext (h.modifyJournal _))

theorem Workspace.isAlive_entered (workspace : Workspace) (held : List Grammar) (site : Site)
    (keepable : Keepable) :
    (workspace.entered site).isAlive held keepable = workspace.isAlive held keepable := by
  refine Workspace.isAlive_congr ?_ (fun keeper => ?_) (fun _ => ?_) keepable
  · rfl
  · cases keeper <;> rfl
  · rfl

theorem Run.partContent_upholds {part : Grammar} (h : before.PutsOffWeakly) (hpart : part.isWeak) :
    Upholds id held (Run.partContent part) before (fun built => built :: held)
      fun built _ => built.putsOffWeakly :=
  Run.noteEntry_upholds h fun hnoted => Run.build_upholds hnoted hpart

theorem Run.cellContent_upholds (h : before.PutsOffWeakly) (place : Nat) :
    Upholds id held (Run.cellContent place) before (fun _ => held)
      fun built _ => built.putsOffWeakly := by
  refine Run.noteEntry_upholds h fun hnoted => .get (.bind (Run.demand_upholds hnoted) ?_)
  rintro cell _ - - ⟨hcell, rfl⟩
  cases hbuilt : cell.built? with
  | some built =>
      have hcontent : before.cellContent? place = some built := by
        rw [Workspace.cellContent?, show before.cells[place]? = some cell from hcell]
        exact hbuilt
      exact .pure_of_roots hnoted (fun _ hroot => hroot) (h.cells hcontent)
  | none =>
      refine .bind (Run.build_upholds hnoted (h.bodies hcell)) ?_
      intro built now hrun hnow hweak
      have hempty : now.cellContent? place = none := by
        rw [(Run.build_appends _ _ _ _ _ _ hrun).contents, Workspace.cellContent?,
          show (before.entered (.cell place)).cells[place]? = some cell from hcell]
        exact hbuilt
      refine .modify (Moment.leads_fillCell hempty
        (fun _ hkept => Workspace.isAlive_of_mem List.mem_cons_self hkept)) ?_
      exact .pure_of_roots (hnow.fillCell place hweak)
        (fun _ hroot => Workspace.isRoot_cons_iff.2 (.inr hroot)) hweak

/-- What is kept for a production of a module that is alive is alive. -/
theorem Run.productionContent_upholds (hlinked : before.WellLinked) (h : before.PutsOffWeakly)
    {place : Nat} (index : Nat) (halive : before.isAlive held (.module place)) :
    Upholds id held (Run.productionContent place index) before (fun built => built :: held)
      fun built _ => built.putsOffWeakly := by
  refine Run.noteEntry_upholds h fun hnoted => .get ?_
  cases hcontent : (before.entered (.production place index)).productionContent? place index with
  | some built =>
      have hcontent : before.productionContent? place index = some built := hcontent
      refine .pure hnoted (fun keepable hroot => ?_) (h.contents hcontent)
      obtain hkept | hroot := Workspace.isRoot_cons_iff.1 hroot
      · refine Workspace.isAlive_of_keptBy ?_
          (Workspace.mem_keptBy_module.2 ⟨index, built, hcontent, hkept⟩)
          (Grammar.mem_keepables (hlinked.contents hcontent).leads hkept)
        exact (before.isAlive_entered held _ _).trans halive
      · exact Workspace.isAlive_of_isRoot hroot
  | none =>
      refine .get (.bind (Run.demand_upholds hnoted) ?_)
      rintro definition _ - - ⟨hdefinition, rfl⟩
      refine .bind (Run.build_upholds hnoted (h.definitions hdefinition)) ?_
      intro built now hrun hnow hweak
      have hempty : now.productionContent? place index = none := by
        rw [Workspace.productionContent?, (Run.build_appends _ _ _ _ _ _ hrun).modules]
        exact hcontent
      refine .modify (Moment.leads_fillProduction hempty
        (fun _ hkept => Workspace.isAlive_of_mem List.mem_cons_self hkept)) ?_
      exact .pure_of_roots (hnow.fillProduction place index hweak) (fun _ hroot => hroot) hweak

theorem Run.demandAlive_upholds {α : Type} {keepable : Keepable} {fault : Fault} {next : Run α}
    {held' : α → List Grammar} {post : α → Workspace → Prop} (h : before.PutsOffWeakly)
    (hnext : before.isAlive held keepable → Upholds id held next before held' post) :
    Upholds id held (Run.demandAlive held keepable fault >>= fun _ => next) before held' post := by
  unfold Upholds Lands
  by_cases halive : before.isAlive held keepable
  · rw [Run.bind_of_ok (Run.demandAlive_of halive)]
    exact hnext halive
  · rw [Run.bind_of_error (Run.demandAlive_of_not halive)]
    exact ⟨h, Moment.leads_nil held before⟩

/-- **What is opened is held or alive.** -/
theorem Link.opened_upholds (hlinked : before.WellLinked) (h : before.PutsOffWeakly)
    (target : Link) (halive : ∀ keepable ∈ (Grammar.linked target).keeps,
      before.isAlive held keepable) :
    Upholds id held (target.opened held) before (fun opened => opened.1)
      fun opened _ => opened.2.putsOffWeakly := by
  cases target with
  | rule slot =>
      refine .get (.bind (Run.demand_upholds h) ?_)
      rintro pattern _ - - ⟨hpattern, rfl⟩
      exact .pure_of_roots h (fun _ hroot => hroot) (h.patterns hpattern)
  | handle slot =>
      refine Run.demandAlive_upholds h fun halive => .get (.bind (Run.demand_upholds h) ?_)
      rintro pattern _ - - ⟨hpattern, rfl⟩
      refine .pure h (Workspace.isAlive_of_isRoot_cons fun _ hkept => ?_) (h.patterns hpattern)
      rwa [List.mem_singleton.1 hkept]
  | cell place =>
      refine .bind (Run.cellContent_upholds h place) ?_
      intro built now _ hnow hweak
      exact .pure_of_roots hnow (fun _ hroot => hroot) hweak
  | production place index =>
      have halive := halive (.module place) (List.mem_singleton_self _)
      refine .bind (Run.productionContent_upholds hlinked h index halive) ?_
      intro built now _ hnow hweak
      exact .pure_of_roots hnow (fun _ hroot => hroot) hweak
  | reference place index =>
      refine Run.demandAlive_upholds h fun halive => ?_
      -- the module is held before its production is looked at
      have hkeeps : ∀ keepable ∈ (Grammar.linked (.production place index)).keeps,
          before.isAlive held keepable := fun _ hkept => by rwa [List.mem_singleton.1 hkept]
      refine .hold (Workspace.isAlive_of_isRoot_cons hkeeps) ?_
      have hmodule : before.isAlive (.linked (.production place index) :: held) (.module place) :=
        Workspace.isAlive_of_mem List.mem_cons_self (List.mem_singleton_self _)
      refine .bind (Run.productionContent_upholds hlinked h index hmodule) ?_
      intro built now hrun hnow hweak
      refine .pure_of_roots hnow (fun keepable hroot => ?_) hweak
      simp only [Workspace.isRoot_cons_iff] at hroot ⊢
      rwa [or_left_comm]

end Building

end TokenGrammar
