import TokenGrammar.Proofs.Links
import TokenGrammar.Proofs.Survivors

/-!
# What a parse leaves as it was

While it parses, a run opens cells and fills them, fills caches and stores parsers, and changes
nothing else in the workspace. What was built before stays where it is, and goes on keeping what it
kept. So whatever the grammars that are being parsed own, by themselves or through what they link
to, they own until they are left. Names are no such owners, because a parser may be stored in place
of another one.
-/

namespace TokenGrammar

/-! ### What stays -/

namespace Workspace

/-- A later workspace in which cells were opened and parsers were stored. -/
structure Appends (before after : Workspace) : Prop where
  slots : after.slots = before.slots
  modules : after.modules = before.modules
  cells : before.cells.size ≤ after.cells.size
  bodies : before.Grows after
  contents : after.cellContent? = before.cellContent?
  parsers : ∀ label, (before.parsers.find? label).isSome → (after.parsers.find? label).isSome

/-- A later workspace in which everything that was built is kept. -/
structure Precedes (before after : Workspace) : Prop where
  slots : after.slots = before.slots
  grown : before.Extends after
  bodies : before.Grows after
  cells : ∀ place built, before.cellContent? place = some built →
    after.cellContent? place = some built
  productions : ∀ place index built, before.productionContent? place index = some built →
    after.productionContent? place index = some built
  parsers : ∀ label, (before.parsers.find? label).isSome → (after.parsers.find? label).isSome

instance : IsPreorder Workspace Appends where
  refl workspace := ⟨rfl, rfl, Nat.le_refl _, .refl workspace, rfl, fun _ h => h⟩
  trans _ _ _ h h' := ⟨h'.slots.trans h.slots, h'.modules.trans h.modules,
    Nat.le_trans h.cells h'.cells, h.bodies.trans h'.bodies, h'.contents.trans h.contents,
    fun label hbound => h'.parsers label (h.parsers label hbound)⟩

instance : IsPreorder Workspace Precedes where
  refl workspace := ⟨rfl, .refl workspace, .refl workspace, fun _ _ h => h, fun _ _ _ h => h,
    fun _ h => h⟩
  trans _ _ _ h h' := ⟨h'.slots.trans h.slots, h.grown.trans h'.grown, h.bodies.trans h'.bodies,
    fun place built hbuilt => h'.cells place built (h.cells place built hbuilt),
    fun place index built hbuilt => h'.productions place index built
      (h.productions place index built hbuilt),
    fun label hbound => h'.parsers label (h.parsers label hbound)⟩

variable {before between after : Workspace}

theorem Precedes.refl (workspace : Workspace) : workspace.Precedes workspace :=
  refl_of Precedes workspace

theorem Precedes.trans (h : before.Precedes between) (h' : between.Precedes after) :
    before.Precedes after :=
  trans_of Precedes h h'

theorem Appends.precedes (h : before.Appends after) : before.Precedes after where
  slots := h.slots
  grown := ⟨Nat.le_of_eq (congrArg Array.size h.slots.symm), h.cells,
    Nat.le_of_eq (congrArg Array.size h.modules.symm), fun _ _ hsome => by
      rw [definition?, h.modules]
      exact hsome⟩
  bodies := h.bodies
  cells place built hbuilt := by
    rw [h.contents]
    exact hbuilt
  productions place index built hbuilt := by
    rw [productionContent?, h.modules]
    exact hbuilt
  parsers := h.parsers

theorem appends_openCell (before : Workspace) (body : Grammar) :
    before.Appends (before.openCell body) where
  slots := rfl
  modules := rfl
  cells := by simp [openCell]
  bodies := before.grows_openCell body
  contents := before.cellContent?_openCell body
  parsers _ hbound := hbound

theorem appends_storeParser (before : Workspace) (label : String) (grammar : Grammar) :
    before.Appends (before.storeParser label grammar) where
  slots := rfl
  modules := rfl
  cells := Nat.le_refl _
  bodies := .refl before
  contents := rfl
  parsers other hbound := by
    by_cases hlabel : other = label
    · rw [hlabel, storeParser, Scope.find?_assign_self]
      rfl
    · rw [storeParser, Scope.find?_assign_of_ne _ _ hlabel]
      exact hbound

theorem appends_modifyJournal (before : Workspace) (change : Journal → Journal) :
    before.Appends (before.modifyJournal change) :=
  ⟨rfl, rfl, Nat.le_refl _, .refl before, rfl, fun _ h => h⟩

theorem appends_entered (before : Workspace) (site : Site) : before.Appends (before.entered site) :=
  before.appends_modifyJournal _

theorem appends_begun (before : Workspace) (site : Site) : before.Appends (before.begun site) :=
  before.appends_modifyJournal _

theorem precedes_fillCell {place : Nat} (built : Grammar)
    (hempty : before.cellContent? place = none) :
    before.Precedes (before.fillCell place built) where
  slots := rfl
  grown := ⟨Nat.le_refl _, by simp [fillCell], Nat.le_refl _, fun _ _ h => h⟩
  bodies := before.grows_fillCell place built
  cells place' built' hbuilt' := by
    have hne : place ≠ place' := by
      rintro rfl
      rw [hempty] at hbuilt'
      cases hbuilt'
    rw [cellContent?_fillCell_of_ne before built hne]
    exact hbuilt'
  productions _ _ _ h := h
  parsers _ h := h

theorem precedes_fillProduction {place index : Nat} (built : Grammar)
    (hempty : before.productionContent? place index = none) :
    before.Precedes (before.fillProduction place index built) where
  slots := rfl
  grown := ⟨Nat.le_refl _, Nat.le_refl _, by simp [fillProduction], fun _ _ h => by
    rw [definition?_fillProduction]
    exact h⟩
  bodies := .refl before
  cells _ _ h := h
  productions place' index' built' hbuilt' := by
    have hne : ¬(place = place' ∧ index = index') := by
      rintro ⟨rfl, rfl⟩
      rw [hempty] at hbuilt'
      cases hbuilt'
    rw [productionContent?_fillProduction_of_ne before built hne]
    exact hbuilt'
  parsers _ h := h

end Workspace

section Contents

variable {before after : Workspace}

/-- Linking opens cells and stores parsers, and that is all. -/
theorem Grammar.link_appends (home? : Option Nat) (grammar : Grammar) :
    (grammar.link home?).Respects Workspace.Appends :=
  grammar.link_respects Workspace.appends_openCell Workspace.appends_storeParser home?

namespace Run

theorem build_appends (site : Site) (home? : Option Nat) (part : Grammar) :
    (build site home? part).Respects Workspace.Appends :=
  Respects.bind (.changed fun before => before.appends_begun site) fun _ => part.link_appends home?

theorem partContent_appends (part : Grammar) : (partContent part).Respects Workspace.Appends :=
  Respects.bind (.changed fun before => before.appends_entered _) fun _ => build_appends _ _ _

theorem Respects.precedes {α : Type} {run : Run α} (h : run.Respects Workspace.Appends) :
    run.Respects Workspace.Precedes := fun before a after hrun => (h before a after hrun).precedes

theorem cellContent_precedes (place : Nat) :
    (cellContent place).Respects Workspace.Precedes := by
  intro before built after hrun
  have hentered := (before.appends_entered (.cell place)).precedes
  obtain ⟨cell, hcell, hcontent⟩ := cellContent_eq_ok hrun
  obtain ⟨_, rfl⟩ | ⟨hempty, between, hbuild, rfl⟩ := hcontent
  · exact hentered
  · have happends := build_appends _ _ _ _ _ _ hbuild
    refine hentered.trans (happends.precedes.trans (Workspace.precedes_fillCell built ?_))
    rw [happends.contents]
    exact Option.bind_eq_none_iff.2 fun _ hfound => by
      rw [← hempty, Option.some.inj (hcell.symm.trans hfound)]

theorem productionContent_precedes (place index : Nat) :
    (productionContent place index).Respects Workspace.Precedes := by
  intro before built after hrun
  have hentered := (before.appends_entered (.production place index)).precedes
  obtain ⟨_, rfl⟩ | ⟨hempty, definition, between, _, hbuild, rfl⟩ := productionContent_eq_ok hrun
  · exact hentered
  · have happends := build_appends _ _ _ _ _ _ hbuild
    refine hentered.trans (happends.precedes.trans (Workspace.precedes_fillProduction built ?_))
    rw [Workspace.productionContent?, happends.modules]
    exact hempty

end Run

theorem Link.opened_precedes (held : List Grammar) (target : Link) :
    (target.opened held).Respects Workspace.Precedes := by
  intro before opened after hrun
  cases Link.opening_of_opened hrun with
  | rule | handle => exact .refl before
  | cell hcontent => exact Run.cellContent_precedes _ _ _ _ hcontent
  | production hcontent | reference _ hcontent =>
      exact Run.productionContent_precedes _ _ _ _ _ hcontent

end Contents

/-! ### What is there -/

section Keeping

variable {workspace : Workspace}

theorem Workspace.mem_keepables {keepable : Keepable} :
    keepable ∈ workspace.keepables ↔ match keepable with
      | .slot place => place < workspace.slots.size
      | .cell place => place < workspace.cells.size
      | .module place => place < workspace.modules.size := by
  cases keepable <;> simp [Workspace.keepables]

theorem Link.mem_keepables {target : Link} {keepable : Keepable}
    (htarget : workspace.hasTarget target) (h : target.kept? = some keepable) :
    keepable ∈ workspace.keepables := by
  rw [Workspace.mem_keepables]
  cases target with
  | handle | reference => cases h
  | rule slot | cell place =>
      cases h
      exact of_decide_eq_true htarget
  | production place index =>
      cases h
      obtain ⟨definition, hdefinition⟩ := Option.isSome_iff_exists.1 htarget
      obtain ⟨found, hfound, _⟩ := Option.bind_eq_some_iff.1 hdefinition
      exact (Array.getElem?_eq_some_iff.1 hfound).1

theorem Grammar.mem_keepables {keepable : Keepable} : ∀ {grammar : Grammar},
    workspace.Covers grammar → keepable ∈ grammar.keeps → keepable ∈ workspace.keepables
  | .unary _ _, hcovers, h | .traced _ _, hcovers, h | .shared _ _, hcovers, h =>
      Grammar.mem_keepables (Bool.and_eq_true_iff.1 hcovers).2 h
  | .binary _ _ _, hcovers, h => by
      obtain ⟨hfirst, hsecond⟩ := Bool.and_eq_true_iff.1 hcovers
      obtain h | h := List.mem_append.1 h
      · exact Grammar.mem_keepables (Bool.and_eq_true_iff.1 hfirst).2 h
      · exact Grammar.mem_keepables hsecond h
  | .bind _ _, hcovers, h =>
      Grammar.mem_keepables (Bool.and_eq_true_iff.1 (Bool.and_eq_true_iff.1 hcovers).1).2 h
  | .linked target, hcovers, h => target.mem_keepables hcovers (Option.mem_toList.1 h)

end Keeping

/-! ### What stays alive -/

namespace Workspace

variable {workspace workspace' before after : Workspace} {held held' : List Grammar}
  {keepable : Keepable}

theorem mem_keepables_of_mem_keptBy {keeper : Keepable} (h : keepable ∈ workspace.keptBy keeper) :
    keeper ∈ workspace.keepables := by
  rw [mem_keepables]
  cases keeper with
  | slot place =>
      obtain ⟨pattern, hpattern, _⟩ := mem_keptBy_slot.1 h
      have hslot := Option.join_eq_some_iff.1 hpattern
      exact (Array.getElem?_eq_some_iff.1 hslot).1
  | cell place =>
      obtain ⟨built, hbuilt, _⟩ := mem_keptBy_cell.1 h
      obtain ⟨cell, hcell, _⟩ := Option.bind_eq_some_iff.1 hbuilt
      exact (Array.getElem?_eq_some_iff.1 hcell).1
  | module place =>
      obtain ⟨index, built, hbuilt, _⟩ := mem_keptBy_module.1 h
      obtain ⟨found, hfound, _⟩ := Option.bind_eq_some_iff.1 hbuilt
      exact (Array.getElem?_eq_some_iff.1 hfound).1

/-- A set is alive if each of its members is there, and is alive for another reason or is kept by a
member. -/
theorem isAlive_of_supported (alive : Keepable → Prop)
    (h : ∀ other, alive other → other ∈ workspace.keepables ∧
      (workspace.isAlive held other ∨ ∃ keeper, alive keeper ∧ other ∈ workspace.keptBy keeper))
    (halive : alive keepable) : workspace.isAlive held keepable := by
  refine isAlive_iff.2 (.inr ⟨fun other =>
    alive other ∨ other ∈ workspace.keepables ∧ workspace.isAlive held other, ?_, .inl halive⟩)
  have hknown : ∀ other, other ∈ workspace.keepables → workspace.isAlive held other →
      workspace.isRoot held other ∨ ∃ keeper,
        (alive keeper ∨ keeper ∈ workspace.keepables ∧ workspace.isAlive held keeper) ∧
          other ∈ workspace.keptBy keeper := by
    intro other hthere hother
    obtain hroot | ⟨set, hset, hmem⟩ := isAlive_iff.1 hother
    · exact .inl hroot
    · refine (hset other hmem).2.imp_right fun ⟨keeper, hkeeper, hkept⟩ => ⟨keeper, .inr ?_, hkept⟩
      exact ⟨(hset keeper hkeeper).1, isAlive_iff.2 (.inr ⟨set, hset, hkeeper⟩)⟩
  rintro other (hother | ⟨hthere, hother⟩)
  · obtain ⟨hthere, hreason⟩ := h other hother
    refine ⟨hthere, hreason.elim (hknown other hthere) fun ⟨keeper, hkeeper, hkept⟩ => ?_⟩
    exact .inr ⟨keeper, .inl hkeeper, hkept⟩
  · exact ⟨hthere, hknown other hthere hother⟩

theorem isAlive_of_keptBy {keeper : Keepable} (hkeeper : workspace.isAlive held keeper)
    (hkept : keepable ∈ workspace.keptBy keeper) (hthere : keepable ∈ workspace.keepables) :
    workspace.isAlive held keepable := by
  refine isAlive_of_supported (fun other => other = keeper ∨ other = keepable) ?_ (.inr rfl)
  rintro other (rfl | rfl)
  · exact ⟨mem_keepables_of_mem_keptBy hkept, .inl hkeeper⟩
  · exact ⟨hthere, .inr ⟨keeper, .inl rfl, hkept⟩⟩

/-- What is alive is alive in another workspace where the roots are, if everything that is there
keeps at least what it kept. -/
theorem isAlive_mono (hkeepables : ∀ other ∈ workspace.keepables, other ∈ workspace'.keepables)
    (hkept : ∀ keeper, ∀ other ∈ workspace.keptBy keeper, other ∈ workspace'.keptBy keeper)
    (hroots : ∀ other, workspace.isRoot held other → workspace'.isAlive held' other)
    (h : workspace.isAlive held keepable) : workspace'.isAlive held' keepable := by
  obtain hroot | ⟨alive, hsupports, halive⟩ := isAlive_iff.1 h
  · exact hroots keepable hroot
  · refine isAlive_of_supported alive (fun other hother => ?_) halive
    obtain ⟨hthere, hreason⟩ := hsupports other hother
    refine ⟨hkeepables other hthere, hreason.imp (hroots other) fun ⟨keeper, hkeeper, hkeeps⟩ => ?_⟩
    exact ⟨keeper, hkeeper, hkept keeper other hkeeps⟩

theorem Extends.mem_keepables (h : before.Extends after) {other : Keepable}
    (hother : other ∈ before.keepables) : other ∈ after.keepables := by
  rw [Workspace.mem_keepables] at hother ⊢
  cases other with
  | slot place => exact Nat.lt_of_lt_of_le hother h.slots
  | cell place => exact Nat.lt_of_lt_of_le hother h.cells
  | module place => exact Nat.lt_of_lt_of_le hother h.modules

theorem Precedes.mem_keptBy (h : before.Precedes after) {keeper other : Keepable}
    (hkept : other ∈ before.keptBy keeper) : other ∈ after.keptBy keeper := by
  cases keeper with
  | slot place =>
      obtain ⟨pattern, hpattern, hkeeps⟩ := mem_keptBy_slot.1 hkept
      refine mem_keptBy_slot.2 ⟨pattern, ?_, hkeeps⟩
      rw [pattern?, h.slots]
      exact hpattern
  | cell place =>
      obtain ⟨built, hbuilt, hkeeps⟩ := mem_keptBy_cell.1 hkept
      exact mem_keptBy_cell.2 ⟨built, h.cells place built hbuilt, hkeeps⟩
  | module place =>
      obtain ⟨index, built, hbuilt, hkeeps⟩ := mem_keptBy_module.1 hkept
      exact mem_keptBy_module.2 ⟨index, built, h.productions place index built hbuilt, hkeeps⟩

/-! ### Owners -/

def nameless (workspace : Workspace) : Workspace :=
  { workspace with rules := [], parsers := [], moduleNames := [] }

/-- Whether some grammars keep something alive without the help of any name. -/
def Owns (workspace : Workspace) (held : List Grammar) (keepable : Keepable) : Prop :=
  workspace.nameless.isAlive held keepable

theorem isRoot_of_mem {grammar : Grammar} (hgrammar : grammar ∈ held)
    (hkept : keepable ∈ grammar.keeps) : workspace.isRoot held keepable := by
  rw [isRoot, Bool.or_eq_true, List.any_eq_true]
  exact .inl ⟨grammar, hgrammar, List.contains_iff_mem.2 hkept⟩

theorem isRoot_nameless :
    workspace.nameless.isRoot held keepable ↔ ∃ grammar ∈ held, keepable ∈ grammar.keeps := by
  simp [isRoot, isKeptByName, nameless]

theorem owns_of_mem {grammar : Grammar} (hgrammar : grammar ∈ held)
    (hkept : keepable ∈ grammar.keeps) : workspace.Owns held keepable :=
  isAlive_iff.2 (.inl (isRoot_of_mem hgrammar hkept))

theorem Owns.keptBy {keeper : Keepable} (h : workspace.Owns held keeper)
    (hkept : keepable ∈ workspace.keptBy keeper) (hthere : keepable ∈ workspace.keepables) :
    workspace.Owns held keepable := by
  have hkept' : keepable ∈ workspace.nameless.keptBy keeper := by cases keeper <;> exact hkept
  exact isAlive_of_keptBy h hkept' hthere

theorem Owns.isAlive (h : workspace.Owns held keepable) : workspace.isAlive held keepable := by
  have hthere : ∀ other ∈ workspace.nameless.keepables, other ∈ workspace.keepables :=
    fun _ hthere => hthere
  refine isAlive_mono hthere (fun keeper _ hkept => by cases keeper <;> exact hkept)
    (fun other hroot => ?_) h
  obtain ⟨grammar, hgrammar, hkept⟩ := isRoot_nameless.1 hroot
  exact isAlive_iff.2 (.inl (isRoot_of_mem hgrammar hkept))

theorem Owns.mono (h : before.Owns held keepable) (hprecedes : before.Precedes after)
    (hheld : ∀ grammar ∈ held, grammar ∈ held') : after.Owns held' keepable := by
  have hthere : ∀ other ∈ before.nameless.keepables, other ∈ after.nameless.keepables :=
    fun _ hthere => hprecedes.grown.mem_keepables hthere
  have hkeeps : ∀ keeper, ∀ other ∈ before.nameless.keptBy keeper,
      other ∈ after.nameless.keptBy keeper := by
    intro keeper other hkept
    have hkept' : other ∈ before.keptBy keeper := by cases keeper <;> exact hkept
    have hlater := hprecedes.mem_keptBy hkept'
    cases keeper <;> exact hlater
  refine isAlive_mono hthere hkeeps (fun other hroot => ?_) h
  obtain ⟨grammar, hgrammar, hkept⟩ := isRoot_nameless.1 hroot
  exact owns_of_mem (hheld grammar hgrammar) hkept

end Workspace

end TokenGrammar
