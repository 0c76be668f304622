import Mathlib.Data.List.Induction
import Mathlib.Tactic.ByContra
import TokenGrammar.Proofs.Persistence

/-!
# What is destroyed

Rules, cells and modules are destroyed when the last strong clone of them goes. A clone goes with
whatever it is a part of: with a name that is dropped, with a grammar that was parsed to the end, or
with the content of a rule, a cell or a module that is itself destroyed. What was destroyed once is
never there again. So what is destroyed by some moment is a matter of all the moments before it.

What is alive at a moment is found without looking back, as the largest set whose members are kept
by a root or by a member. The two agree as long as nothing comes back to life, that is, if whatever
is kept newly at a moment was alive just before.
-/

namespace TokenGrammar

/-- A moment in the life of a workspace, with the grammars that are being parsed. -/
structure Moment where
  held : List Grammar
  workspace : Workspace

namespace Moment

def isAlive (moment : Moment) (keepable : Keepable) : Bool :=
  moment.workspace.isAlive moment.held keepable

/-- What there is at a moment, be it alive or destroyed. -/
def keepables (moment : Moment) : List Keepable := moment.workspace.keepables

def isRoot (moment : Moment) (keepable : Keepable) : Bool :=
  moment.workspace.isRoot moment.held keepable

def keptBy (moment : Moment) (keeper : Keepable) : List Keepable := moment.workspace.keptBy keeper

variable {moment between later : Moment} {keepable : Keepable}

theorem isAlive_of_isRoot (h : moment.isRoot keepable) : moment.isAlive keepable :=
  Workspace.isAlive_iff.2 (.inl h)

theorem exists_keeper_of_isAlive (h : moment.isAlive keepable) :
    moment.isRoot keepable ∨ ∃ keeper, moment.isAlive keeper ∧ keepable ∈ moment.keptBy keeper := by
  obtain hroot | ⟨alive, hsupports, halive⟩ := Workspace.isAlive_iff.1 h
  · exact .inl hroot
  · refine (hsupports keepable halive).2.imp_right fun ⟨keeper, hkeeper, hkept⟩ => ?_
    exact ⟨keeper, Workspace.isAlive_iff.2 (.inr ⟨alive, hsupports, hkeeper⟩), hkept⟩

/-! ### Nothing comes back to life -/

/-- That a later moment is one to which an earlier one may lead: all that there was is still there
and keeps what it kept, and what is kept then and was there before was kept or alive before. -/
structure Leads (moment later : Moment) : Prop where
  there : ∀ keepable ∈ moment.keepables, keepable ∈ later.keepables
  lasts : ∀ keeper, ∀ keepable ∈ moment.keptBy keeper, keepable ∈ later.keptBy keeper
  roots : ∀ keepable ∈ moment.keepables, later.isRoot keepable → moment.isAlive keepable
  kept : ∀ keepable ∈ moment.keepables, ∀ keeper, keepable ∈ later.keptBy keeper →
    keepable ∈ moment.keptBy keeper ∨ moment.isAlive keepable

/-- **What is alive later was alive before**, if it was there. -/
theorem Leads.isAlive (h : moment.Leads later) (hthere : keepable ∈ moment.keepables)
    (halive : later.isAlive keepable) : moment.isAlive keepable := by
  refine Workspace.isAlive_of_supported
    (fun other => other ∈ moment.keepables ∧ later.isAlive other) ?_ ⟨hthere, halive⟩
  rintro other ⟨hother, halive⟩
  refine ⟨hother, ?_⟩
  obtain hroot | ⟨keeper, hkeeper, hkept⟩ := exists_keeper_of_isAlive halive
  · exact .inl (h.roots other hother hroot)
  · obtain hbefore | hbefore := h.kept other hother keeper hkept
    · exact .inr ⟨keeper, ⟨Workspace.mem_keepables_of_mem_keptBy hbefore, hkeeper⟩, hbefore⟩
    · exact .inl hbefore

theorem Leads.refl (moment : Moment) : moment.Leads moment where
  there _ h := h
  lasts _ _ h := h
  roots _ _ := isAlive_of_isRoot
  kept _ _ _ := .inl

theorem Leads.trans (h : moment.Leads between) (h' : between.Leads later) : moment.Leads later where
  there keepable hthere := h'.there keepable (h.there keepable hthere)
  lasts keeper keepable hkept := h'.lasts keeper keepable (h.lasts keeper keepable hkept)
  roots keepable hthere hroot :=
    h.isAlive hthere (h'.roots keepable (h.there keepable hthere) hroot)
  kept keepable hthere keeper hkept :=
    (h'.kept keepable (h.there keepable hthere) keeper hkept).elim
      (h.kept keepable hthere keeper) fun halive => .inr (h.isAlive hthere halive)

theorem leads_of_roots {held held' : List Grammar} {workspace : Workspace}
    (hroots : ∀ keepable, workspace.isRoot held' keepable →
      (⟨held, workspace⟩ : Moment).isAlive keepable) :
    (⟨held, workspace⟩ : Moment).Leads ⟨held', workspace⟩ where
  there _ h := h
  lasts _ _ h := h
  roots keepable _ := hroots keepable
  kept _ _ _ := .inl

/-- A moment that leads to each of some moments in turn, and to a last one. -/
def LeadsThrough (moment : Moment) : List Moment → Moment → Prop
  | [], last => moment.Leads last
  | next :: moments, last => moment.Leads next ∧ next.LeadsThrough moments last

theorem LeadsThrough.leads {moments : List Moment} (h : moment.LeadsThrough moments later) :
    moment.Leads later := by
  induction moments generalizing moment with
  | nil => exact h
  | cons next moments ih => exact h.1.trans (ih h.2)

theorem LeadsThrough.after {moments : List Moment} (h : moment.Leads between)
    (h' : between.LeadsThrough moments later) : moment.LeadsThrough moments later := by
  cases moments with
  | nil => exact h.trans h'
  | cons next moments => exact ⟨h.trans h'.1, h'.2⟩

theorem LeadsThrough.append {moments moments' : List Moment}
    (h : moment.LeadsThrough moments between) (h' : between.LeadsThrough moments' later) :
    moment.LeadsThrough (moments ++ moments') later := by
  induction moments generalizing moment with
  | nil => exact LeadsThrough.after h h'
  | cons next moments ih => exact ⟨h.1, ih h.2⟩

theorem LeadsThrough.upTo {moments later : List Moment} {last : Moment}
    (h : moment.LeadsThrough (moments ++ between :: later) last) :
    moment.LeadsThrough moments between := by
  induction moments generalizing moment with
  | nil => exact h.1
  | cons next moments ih => exact ⟨h.1, ih h.2⟩

theorem LeadsThrough.fromLast {moments : List Moment} {last : Moment}
    (h : moment.LeadsThrough (moments ++ [last]) later) : last.Leads later := by
  induction moments generalizing moment with
  | nil => exact h.2
  | cons next moments ih => exact ih h.2

/-- What is kept at a moment goes on being kept. -/
theorem LeadsThrough.mem_keptBy {moments : List Moment} {earlier : Moment} {keeper : Keepable}
    (h : moment.LeadsThrough moments later) (hearlier : earlier ∈ moments)
    (hkept : keepable ∈ earlier.keptBy keeper) : keepable ∈ later.keptBy keeper := by
  induction moments generalizing moment with
  | nil => cases hearlier
  | cons next moments ih =>
      obtain rfl | hearlier := List.mem_cons.1 hearlier
      · exact (LeadsThrough.leads h.2).lasts keeper keepable hkept
      · exact ih h.2 hearlier

theorem LeadsThrough.leave {moments : List Moment} {held held' : List Grammar}
    {workspace : Workspace} (h : moment.LeadsThrough moments ⟨held, workspace⟩)
    (hroots : ∀ keepable, workspace.isRoot held' keepable → workspace.isRoot held keepable) :
    moment.LeadsThrough moments ⟨held', workspace⟩ := by
  have hleads : (⟨held, workspace⟩ : Moment).Leads ⟨held', workspace⟩ :=
    leads_of_roots fun keepable hroot => isAlive_of_isRoot (hroots keepable hroot)
  simpa using h.append (show LeadsThrough ⟨held, workspace⟩ [] _ from hleads)

/-! ### Destruction -/

/-- What is destroyed by a moment if something was destroyed before: that, and everything of which
there is no clone but in what is destroyed. -/
inductive Destroys (moment : Moment) (before : Keepable → Prop) : Keepable → Prop where
  | before {keepable : Keepable} (hbefore : before keepable) : Destroys moment before keepable
  | dropped {keepable : Keepable} (hthere : keepable ∈ moment.keepables)
      (hroot : ¬ moment.isRoot keepable)
      (hkeepers : ∀ keeper, keepable ∈ moment.keptBy keeper → Destroys moment before keeper) :
      Destroys moment before keepable

def destroyed (moments : List Moment) : Keepable → Prop :=
  moments.foldl (fun before moment => moment.Destroys before) fun _ => False

theorem destroyed_append_singleton (moments : List Moment) (moment : Moment) :
    destroyed (moments ++ [moment]) = moment.Destroys (destroyed moments) := by
  simp [destroyed]

/-- That some things are there at a moment and not alive. -/
def Lacks (moment : Moment) (lost : Keepable → Prop) : Prop :=
  ∀ keepable, lost keepable → keepable ∈ moment.keepables ∧ ¬ moment.isAlive keepable

theorem Lacks.leads {lost : Keepable → Prop} (h : moment.Lacks lost) (hleads : moment.Leads later) :
    later.Lacks lost := by
  intro keepable hlost
  obtain ⟨hthere, hdead⟩ := h keepable hlost
  exact ⟨hleads.there keepable hthere, fun halive => hdead (hleads.isAlive hthere halive)⟩

/-- If nothing that was destroyed before is alive, then what is destroyed is what is not alive. -/
theorem Lacks.destroys_iff {lost : Keepable → Prop} (h : moment.Lacks lost) :
    moment.Destroys lost keepable ↔ keepable ∈ moment.keepables ∧ ¬ moment.isAlive keepable := by
  constructor
  · intro hdestroys
    induction hdestroys with
    | before hlost => exact h _ hlost
    | dropped hthere hroot _ ih =>
        refine ⟨hthere, fun halive => ?_⟩
        obtain hisRoot | ⟨keeper, hkeeper, hkept⟩ := exists_keeper_of_isAlive halive
        · exact hroot hisRoot
        · exact (ih keeper hkept).2 hkeeper
  · rintro ⟨hthere, hdead⟩
    by_contra hspared
    refine hdead (Workspace.isAlive_of_supported
      (fun other => other ∈ moment.keepables ∧ ¬ moment.Destroys lost other) ?_ ⟨hthere, hspared⟩)
    rintro other ⟨hother, hspared⟩
    refine ⟨hother, or_iff_not_imp_right.2 fun hkeepers => ?_⟩
    by_contra hdead
    refine hspared (.dropped hother (fun hroot => hdead (isAlive_of_isRoot hroot)) ?_)
    intro keeper hkept
    by_contra hkeeper
    exact hkeepers ⟨keeper, ⟨Workspace.mem_keepables_of_mem_keptBy hkept, hkeeper⟩, hkept⟩

/-- **What is destroyed is what is not alive**, at every moment to which one leads at which nothing
was destroyed, through whatever moments. -/
theorem LeadsThrough.destroyed_iff {start : Moment} {moments : List Moment}
    (h : start.LeadsThrough moments later) :
    destroyed (moments ++ [later]) keepable ↔
      keepable ∈ later.keepables ∧ ¬ later.isAlive keepable := by
  -- by induction from the end, where the step equation of `destroyed` applies
  induction moments using List.reverseRecOn generalizing later keepable with
  | nil =>
      have hlacks : later.Lacks fun _ => False := fun _ => False.elim
      exact hlacks.destroys_iff
  | append_singleton moments last ih =>
      rw [destroyed_append_singleton]
      have hlast : last.Lacks (destroyed (moments ++ [last])) := fun _ => (ih h.upTo).1
      exact (hlast.leads h.fromLast).destroys_iff

/-- That there is a strong clone of something: it is in use or has a name, or the content of
something that was not destroyed contains one. -/
def HasClone (moment : Moment) (lost : Keepable → Prop) (keepable : Keepable) : Prop :=
  moment.isRoot keepable ∨ ∃ keeper, ¬ lost keeper ∧ keepable ∈ moment.keptBy keeper

theorem LeadsThrough.hasClone_iff {start : Moment} {moments : List Moment}
    (h : start.LeadsThrough moments later) (hthere : keepable ∈ later.keepables) :
    later.HasClone (destroyed (moments ++ [later])) keepable ↔
      ¬ destroyed (moments ++ [later]) keepable := by
  have hspared (other : Keepable) (hother : other ∈ later.keepables) :
      ¬ destroyed (moments ++ [later]) other ↔ later.isAlive other := by
    rw [h.destroyed_iff]
    simp [hother]
  rw [hspared keepable hthere]
  constructor
  · rintro (hroot | ⟨keeper, hkeeper, hkept⟩)
    · exact isAlive_of_isRoot hroot
    · have hkeeper := (hspared keeper (Workspace.mem_keepables_of_mem_keptBy hkept)).1 hkeeper
      exact Workspace.isAlive_of_keptBy hkeeper hkept hthere
  · intro halive
    refine (exists_keeper_of_isAlive halive).imp_right fun ⟨keeper, hkeeper, hkept⟩ => ?_
    exact ⟨keeper, (hspared keeper (Workspace.mem_keepables_of_mem_keptBy hkept)).2 hkeeper, hkept⟩

/-- What keeps itself is alive, as part of itself. -/
theorem isAlive_of_self_kept (hthere : keepable ∈ moment.keepables)
    (hkept : keepable ∈ moment.keptBy keepable) : moment.isAlive keepable := by
  refine Workspace.isAlive_of_supported (fun other => other = keepable) ?_ rfl
  rintro other rfl
  exact ⟨hthere, .inr ⟨other, rfl, hkept⟩⟩

end Moment

end TokenGrammar
