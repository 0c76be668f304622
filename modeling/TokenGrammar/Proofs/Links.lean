import TokenGrammar.Proofs.Correspondence
import TokenGrammar.Proofs.Endings
import TokenGrammar.Proofs.Induction
import TokenGrammar.Proofs.Occurrences

/-!
# Links lead somewhere

A link is a place in the workspace, and nothing in the link says that the place is taken. Linking
makes a link to a cell where it opens the cell, though, all other links come from names, and slots,
cells and modules are never removed. So if all links lead to what is there, then this remains so
whatever is linked or parsed: the workspace is well linked, and stays well linked.

Runs that meet a fault count here as much as those that yield a value, because a session goes on
with the workspace as it was then.
-/

namespace TokenGrammar

namespace Workspace

def hasTarget (workspace : Workspace) : Link → Bool
  | .rule slot | .handle slot => decide (slot < workspace.slots.size)
  | .cell place => decide (place < workspace.cells.size)
  | .production place index | .reference place index =>
      (workspace.definition? place index).isSome

end Workspace

namespace Grammar

def leads (there : Link → Bool) : Grammar → Bool
  | linked target => there target
  | _ => true

theorem selected_leads (there : Link → Bool) : Selected (leads there) := by
  constructor <;> intros <;> rfl

theorem leads_imp {there there' : Link → Bool} (himp : ∀ target, there target → there' target)
    (grammar : Grammar) (h : grammar.leads there) : grammar.leads there' := by
  cases grammar with
  | linked target => exact himp target h
  | _ => rfl

/-- Whether a grammar can be parsed with: whatever still has to be built stands in a part whose
construction is put off. -/
def isBuilt : Grammar → Bool
  | leaf _ | deferred _ | linked _ => true
  | unary _ part | bind part _ | traced _ part => part.isBuilt
  | binary _ first second => first.isBuilt && second.isBuilt
  | deferredOnce _ | named _ | siblingOr _ _ | shared _ _ => false

/-- Whether a grammar was built, with links that all lead somewhere. -/
structure Stands (there : Link → Bool) (grammar : Grammar) : Prop where
  isBuilt : grammar.isBuilt
  leads : grammar.all (leads there)

theorem Stands.imp {there there' : Link → Bool} (himp : ∀ target, there target → there' target)
    {grammar : Grammar} (h : grammar.Stands there) : grammar.Stands there' :=
  ⟨h.isBuilt, grammar.all_imp (leads_imp himp) h.leads⟩

end Grammar

namespace Workspace

/-- Whether all links in a workspace lead to what is said to be there, and all that was built can be
parsed with. A module that keeps its productions has a place for each. -/
structure LinksInto (there : Link → Bool) (workspace : Workspace) : Prop where
  patterns : ∀ {slot pattern}, workspace.pattern? slot = some pattern → pattern.Stands there
  bodies : ∀ {place : Nat} {cell : Cell}, workspace.cells[place]? = some cell →
    cell.body.all (Grammar.leads there)
  cells : ∀ {place built}, workspace.cellContent? place = some built → built.Stands there
  contents : ∀ {place index built}, workspace.productionContent? place index = some built →
    built.Stands there
  definitions : ∀ {place index definition}, workspace.definition? place index = some definition →
    definition.all (Grammar.leads there)
  parsers : ∀ {label found}, workspace.parsers.find? label = some found → found.Stands there
  rules : ∀ {label slot}, workspace.rules.find? label = some slot →
    there (.rule slot) ∧ there (.handle slot)
  caches : ∀ {place : Nat} {found : Module} {cache : Array (Option Grammar)},
    workspace.modules[place]? = some found → found.cache? = some cache →
    cache.size = found.productions.length

theorem LinksInto.imp {there there' : Link → Bool} {workspace : Workspace}
    (himp : ∀ target, there target → there' target) (h : workspace.LinksInto there) :
    workspace.LinksInto there' where
  patterns hpattern := (h.patterns hpattern).imp himp
  bodies hcell := Grammar.all_imp (Grammar.leads_imp himp) _ (h.bodies hcell)
  cells hbuilt := (h.cells hbuilt).imp himp
  contents hbuilt := (h.contents hbuilt).imp himp
  definitions hdefinition := Grammar.all_imp (Grammar.leads_imp himp) _ (h.definitions hdefinition)
  parsers hfound := (h.parsers hfound).imp himp
  rules hslot := (h.rules hslot).imp (himp _) (himp _)
  caches := h.caches

def WellLinked (workspace : Workspace) : Prop := workspace.LinksInto workspace.hasTarget

/-- Whether all links that occur in a grammar lead somewhere in a workspace. -/
def Covers (workspace : Workspace) (grammar : Grammar) : Prop :=
  grammar.all (Grammar.leads workspace.hasTarget)

/-- Whether a later workspace still has everything that links may lead to. -/
structure Extends (before after : Workspace) : Prop where
  slots : before.slots.size ≤ after.slots.size
  cells : before.cells.size ≤ after.cells.size
  modules : before.modules.size ≤ after.modules.size
  definitions : ∀ place index, (before.definition? place index).isSome →
    (after.definition? place index).isSome

structure WellLinkedAfter (before after : Workspace) : Prop where
  wellLinked : after.WellLinked
  grown : before.Extends after

variable {before between after : Workspace} {grammar : Grammar}

theorem Extends.refl (workspace : Workspace) : workspace.Extends workspace :=
  ⟨Nat.le_refl _, Nat.le_refl _, Nat.le_refl _, fun _ _ h => h⟩

theorem Extends.trans (h : before.Extends between) (h' : between.Extends after) :
    before.Extends after where
  slots := Nat.le_trans h.slots h'.slots
  cells := Nat.le_trans h.cells h'.cells
  modules := Nat.le_trans h.modules h'.modules
  definitions place index hsome := h'.definitions place index (h.definitions place index hsome)

theorem Extends.hasTarget (h : before.Extends after) (target : Link)
    (htarget : before.hasTarget target) : after.hasTarget target := by
  cases target with
  | rule slot | handle slot =>
      exact decide_eq_true (Nat.lt_of_lt_of_le (of_decide_eq_true htarget) h.slots)
  | cell place => exact decide_eq_true (Nat.lt_of_lt_of_le (of_decide_eq_true htarget) h.cells)
  | production place index | reference place index => exact h.definitions place index htarget

theorem Covers.mono (h : before.Covers grammar) (hgrown : before.Extends after) :
    after.Covers grammar :=
  Grammar.all_imp (Grammar.leads_imp hgrown.hasTarget) grammar h

theorem WellLinked.refl (h : before.WellLinked) : before.WellLinkedAfter before :=
  ⟨h, .refl before⟩

theorem WellLinkedAfter.trans (h : before.WellLinkedAfter between)
    (h' : between.WellLinkedAfter after) : before.WellLinkedAfter after :=
  ⟨h'.wellLinked, h.grown.trans h'.grown⟩

theorem isSome_definition?_of_productionIndex? {workspace : Workspace} {place : Nat}
    {label : String} {index : Nat} (h : workspace.productionIndex? place label = some index) :
    (workspace.definition? place index).isSome := by
  obtain ⟨found, hfound, hindex⟩ := Option.bind_eq_some_iff.1 h
  have hlt := (List.findIdx?_eq_some_iff_getElem.1 hindex).1
  simp [definition?, hfound, List.getElem?_eq_getElem hlt]

theorem WellLinked.binds (h : before.WellLinked) :
    before.Binds (Grammar.leads before.hasTarget) where
  rule hslot := (h.rules hslot).1
  handle hslot := (h.rules hslot).2
  production hindex := isSome_definition?_of_productionIndex? hindex
  reference hindex := isSome_definition?_of_productionIndex? hindex

theorem WellLinked.all (h : before.WellLinked) :
    before.All (Grammar.leads before.hasTarget) where
  patterns hpattern := (h.patterns hpattern).leads
  cells {place cell} hcell := by
    cases hbuilt : cell.built? with
    | some built =>
        have hcontent : before.cellContent? place = some built := by
          simp [cellContent?, hcell, hbuilt]
        exact (h.cells hcontent).leads
    | none => exact h.bodies hcell
  contents hcontent := (h.contents hcontent).leads
  definitions := h.definitions
  parsers hparser := (h.parsers hparser).leads

/-- All links that a covered grammar comprises lead somewhere. -/
theorem WellLinked.hasTarget_of_comprises (h : before.WellLinked) {root : Grammar}
    (hroot : before.Covers root) {home? : Option Nat} {target : Link}
    (hcomprises : before.Comprises root home? (.linked target)) : before.hasTarget target :=
  Grammar.of_all (hcomprises.all_of_binds (Grammar.selected_leads _) h.binds h.all hroot)

/-! ### Changes -/

/-- What is there after a slot was filled was there before, unless it is what the slot was filled
with. -/
theorem pattern?_of_fillSlot {slot other : Nat} {pattern : Grammar}
    (h : (before.fillSlot slot grammar).pattern? other = some pattern) :
    grammar = pattern ∨ before.pattern? other = some pattern := by
  by_cases hslot : slot = other
  · subst hslot
    by_cases hlt : slot < before.slots.size
    · rw [pattern?_fillSlot_self before grammar hlt] at h
      exact .inl (Option.some.inj h)
    · simp [pattern?, fillSlot, hlt] at h
  · rw [pattern?_fillSlot_of_ne before grammar hslot] at h
    exact .inr h

theorem cellContent?_of_fillCell {place other : Nat} {built : Grammar}
    (h : (before.fillCell place grammar).cellContent? other = some built) :
    grammar = built ∨ before.cellContent? other = some built := by
  by_cases hplace : place = other
  · subst hplace
    obtain ⟨cell, hcell, hbuilt⟩ := Option.bind_eq_some_iff.1 h
    simp only [fillCell, Array.getElem?_modify, if_true] at hcell
    obtain ⟨_, _, rfl⟩ := Option.map_eq_some_iff.1 hcell
    exact .inl (Option.some.inj hbuilt)
  · rw [cellContent?_fillCell_of_ne before grammar hplace] at h
    exact .inr h

theorem productionContent?_of_fillProduction {place index place' index' : Nat} {built : Grammar}
    (h : (before.fillProduction place index grammar).productionContent? place' index'
      = some built) :
    grammar = built ∨ before.productionContent? place' index' = some built := by
  by_cases hsame : place = place' ∧ index = index'
  · obtain ⟨rfl, rfl⟩ := hsame
    exact .inl (productionContent?_fillProduction_self before h).symm
  · rw [productionContent?_fillProduction_of_ne before grammar hsame] at h
    exact .inr h

theorem find?_of_storeParser {label other : String} {found : Grammar}
    (h : (before.storeParser label grammar).parsers.find? other = some found) :
    grammar = found ∨ before.parsers.find? other = some found := by
  by_cases hlabel : other = label
  · subst hlabel
    rw [storeParser, Scope.find?_assign_self] at h
    exact .inl (Option.some.inj h)
  · rw [storeParser, Scope.find?_assign_of_ne _ _ hlabel] at h
    exact .inr h

theorem WellLinked.modifyJournal (h : before.WellLinked) (change : Journal → Journal) :
    before.WellLinkedAfter (before.modifyJournal change) :=
  ⟨⟨h.patterns, h.bodies, h.cells, h.contents, h.definitions, h.parsers, h.rules, h.caches⟩,
    ⟨Nat.le_refl _, Nat.le_refl _, Nat.le_refl _, fun _ _ hsome => hsome⟩⟩

theorem cellContent?_openCell (before : Workspace) (body : Grammar) :
    (before.openCell body).cellContent? = before.cellContent? := by
  funext place
  simp only [cellContent?, openCell, Array.getElem?_push]
  split
  · rename_i hplace
    simp [hplace]
  · rfl

theorem WellLinked.openCell (h : before.WellLinked) {body : Grammar} (hbody : before.Covers body) :
    before.WellLinkedAfter (before.openCell body) := by
  have hgrown : before.Extends (before.openCell body) :=
    ⟨Nat.le_refl _, by simp [Workspace.openCell], Nat.le_refl _, fun _ _ h => h⟩
  have hlinks := LinksInto.imp hgrown.hasTarget h
  refine ⟨⟨hlinks.patterns, fun {place cell} hcell => ?_, fun {place built} hbuilt => ?_,
    hlinks.contents, hlinks.definitions, hlinks.parsers, hlinks.rules, hlinks.caches⟩, hgrown⟩
  · simp only [Workspace.openCell, Array.getElem?_push] at hcell
    split at hcell
    · cases hcell
      exact hbody.mono hgrown
    · exact hlinks.bodies hcell
  · rw [cellContent?_openCell] at hbuilt
    exact hlinks.cells hbuilt

theorem WellLinked.storeParser (h : before.WellLinked) (label : String)
    (hgrammar : grammar.Stands before.hasTarget) :
    before.WellLinkedAfter (before.storeParser label grammar) := by
  refine ⟨⟨h.patterns, h.bodies, h.cells, h.contents, h.definitions,
    fun {label' found} hfind => ?_, h.rules, h.caches⟩,
    ⟨Nat.le_refl _, Nat.le_refl _, Nat.le_refl _, fun _ _ hsome => hsome⟩⟩
  obtain rfl | hfind := find?_of_storeParser hfind
  · exact hgrammar
  · exact h.parsers hfind

theorem WellLinked.fillSlot (h : before.WellLinked) (slot : Nat)
    (hgrammar : grammar.Stands before.hasTarget) :
    before.WellLinkedAfter (before.fillSlot slot grammar) := by
  have hgrown : before.Extends (before.fillSlot slot grammar) :=
    ⟨by simp [Workspace.fillSlot], Nat.le_refl _, Nat.le_refl _, fun _ _ h => h⟩
  have hlinks := LinksInto.imp hgrown.hasTarget h
  refine ⟨⟨fun {slot' pattern} hpattern => ?_, hlinks.bodies, hlinks.cells, hlinks.contents,
    hlinks.definitions, hlinks.parsers, hlinks.rules, hlinks.caches⟩, hgrown⟩
  obtain rfl | hpattern := pattern?_of_fillSlot hpattern
  · exact hgrammar.imp hgrown.hasTarget
  · exact hlinks.patterns hpattern

theorem WellLinked.fillCell (h : before.WellLinked) (place : Nat)
    (hgrammar : grammar.Stands before.hasTarget) :
    before.WellLinkedAfter (before.fillCell place grammar) := by
  have hgrown : before.Extends (before.fillCell place grammar) :=
    ⟨Nat.le_refl _, by simp [Workspace.fillCell], Nat.le_refl _, fun _ _ h => h⟩
  have hlinks := LinksInto.imp hgrown.hasTarget h
  refine ⟨⟨hlinks.patterns, fun {place' cell} hcell => ?_, fun {place' built} hbuilt => ?_,
    hlinks.contents, hlinks.definitions, hlinks.parsers, hlinks.rules, hlinks.caches⟩, hgrown⟩
  · simp only [Workspace.fillCell, Array.getElem?_modify] at hcell
    split at hcell
    · obtain ⟨former, hformer, rfl⟩ := Option.map_eq_some_iff.1 hcell
      have hbody := hlinks.bodies hformer
      exact hbody
    · exact hlinks.bodies hcell
  · obtain rfl | hbuilt := cellContent?_of_fillCell hbuilt
    · exact hgrammar.imp hgrown.hasTarget
    · exact hlinks.cells hbuilt

theorem WellLinked.fillProduction (h : before.WellLinked) (place index : Nat)
    (hgrammar : grammar.Stands before.hasTarget) :
    before.WellLinkedAfter (before.fillProduction place index grammar) := by
  have hgrown : before.Extends (before.fillProduction place index grammar) :=
    ⟨Nat.le_refl _, Nat.le_refl _, by simp [Workspace.fillProduction], fun _ _ hsome => by
      rw [definition?_fillProduction]
      exact hsome⟩
  have hlinks := LinksInto.imp hgrown.hasTarget h
  refine ⟨⟨hlinks.patterns, hlinks.bodies, hlinks.cells, fun {place' index' built} hcontent => ?_,
    fun {place' index' definition} hdefinition => ?_, hlinks.parsers, hlinks.rules,
    fun {place' found cache} hfound hcache => ?_⟩, hgrown⟩
  · obtain rfl | hcontent := productionContent?_of_fillProduction hcontent
    · exact hgrammar.imp hgrown.hasTarget
    · exact hlinks.contents hcontent
  · rw [definition?_fillProduction] at hdefinition
    exact hlinks.definitions hdefinition
  · simp only [Workspace.fillProduction, Array.getElem?_modify] at hfound
    split at hfound
    · obtain ⟨former, hformer, rfl⟩ := Option.map_eq_some_iff.1 hfound
      obtain ⟨kept, hkept, rfl⟩ := Option.map_eq_some_iff.1 hcache
      rw [Array.size_setIfInBounds]
      have hsize := h.caches hformer hkept
      exact hsize
    · exact h.caches hfound hcache

end Workspace

/-! ### Computations -/

/-- That a computation leaves the workspace in its state well linked, however it ends, and that a
value which it yields satisfies a condition. -/
def LinksWell {ε σ α : Type} (view : σ → Workspace) (run : EStateM ε σ α) (before : σ)
    (post : α → σ → Prop) : Prop :=
  Lands run before
    (fun value after => (view before).WellLinkedAfter (view after) ∧ post value after)
    fun _ after => (view before).WellLinkedAfter (view after)

namespace LinksWell

variable {ε σ α β : Type} {view : σ → Workspace} {before : σ}

theorem of_ok {run : EStateM ε σ α} {post : α → σ → Prop} (h : LinksWell view run before post)
    {value : α} {after : σ} (hrun : run before = .ok value after) :
    (view before).WellLinkedAfter (view after) ∧ post value after :=
  Lands.of_ok h hrun

theorem pure {value : α} {post : α → σ → Prop} (h : (view before).WellLinked)
    (hpost : post value before) : LinksWell view (Pure.pure value : EStateM ε σ α) before post :=
  ⟨h.refl, hpost⟩

theorem throw {fault : ε} {post : α → σ → Prop} (h : (view before).WellLinked) :
    LinksWell view (MonadExcept.throw fault : EStateM ε σ α) before post :=
  h.refl

theorem modify {change : σ → σ} (h : (view before).WellLinkedAfter (view (change before))) :
    LinksWell view (modify change : EStateM ε σ Unit) before fun _ after => after = change before :=
  ⟨h, rfl⟩

theorem bind {run : EStateM ε σ α} {next : α → EStateM ε σ β} {between : α → σ → Prop}
    {post : β → σ → Prop} (hrun : LinksWell view run before between)
    (hnext : ∀ value now, (view before).WellLinkedAfter (view now) → between value now →
      LinksWell view (next value) now post) : LinksWell view (run >>= next) before post := by
  refine Lands.bind hrun fun value now hnow => ?_
  obtain ⟨hafter, hbetween⟩ := hnow
  refine Lands.imp (hnext value now hafter hbetween) (fun last later hlast => ?_)
    fun fault later hlater => hafter.trans hlater
  exact ⟨hafter.trans hlast.1, hlast.2⟩

theorem get {next : σ → EStateM ε σ β} {post : β → σ → Prop} (h : (view before).WellLinked)
    (hnext : LinksWell view (next before) before post) :
    LinksWell view (MonadState.get >>= next) before post := by
  have hget : LinksWell view (MonadState.get : EStateM ε σ σ) before
      fun now after => now = before ∧ after = before := ⟨h.refl, rfl, rfl⟩
  refine hget.bind ?_
  rintro now after - ⟨rfl, rfl⟩
  exact hnext

theorem imp {run : EStateM ε σ α} {post weaker : α → σ → Prop}
    (hrun : LinksWell view run before post)
    (himp : ∀ value after, (view before).WellLinkedAfter (view after) → post value after →
      weaker value after) : LinksWell view run before weaker :=
  Lands.imp hrun (fun value after hafter => ⟨hafter.1, himp value after hafter.1 hafter.2⟩)
    fun _ _ hafter => hafter

end LinksWell

/-! ### Linking -/

section Linking

variable {before : Workspace} {grammar : Grammar}

theorem Run.demand_linksWell {α : Type} {fault : Fault} {value? : Option α}
    (h : before.WellLinked) :
    LinksWell id (Run.demand fault value?) before fun value after =>
      value? = some value ∧ after = before := by
  cases value? with
  | none => exact .throw h
  | some value => exact .pure h ⟨rfl, rfl⟩

section Anchoring

variable {there : Link → Bool} {siblings : Siblings}

mutual

/-- If all siblings lead somewhere, anchoring adds no other links. -/
theorem Grammar.leads_anchor
    (hsiblings : ∀ name target, siblings name = some target → there target) :
    ∀ grammar : Grammar, grammar.all (Grammar.leads there) →
      (grammar.anchor siblings).all (Grammar.leads there)
  | .leaf _, _ => rfl
  | .unary _ part, hleads | .traced _ part, hleads | .deferred part, hleads
  | .deferredOnce part, hleads | .shared _ part, hleads =>
      Bool.and_eq_true_iff.2 ⟨rfl, part.leads_anchor hsiblings (Bool.and_eq_true_iff.1 hleads).2⟩
  | .binary _ first second, hleads => by
      obtain ⟨hfirst, hsecond⟩ := Bool.and_eq_true_iff.1 hleads
      refine Bool.and_eq_true_iff.2 ⟨Bool.and_eq_true_iff.2 ⟨rfl, ?_⟩, ?_⟩
      · exact first.leads_anchor hsiblings (Bool.and_eq_true_iff.1 hfirst).2
      · exact second.leads_anchor hsiblings hsecond
  | .bind part next, hleads => by
      obtain ⟨hpart, hnext⟩ := Bool.and_eq_true_iff.1 hleads
      refine Bool.and_eq_true_iff.2 ⟨Bool.and_eq_true_iff.2 ⟨rfl, ?_⟩, ?_⟩
      · exact part.leads_anchor hsiblings (Bool.and_eq_true_iff.1 hpart).2
      · exact next.leads_anchor hsiblings hnext
  | .named (.sibling name), _ => by
      rw [Grammar.anchor]
      cases hsibling : siblings name with
      | none => rfl
      | some target => exact hsiblings name target hsibling
  | .named (.rule _), _ | .named (.handle _), _ | .named (.parser _), _
  | .named (.production _ _), _ => rfl
  | .siblingOr name otherwise, hleads => by
      rw [Grammar.anchor]
      cases hsibling : siblings name with
      | none => exact otherwise.leads_anchor hsiblings (Bool.and_eq_true_iff.1 hleads).2
      | some target => exact hsiblings name target hsibling
  | .linked _, hleads => hleads

theorem Selector.leads_anchor
    (hsiblings : ∀ name target, siblings name = some target → there target) :
    ∀ selector : Selector, selector.all (Grammar.leads there) →
      (selector.anchor siblings).all (Grammar.leads there)
  | .succeed, _ | .literal, _ | .kind, _ | .fail _, _ | .echo, _ => rfl
  | .constant grammar, hleads => grammar.leads_anchor hsiblings hleads
  | .exactly part, hleads => part.leads_anchor hsiblings hleads
  | .separatedExactly part separator, hleads => by
      obtain ⟨hpart, hseparator⟩ := Bool.and_eq_true_iff.1 hleads
      exact Bool.and_eq_true_iff.2 ⟨part.leads_anchor hsiblings hpart,
        separator.leads_anchor hsiblings hseparator⟩
  | .whenShown _ grammar otherwise, hleads => by
      obtain ⟨hgrammar, hotherwise⟩ := Bool.and_eq_true_iff.1 hleads
      exact Bool.and_eq_true_iff.2 ⟨grammar.leads_anchor hsiblings hgrammar,
        otherwise.leads_anchor hsiblings hotherwise⟩
  | .keep selector, hleads => selector.leads_anchor hsiblings hleads

end

end Anchoring

theorem Workspace.WellLinked.siblings_lead (h : before.WellLinked) (home? : Option Nat)
    (name : String) (target : Link) (hsibling : before.siblingsAt home? name = some target) :
    before.hasTarget target :=
  Workspace.siblingsAt_all h.binds hsibling

theorem Name.resolve_linksWell {home? : Option Nat} (h : before.WellLinked) (name : Name) :
    LinksWell id (name.resolve home?) before fun built after => built.Stands after.hasTarget := by
  refine .get h ?_
  cases name with
  | rule label =>
      refine .bind (Run.demand_linksWell h) ?_
      rintro slot _ - ⟨hslot, rfl⟩
      exact .pure h ⟨rfl, h.binds.rule hslot⟩
  | handle label =>
      refine .bind (Run.demand_linksWell h) ?_
      rintro slot _ - ⟨hslot, rfl⟩
      exact .pure h ⟨rfl, h.binds.handle hslot⟩
  | parser label =>
      refine (Run.demand_linksWell h).imp ?_
      rintro built _ - ⟨hfind, rfl⟩
      exact h.parsers hfind
  | production owner label =>
      refine .bind (Run.demand_linksWell h) ?_
      rintro place _ - ⟨_, rfl⟩
      refine .bind (Run.demand_linksWell h) ?_
      rintro index _ - ⟨hindex, rfl⟩
      exact .pure h ⟨rfl, h.binds.production hindex⟩
  | sibling label =>
      refine .bind (Run.demand_linksWell h) ?_
      rintro target _ - ⟨hsibling, rfl⟩
      exact .pure h ⟨rfl, Workspace.siblingsAt_all h.binds hsibling⟩

theorem Grammar.link_linksWell : ∀ (grammar : Grammar) (home? : Option Nat) {before : Workspace},
    before.WellLinked → before.Covers grammar →
      LinksWell id (grammar.link home?) before fun built after => built.Stands after.hasTarget
  | .leaf matcher, _, _, h, hgrammar => .pure h ⟨rfl, hgrammar⟩
  | .unary operator part, home?, _, h, hgrammar => by
      refine .bind (part.link_linksWell home? h (Bool.and_eq_true_iff.1 hgrammar).2) ?_
      intro built after hafter hbuilt
      exact .pure hafter.wellLinked
        ⟨hbuilt.isBuilt, Bool.and_eq_true_iff.2 ⟨rfl, hbuilt.leads⟩⟩
  | .binary operator first second, home?, _, h, hgrammar => by
      obtain ⟨hfirst, hsecond⟩ := Bool.and_eq_true_iff.1 hgrammar
      refine .bind (first.link_linksWell home? h (Bool.and_eq_true_iff.1 hfirst).2) ?_
      intro builtFirst between hbetween hbuiltFirst
      have hsecond := Workspace.Covers.mono hsecond hbetween.grown
      refine .bind (second.link_linksWell home? hbetween.wellLinked hsecond) ?_
      intro builtSecond after hafter hbuiltSecond
      have hbuiltFirst := hbuiltFirst.imp hafter.grown.hasTarget
      exact .pure hafter.wellLinked
        ⟨Bool.and_eq_true_iff.2 ⟨hbuiltFirst.isBuilt, hbuiltSecond.isBuilt⟩,
          Bool.and_eq_true_iff.2 ⟨Bool.and_eq_true_iff.2 ⟨rfl, hbuiltFirst.leads⟩,
            hbuiltSecond.leads⟩⟩
  | .bind part next, home?, _, h, hgrammar => by
      obtain ⟨hpart, hnext⟩ := Bool.and_eq_true_iff.1 hgrammar
      refine .bind (part.link_linksWell home? h (Bool.and_eq_true_iff.1 hpart).2) ?_
      intro built after hafter hbuilt
      have hnext := next.all_imp (Grammar.leads_imp hafter.grown.hasTarget) hnext
      have hnext := next.leads_anchor (hafter.wellLinked.siblings_lead home?) hnext
      exact .get hafter.wellLinked (.pure hafter.wellLinked ⟨hbuilt.isBuilt,
        Bool.and_eq_true_iff.2 ⟨Bool.and_eq_true_iff.2 ⟨rfl, hbuilt.leads⟩, hnext⟩⟩)
  | .traced label part, home?, _, h, hgrammar => by
      refine .bind (part.link_linksWell home? h (Bool.and_eq_true_iff.1 hgrammar).2) ?_
      intro built after hafter hbuilt
      exact .pure hafter.wellLinked
        ⟨hbuilt.isBuilt, Bool.and_eq_true_iff.2 ⟨rfl, hbuilt.leads⟩⟩
  | .deferred part, home?, before, h, hgrammar => by
      have hpart := part.leads_anchor (h.siblings_lead home?) (Bool.and_eq_true_iff.1 hgrammar).2
      exact .get h (.pure h ⟨rfl, Bool.and_eq_true_iff.2 ⟨rfl, hpart⟩⟩)
  | .deferredOnce part, home?, before, h, hgrammar => by
      have hpart := part.leads_anchor (h.siblings_lead home?) (Bool.and_eq_true_iff.1 hgrammar).2
      have hopened := h.openCell hpart
      refine .get h (.get h (.bind (.modify hopened) ?_))
      rintro _ after - rfl
      refine .pure hopened.wellLinked ⟨rfl, decide_eq_true ?_⟩
      simp [Workspace.openCell]
  | .named name, _, _, h, _ => name.resolve_linksWell h
  | .siblingOr name otherwise, home?, before, h, hgrammar => by
      refine .get h ?_
      cases hsibling : before.siblingsAt home? name with
      | none => exact otherwise.link_linksWell home? h (Bool.and_eq_true_iff.1 hgrammar).2
      | some target =>
          exact .pure h ⟨rfl, Workspace.siblingsAt_all h.binds hsibling⟩
  | .shared label part, home?, _, h, hgrammar => by
      refine .bind (part.link_linksWell home? h (Bool.and_eq_true_iff.1 hgrammar).2) ?_
      intro built between hbetween hbuilt
      have hstored := hbetween.wellLinked.storeParser label hbuilt
      refine .bind (.modify hstored) ?_
      rintro _ after - rfl
      exact .pure hstored.wellLinked (hbuilt.imp hstored.grown.hasTarget)
  | .linked target, _, _, h, hgrammar => .pure h ⟨rfl, hgrammar⟩

theorem Run.modifyJournal_linksWell {change : Journal → Journal} (h : before.WellLinked) :
    LinksWell id (modify (·.modifyJournal change) : Run Unit) before fun _ _ => True :=
  LinksWell.imp (.modify (h.modifyJournal change)) fun _ _ _ _ => trivial

theorem Run.build_linksWell {site : Site} {home? : Option Nat} (h : before.WellLinked)
    (hgrammar : before.Covers grammar) :
    LinksWell id (Run.build site home? grammar) before
      fun built after => built.Stands after.hasTarget := by
  refine .bind (Run.modifyJournal_linksWell h) fun _ noted hnoted _ => ?_
  exact grammar.link_linksWell home? hnoted.wellLinked (hgrammar.mono hnoted.grown)

theorem Run.partContent_linksWell (h : before.WellLinked) (hgrammar : before.Covers grammar) :
    LinksWell id (Run.partContent grammar) before
      fun built after => built.Stands after.hasTarget := by
  refine .bind (Run.modifyJournal_linksWell h) fun _ noted hnoted _ => ?_
  exact Run.build_linksWell hnoted.wellLinked (hgrammar.mono hnoted.grown)

theorem Run.cellContent_linksWell (h : before.WellLinked) (place : Nat) :
    LinksWell id (Run.cellContent place) before
      fun built after => built.Stands after.hasTarget := by
  refine .bind (Run.modifyJournal_linksWell h) fun _ noted hnoted _ => ?_
  refine .get hnoted.wellLinked (.bind (Run.demand_linksWell hnoted.wellLinked) ?_)
  rintro cell now - ⟨hcell, rfl⟩
  cases hbuilt : cell.built? with
  | some built =>
      have hcontent : now.cellContent? place = some built := by
        simp [Workspace.cellContent?, hcell, hbuilt]
      exact .pure hnoted.wellLinked (hnoted.wellLinked.cells hcontent)
  | none =>
      have hcovers := hnoted.wellLinked.bodies hcell
      refine .bind (Run.build_linksWell hnoted.wellLinked hcovers) fun built now hnow hbuilt => ?_
      have hfilled := hnow.wellLinked.fillCell place hbuilt
      refine .bind (.modify hfilled) ?_
      rintro _ after - rfl
      exact .pure hfilled.wellLinked (hbuilt.imp hfilled.grown.hasTarget)

theorem Run.productionContent_linksWell (h : before.WellLinked) (place index : Nat) :
    LinksWell id (Run.productionContent place index) before fun built after =>
      built.Stands after.hasTarget := by
  refine .bind (Run.modifyJournal_linksWell h) fun _ noted hnoted _ => ?_
  refine .get hnoted.wellLinked ?_
  cases hcontent : noted.productionContent? place index with
  | some built => exact .pure hnoted.wellLinked (hnoted.wellLinked.contents hcontent)
  | none =>
      refine .get hnoted.wellLinked (.bind (Run.demand_linksWell hnoted.wellLinked) ?_)
      rintro definition _ - ⟨hdefinition, rfl⟩
      have hcovers := hnoted.wellLinked.definitions hdefinition
      refine .bind (Run.build_linksWell hnoted.wellLinked hcovers) fun built now hnow hbuilt => ?_
      have hfilled := hnow.wellLinked.fillProduction place index hbuilt
      refine .bind (.modify hfilled) ?_
      rintro _ after - rfl
      exact .pure hfilled.wellLinked (hbuilt.imp hfilled.grown.hasTarget)

theorem Run.demandAlive_linksWell {held : List Grammar} {keepable : Keepable} {fault : Fault}
    (h : before.WellLinked) :
    LinksWell id (Run.demandAlive held keepable fault) before fun _ _ => True := by
  refine .get h ?_
  split
  · exact .pure h trivial
  · exact .throw h

theorem Link.opened_linksWell (held : List Grammar) (target : Link) (h : before.WellLinked) :
    LinksWell id (target.opened held) before
      fun opened after => opened.2.Stands after.hasTarget := by
  cases target with
  | rule slot =>
      refine .get h (.bind (Run.demand_linksWell h) ?_)
      rintro pattern _ - ⟨hpattern, rfl⟩
      exact .pure h (h.patterns hpattern)
  | handle slot =>
      refine .bind (Run.demandAlive_linksWell h) fun _ now hnow _ => ?_
      refine .get hnow.wellLinked (.bind (Run.demand_linksWell hnow.wellLinked) ?_)
      rintro pattern _ - ⟨hpattern, rfl⟩
      exact .pure hnow.wellLinked (hnow.wellLinked.patterns hpattern)
  | cell place =>
      refine .bind (Run.cellContent_linksWell h place) fun built now hnow hbuilt => ?_
      exact .pure hnow.wellLinked hbuilt
  | production place index =>
      refine .bind (Run.productionContent_linksWell h place index) fun built now hnow hbuilt => ?_
      exact .pure hnow.wellLinked hbuilt
  | reference place index =>
      refine .bind (Run.demandAlive_linksWell h) fun _ noted hnoted _ => ?_
      refine .bind (Run.productionContent_linksWell hnoted.wellLinked place index) ?_
      intro built now hnow hbuilt
      exact .pure hnow.wellLinked hbuilt

end Linking

/-! ### Parsing -/

section Parsing

variable {chain : Chain} {enter : Enter}

def Run.linking (base : Workspace) : Correspondence Run Run where
  Relates run _ := ∀ before : Workspace, before.WellLinked → base.Extends before →
    LinksWell id run before fun _ _ => True
  pure _ _ h _ := .pure h trivial
  bind hrun hnext before h hbase := by
    refine .bind (hrun before h hbase) fun value now hnow _ => ?_
    exact hnext value now hnow.wellLinked (hbase.trans hnow.grown)

def Enter.LinksWell (enter : Enter) : Prop :=
  ∀ (held : List Grammar) (grammar : Grammar) (chain : Chain) (start : Cursor) (before : Workspace),
    before.WellLinked → grammar.Stands before.hasTarget →
      TokenGrammar.LinksWell id (enter held grammar chain start) before fun _ _ => True

theorem Run.parseNoting_linksWell (matcher : Leaf) {start : Cursor} {before : Workspace}
    (h : before.WellLinked) :
    LinksWell id (matcher.parseNoting chain start) before fun _ _ => True := by
  rw [Leaf.parseNoting_eq]
  refine .bind (Run.modifyJournal_linksWell h) fun _ noted hnoted _ => ?_
  exact .pure hnoted.wellLinked trivial

theorem Run.traced_linksWell {held : List Grammar} {label : String} {part : Grammar}
    {p : Parser Run Value} {start : Cursor} {before : Workspace} (h : before.WellLinked)
    (hp : ∀ noted, before.WellLinkedAfter noted →
      LinksWell id (p chain start) noted fun _ _ => True) :
    LinksWell id (Run.traced held label part p chain start) before fun _ _ => True := by
  refine .get h (.bind (Run.demand_linksWell h) ?_)
  rintro text _ - ⟨_, rfl⟩
  refine .bind (Run.modifyJournal_linksWell h) fun _ noted hnoted _ => ?_
  refine .bind (hp noted hnoted) fun outcome now hnow _ => ?_
  refine .bind (Run.modifyJournal_linksWell hnow.wellLinked) fun _ after hafter _ => ?_
  exact .pure hafter.wellLinked trivial

theorem Enter.LinksWell.parser (henter : enter.LinksWell) (held : List Grammar)
    {base : Workspace} : ∀ grammar : Grammar, grammar.Stands base.hasTarget →
      (Run.linking base).Parsers (grammar.parser enter held) (grammar.parser enter held)
  | .leaf matcher, _ => fun _ _ _ h _ => Run.parseNoting_linksWell matcher h
  | .unary operator part, hgrammar => by
      have hpart := (Bool.and_eq_true_iff.1 hgrammar.leads).2
      exact .unary operator (henter.parser held part ⟨hgrammar.isBuilt, hpart⟩)
  | .binary operator first second, hgrammar => by
      obtain ⟨hfirst, hsecond⟩ := Bool.and_eq_true_iff.1 hgrammar.leads
      have hfirst := (Bool.and_eq_true_iff.1 hfirst).2
      obtain ⟨hbuiltFirst, hbuiltSecond⟩ := Bool.and_eq_true_iff.1 hgrammar.isBuilt
      exact .binary operator (henter.parser held first ⟨hbuiltFirst, hfirst⟩)
        (henter.parser held second ⟨hbuiltSecond, hsecond⟩)
  | .bind part next, hgrammar => by
      obtain ⟨hpart, hnext⟩ := Bool.and_eq_true_iff.1 hgrammar.leads
      have hpart := (Bool.and_eq_true_iff.1 hpart).2
      refine .bind (henter.parser held part ⟨hgrammar.isBuilt, hpart⟩) ?_
      intro value chain start before h hbase
      have hselected := Selector.all_select (Grammar.selected_leads _) value hnext
      have hselected := Grammar.all_imp (Grammar.leads_imp hbase.hasTarget) _ hselected
      refine .bind ((next.select value).link_linksWell none h hselected) ?_
      intro selected now hnow hbuilt
      exact henter _ _ _ _ _ hnow.wellLinked hbuilt
  | .traced label part, hgrammar => by
      intro chain start before h hbase
      have hpart := (Bool.and_eq_true_iff.1 hgrammar.leads).2
      have hparser := henter.parser held part ⟨hgrammar.isBuilt, hpart⟩
      exact Run.traced_linksWell h fun noted hnoted =>
        hparser chain start noted hnoted.wellLinked (hbase.trans hnoted.grown)
  | .deferred part, hgrammar => by
      intro chain start before h hbase
      have hpart := (Bool.and_eq_true_iff.1 hgrammar.leads).2
      have hpart := Grammar.all_imp (Grammar.leads_imp hbase.hasTarget) _ hpart
      refine .bind (Run.partContent_linksWell h hpart) fun built now hnow hbuilt => ?_
      exact henter _ _ _ _ _ hnow.wellLinked hbuilt
  | .linked target, _ => by
      intro chain start before h hbase
      rw [Grammar.parser, Grammar.parserTracing, Link.parser_eq_opened]
      refine .bind (target.opened_linksWell held h) fun opened now hnow hopened => ?_
      exact henter _ _ _ _ _ hnow.wellLinked hopened
  | .named _, _ | .siblingOr _ _, _ | .shared _ _, _ | .deferredOnce _, _ =>
      fun _ _ _ h _ => .throw h

/-- **Parsing leaves the workspace well linked**, by induction on the depth. -/
theorem Grammar.parseWithin_linksWell (depth : Nat) :
    Enter.LinksWell (Grammar.parseWithin depth) := by
  induction depth with
  | zero => exact fun _ _ _ _ _ h _ => .throw h
  | succ depth ih =>
      intro held grammar chain start before h hgrammar
      exact ih.parser held grammar hgrammar chain start before h (.refl before)

end Parsing

end TokenGrammar
