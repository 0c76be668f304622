import TokenGrammar.Proofs.Composition
import TokenGrammar.Proofs.Operations
import TokenGrammar.Proofs.Persistence

/-!
# Rules are set once

The slot of a rule is filled by the first setting that is asked for, through whatever name, and by
no other one. A setting that is refused leaves nothing behind but the cells of the pattern that was
built for it, to which nothing links, so nobody can notice it. And building a grammar does not look
at the patterns of rules, so it makes no difference whether a rule is set before or after.
-/

namespace TokenGrammar

/-! ### What is left alone -/

namespace Workspace

theorem invariant_rules (slots : Array (Option Grammar)) (rules : Scope Nat) :
    Invariant fun workspace => workspace.slots = slots ∧ workspace.rules = rules where
  openCell _ h := h
  storeParser _ _ h := h
  fillCell _ _ h := h
  fillProduction _ _ _ h _ := h
  modifyJournal _ h := h

theorem invariant_patterns (patterns : Nat → Option Grammar) :
    CommandInvariant fun workspace => workspace.pattern? = patterns where
  openCell _ h := h
  storeParser _ _ h := h
  fillCell _ _ h := h
  fillProduction _ _ _ h _ := h
  modifyJournal _ h := h
  openRule {workspace} name h := (funext (workspace.pattern?_openRule name)).trans h
  dropRule _ h := h
  dropParser _ h := h
  addModule _ _ h := h
  nameModule _ _ h := h
  dropModule _ h := h

end Workspace

/-! ### What building leaves behind -/

/-- The translation that makes room for more cells behind some first ones. -/
def Translation.apart (first shift : Nat) : Translation where
  cell place := if place < first then place else place + shift
  cell_injective a b h := by
    dsimp only at h
    split at h <;> split at h <;> omega
  first := first
  shift := shift
  cell_of_le _ hle := if_neg (Nat.not_lt.2 hle)

namespace Workspace

variable {workspace : Workspace}

theorem cell_apart_of_lt {first shift place : Nat} (h : place < first) :
    (Translation.apart first shift).cell place = place := if_pos h

theorem fixes_apart (workspace : Workspace) (shift : Nat) :
    (Translation.apart workspace.cells.size shift).Fixes workspace where
  traces := rfl
  links target htarget := by
    cases target with
    | cell place => exact congrArg Link.cell (cell_apart_of_lt (of_decide_eq_true htarget))
    | rule | handle | production | reference => rfl

/-- **Cells to which nothing links are not noticed.** -/
theorem WellLinked.carries_openCells (h : workspace.WellLinked)
    (hunique : workspace.parsers.IsUnique) (hjournal : workspace.journal = {})
    (bodies : List Grammar) :
    (Translation.apart workspace.cells.size bodies.length).Carries workspace
      (workspace.openCells bodies) where
  slots_size := rfl
  patterns slot := ((fixes_apart workspace _).pattern? h slot).symm
  first_le := Nat.le_refl _
  cells_size := by simp [openCells, Translation.apart]
  cells place := by
    by_cases hplace : place < workspace.cells.size
    · rw [cell_apart_of_lt hplace, openCells, Array.getElem?_append_left hplace,
        (fixes_apart workspace _).cell? h]
    · have hle := Nat.le_of_not_lt hplace
      rw [Translation.cell_of_le _ _ hle, Array.getElem?_eq_none, Array.getElem?_eq_none hle]
      · rfl
      · simp [openCells, Translation.apart, hle]
  unused {place built} hbuilt := by
    rw [cellContent?_openCells] at hbuilt
    obtain ⟨cell, hcell, -⟩ := Option.bind_eq_some_iff.1 hbuilt
    exact ⟨place, cell_apart_of_lt (Array.getElem?_eq_some_iff.1 hcell).1⟩
  modules_size := rfl
  fresh _ _ := rfl
  productions module index := ((fixes_apart workspace _).production? h module index).symm
  indices module label := (Option.map_id' ..).symm
  rooms _ _ := rfl
  contents module index := ((fixes_apart workspace _).productionContent? h module index).symm
  rules := rfl
  moduleNames := rfl
  parsers := ((fixes_apart workspace _).parsers h hunique).symm
  journal := by
    show workspace.journal = Translation.journal _ workspace.journal
    rw [hjournal]
    rfl

/-! ### Building and setting -/

def OpensCells (before after : Workspace) : Prop :=
  ∃ bodies, after = { before.openCells bodies with parsers := after.parsers }

instance : IsPreorder Workspace OpensCells where
  refl workspace := ⟨[], by rw [openCells_nil]⟩
  trans before between after := by
    rintro ⟨bodies, hbetween⟩ ⟨later, hafter⟩
    refine ⟨bodies ++ later, ?_⟩
    rw [hafter, hbetween, ← openCells_openCells]
    rfl

end Workspace

theorem Grammar.link_opensCells (home? : Option Nat) (grammar : Grammar) :
    (grammar.link home?).Respects Workspace.OpensCells :=
  grammar.link_respects (fun before body => ⟨[body], before.openCell_eq body⟩)
    (fun before _ _ => ⟨[], by rw [Workspace.openCells_nil]; rfl⟩) home?

theorem Grammar.link_openCells {home? : Option Nat} {grammar built : Grammar}
    {before after : Workspace} (hlink : grammar.link home? before = .ok built after)
    (hparsers : after.parsers = before.parsers) : ∃ bodies, after = before.openCells bodies := by
  obtain ⟨bodies, hafter⟩ := grammar.link_opensCells home? before built after hlink
  refine ⟨bodies, hafter.trans ?_⟩
  rw [hparsers]
  rfl

def Workspace.withSlots (slots : Array (Option Grammar)) (workspace : Workspace) : Workspace :=
  { workspace with slots }

/-- That two runs do the same in workspaces which differ in the patterns of rules. -/
def Run.SameBut {α : Type} (slots : Array (Option Grammar)) (run run' : Run α) : Prop :=
  InStep (fun before before' => before' = before.withSlots slots) (fun _ => False) Eq run run'

namespace Run.SameBut

variable {α β : Type} {slots : Array (Option Grammar)}

theorem pure (a : α) : SameBut slots (Pure.pure a) (Pure.pure a) := InStep.pure rfl

theorem bind {run run' : Run α} {next next' : α → Run β} (h : SameBut slots run run')
    (hnext : ∀ a, SameBut slots (next a) (next' a)) :
    SameBut slots (run >>= next) (run' >>= next') :=
  InStep.bind h fun a _ hsame => hsame ▸ hnext a

theorem get {next next' : Workspace → Run β}
    (h : ∀ now, SameBut slots (next now) (next' (now.withSlots slots))) :
    SameBut slots (MonadState.get >>= next) (MonadState.get >>= next') :=
  InStep.get fun now _ hnow => hnow ▸ h now

theorem modify {change : Workspace → Workspace}
    (h : ∀ now, (change now).withSlots slots = change (now.withSlots slots)) :
    SameBut slots (modify change) (modify change) :=
  (InStep.modify fun now _ hnow => hnow ▸ (h now).symm).imp fun _ _ _ => rfl

end Run.SameBut

/-- **Building does not look at the patterns of rules.** -/
theorem Grammar.link_sameBut (slots : Array (Option Grammar)) (home? : Option Nat) :
    ∀ grammar : Grammar, Run.SameBut slots (grammar.link home?) (grammar.link home?)
  | .leaf _ | .linked _ => .pure _
  | .unary _ part | .traced _ part => (part.link_sameBut slots home?).bind fun _ => .pure _
  | .binary _ first second =>
      (first.link_sameBut slots home?).bind fun _ =>
        (second.link_sameBut slots home?).bind fun _ => .pure _
  | .bind part _ => (part.link_sameBut slots home?).bind fun _ => .get fun _ => .pure _
  | .deferred _ => .get fun _ => .pure _
  | .deferredOnce _ =>
      .get fun _ => .get fun _ => Run.SameBut.bind (.modify fun _ => rfl) fun _ => .pure _
  | .named name => by
      rintro before _ rfl
      unfold InStepFrom Lands
      have hbound : (before.withSlots slots).bound? home? name = before.bound? home? name := by
        cases name <;> rfl
      rw [Grammar.link, name.resolve_eq, name.resolve_eq, hbound]
      cases before.bound? home? name with
      | some found => exact ⟨found, _, rfl, rfl, rfl⟩
      | none => exact .inr ⟨_, rfl, rfl⟩
  | .siblingOr name otherwise => by
      refine .get fun now => ?_
      rw [show (now.withSlots slots).siblingsAt home? name = now.siblingsAt home? name from rfl]
      cases now.siblingsAt home? name with
      | none => exact otherwise.link_sameBut slots home?
      | some target => exact .pure _
  | .shared _ part =>
      (part.link_sameBut slots home?).bind fun _ =>
        Run.SameBut.bind (.modify fun _ => rfl) fun _ => .pure _

/-- What is built after a rule was set, and what was built before. -/
theorem Grammar.link_fillSlot (home? : Option Nat) (grammar : Grammar) (slot : Nat)
    (pattern : Grammar) (workspace : Workspace) :
    grammar.link home? (workspace.fillSlot slot pattern)
      = match grammar.link home? workspace with
        | .ok built after => .ok built (after.fillSlot slot pattern)
        | .error fault after => .error fault (after.fillSlot slot pattern) := by
  have hslots := (Workspace.invariant_rules workspace.slots workspace.rules).composes.link home?
    grammar workspace ⟨rfl, rfl⟩
  have hsame := grammar.link_sameBut (workspace.fillSlot slot pattern).slots home? workspace _ rfl
  have hfill {after : Workspace} (hafter : after.slots = workspace.slots) :
      after.withSlots (workspace.fillSlot slot pattern).slots = after.fillSlot slot pattern := by
    simp only [Workspace.withSlots, Workspace.fillSlot, hafter]
  unfold InStepFrom at hsame
  unfold Lands at hslots hsame
  have hstart : workspace.withSlots (workspace.fillSlot slot pattern).slots
      = workspace.fillSlot slot pattern := rfl
  rw [hstart] at hsame
  cases hlink : grammar.link home? workspace with
  | ok built after =>
      rw [hlink] at hslots hsame
      obtain ⟨_, _, hlink', rfl, rfl⟩ := hsame
      rw [hlink', hfill hslots.1]
  | error fault after =>
      rw [hlink] at hslots hsame
      obtain ⟨_, hlink', rfl⟩ := hsame.resolve_left id
      rw [hlink', hfill hslots.1]

/-! ### Commands about rules -/

namespace Session

variable (session : Session)

theorem rules_of_link (grammar : Grammar) :
    let same (after : Workspace) : Prop :=
      after.slots = session.workspace.slots ∧ after.rules = session.workspace.rules
    Lands (grammar.link none) session.workspace.clearJournal (fun _ => same) fun _ => same :=
  (Workspace.invariant_rules session.workspace.slots session.workspace.rules).composes.link none
    grammar session.workspace.clearJournal ⟨rfl, rfl⟩

theorem perform_setRule (name : String) (pattern : Grammar) :
    session.perform (.setRule name pattern) = match session.workspace.rules.find? name with
      | none => (.error (.fault (.unbound (.rule name))), session.cleared)
      | some slot => match pattern.link none session.workspace.clearJournal with
        | .error fault after => (.error (.fault fault), { session with workspace := after })
        | .ok built after =>
            if (session.workspace.pattern? slot).isSome then
              (.error .alreadySet, { session with workspace := after })
            else (.ok .done, { session with workspace := after.fillSlot slot built }) := by
  have hattempt := session.attempt_slotOf_bind name fun slot => do
    let pattern ← Step.ofRun (pattern.link none)
    if ((← Step.workspace).pattern? slot).isSome then throw .alreadySet
    Step.modifyWorkspace (·.fillSlot slot pattern)
    return Reply.done
  refine hattempt.trans ?_
  cases session.workspace.rules.find? name with
  | none => rfl
  | some slot =>
      dsimp only
      rw [attempt_ofRun_bind]
      cases hlink : pattern.link none session.workspace.clearJournal with
      | error fault after => rfl
      | ok built after =>
          have hsame : session.workspace.pattern? slot = after.pattern? slot := by
            simp only [Workspace.pattern?, ((session.rules_of_link pattern).of_ok hlink).1]
          have hset : (do
              if ((← Step.workspace).pattern? slot).isSome then throw .alreadySet
              Step.modifyWorkspace (·.fillSlot slot built)
              return Reply.done : Step Reply) { session with workspace := after }
                = if (after.pattern? slot).isSome then
                    .error .alreadySet { session with workspace := after }
                  else .ok .done { session with workspace := after.fillSlot slot built } := by
            show (if (after.pattern? slot).isSome then _ else _ : Step Reply) _ = _
            split <;> rfl
          dsimp only
          rw [hset, hsame]
          cases (after.pattern? slot).isSome <;> rfl

theorem perform_store (name : String) (grammar : Grammar) :
    session.perform (.store name grammar)
      = match grammar.link none session.workspace.clearJournal with
        | .error fault after => (.error (.fault fault), { session with workspace := after })
        | .ok built after =>
            (.ok .done, { session with workspace := after.storeParser name built }) := by
  have hattempt := session.attempt_ofRun_bind (grammar.link none) fun built => do
    Step.modifyWorkspace (·.storeParser name built)
    return Reply.done
  refine hattempt.trans ?_
  cases grammar.link none session.workspace.clearJournal <;> rfl

theorem perform_isSet {name : String} {slot : Nat}
    (hslot : session.workspace.rules.find? name = some slot) :
    session.perform (.isSet name)
      = (.ok (.verdict (session.workspace.pattern? slot).isSome), session.cleared) := by
  have hattempt := session.attempt_slotOf_bind name fun slot =>
    return Reply.verdict (session.workspace.pattern? slot).isSome
  rw [hslot] at hattempt
  exact hattempt

/-! ### Settings -/

/-- Whether an operation sets a rule, through a name that is bound to its slot. -/
def sets (slot : Nat) : Operation → Bool
  | .command (.setRule name pattern) =>
      session.workspace.rules.find? name == some slot &&
        (session.perform (.setRule name pattern)).1.isOk
  | _ => false

def settings (slot : Nat) : Session → List Operation → Nat
  | _, [] => 0
  | session, operation :: operations =>
      (session.sets slot operation).toNat + settings slot (session.operate operation).2 operations

def hasPattern (slot : Nat) : Bool := (session.workspace.pattern? slot).isSome

variable {session}

theorem pattern?_operate {operation : Operation}
    (hoperation : ∀ name pattern, operation ≠ .command (.setRule name pattern)) :
    (session.operate operation).2.workspace.pattern? = session.workspace.pattern? := by
  have hinvariant := Workspace.invariant_patterns session.workspace.pattern?
  exact attempt_of_keeps (fun workspace => workspace.pattern? = session.workspace.pattern?)
    (hinvariant.keeps_operation (fun _ h => h) hoperation) rfl

theorem hasPattern_setRule (hlinked : session.workspace.WellLinked) (slot : Nat) (name : String)
    (pattern : Grammar) :
    (session.hasPattern slot).toNat + (session.sets slot (.command (.setRule name pattern))).toNat
      = ((session.perform (.setRule name pattern)).2.hasPattern slot).toNat := by
  have hperform := session.perform_setRule name pattern
  rw [sets]
  cases hfind : session.workspace.rules.find? name with
  | none =>
      rw [hfind] at hperform
      rw [hperform]
      rfl
  | some bound =>
      rw [hfind] at hperform
      dsimp only at hperform
      cases hlink : pattern.link none session.workspace.clearJournal with
      | error fault after =>
          rw [hlink] at hperform
          have hslots := ((session.rules_of_link pattern).of_error hlink).1
          rw [hperform, hasPattern, hasPattern]
          simp [Workspace.pattern?, hslots, Except.isOk, Except.toBool]
      | ok built after =>
          rw [hlink] at hperform
          have hslots := ((session.rules_of_link pattern).of_ok hlink).1
          have hsame (other : Nat) : after.pattern? other = session.workspace.pattern? other := by
            simp only [Workspace.pattern?, hslots]
          dsimp only at hperform
          split at hperform
          · rw [hperform, hasPattern, hasPattern, hsame]
            simp [Except.isOk, Except.toBool]
          · rename_i hunset
            by_cases hslot : bound = slot
            · subst hslot
              have hlt : bound < after.slots.size :=
                hslots ▸ of_decide_eq_true (hlinked.rules hfind).1
              rw [hperform, hasPattern, hasPattern, Workspace.pattern?_fillSlot_self _ _ hlt]
              simp [Except.isOk, Except.toBool, hunset]
            · rw [hperform, hasPattern, hasPattern, Workspace.pattern?_fillSlot_of_ne _ _ hslot,
                hsame]
              simp [hslot]

theorem hasPattern_operate (hlinked : session.workspace.WellLinked) (slot : Nat)
    (operation : Operation) :
    (session.hasPattern slot).toNat + (session.sets slot operation).toNat
      = ((session.operate operation).2.hasPattern slot).toNat := by
  by_cases hsetting : ∃ name pattern, operation = .command (.setRule name pattern)
  · obtain ⟨name, pattern, rfl⟩ := hsetting
    exact hasPattern_setRule hlinked slot name pattern
  · have hother : ∀ name pattern, operation ≠ .command (.setRule name pattern) :=
      fun name pattern heq => hsetting ⟨name, pattern, heq⟩
    have hsets : session.sets slot operation = false := by
      unfold sets
      split
      · exact absurd rfl (hother _ _)
      · rfl
    rw [hsets, hasPattern, hasPattern, pattern?_operate hother]
    rfl

theorem hasPattern_operated (hlinked : session.workspace.WellLinked) (slot : Nat)
    {operations : List Operation}
    (hoperations : ∀ operation ∈ operations, operation.all Grammar.isUnlinked) :
    (session.hasPattern slot).toNat + settings slot session operations
      = ((session.operated operations).hasPattern slot).toNat := by
  induction operations generalizing session with
  | nil => rfl
  | cons operation operations ih =>
      obtain ⟨hoperation, hrest⟩ := List.forall_mem_cons.1 hoperations
      rw [settings, ← Nat.add_assoc, hasPattern_operate hlinked]
      exact ih (wellLinked_operate hlinked hoperation) hrest

/-! ### What is not noticed -/

/-- **A setting that is refused is not noticed**, if nothing was stored while its pattern was
built. -/
theorem responses_of_refused (hlinked : session.workspace.WellLinked)
    (hunique : session.workspace.parsers.IsUnique) {pattern built : Grammar} {after : Workspace}
    (hlink : pattern.link none session.workspace.clearJournal = .ok built after)
    (hparsers : after.parsers = session.workspace.parsers) {later : List Operation}
    (hlater : ∀ operation ∈ later, operation.all Grammar.isUnlinked) :
    Session.responses { session with workspace := after } later = session.responses later := by
  obtain ⟨bodies, rfl⟩ := Grammar.link_openCells hlink hparsers
  have hcleared : session.cleared.workspace.WellLinked :=
    (hlinked.modifyJournal fun _ => {}).wellLinked
  have hcarries := hcleared.carries_openCells hunique rfl bodies
  have hsessions : Translation.CarriesSession _ session.cleared
      { session with workspace := session.cleared.workspace.openCells bodies } := ⟨hcarries, rfl⟩
  have hsame : session.cleared.cleared = session.cleared := rfl
  exact (hsessions.responses_eq rfl hlater).trans (responses_congr hsame later)

theorem perform_setRule_stored (session : Session) (name label : String) :
    session.perform (.setRule name (.named (.parser label)))
      = match session.workspace.rules.find? name with
        | none => (.error (.fault (.unbound (.rule name))), session.cleared)
        | some slot => match session.workspace.parsers.find? label with
          | none => (.error (.fault (.unbound (.parser label))), session.cleared)
          | some stored =>
              if (session.workspace.pattern? slot).isSome then (.error .alreadySet, session.cleared)
              else (.ok .done, { session with
                workspace := session.workspace.clearJournal.fillSlot slot stored }) := by
  have hlink : (Grammar.named (.parser label)).link none session.workspace.clearJournal
      = match session.workspace.parsers.find? label with
        | none => .error (.unbound (.parser label)) session.workspace.clearJournal
        | some stored => .ok stored session.workspace.clearJournal := by
    rw [Grammar.link, Name.resolve_eq, Workspace.bound?, Workspace.clearJournal]
    cases session.workspace.parsers.find? label <;> rfl
  rw [perform_setRule, hlink]
  cases session.workspace.rules.find? name with
  | none => rfl
  | some slot => cases session.workspace.parsers.find? label <;> rfl

/-- What storing comes to, also after a rule was set. -/
theorem exists_perform_store (session : Session) (name : String) (grammar : Grammar) :
    ∃ reply after,
      session.perform (.store name grammar) = (reply, { session with workspace := after }) ∧
      after.slots = session.workspace.slots ∧ after.rules = session.workspace.rules ∧
      ∀ slot pattern, Session.perform { session with
          workspace := session.workspace.clearJournal.fillSlot slot pattern } (.store name grammar)
        = (reply, { session with workspace := after.fillSlot slot pattern }) := by
  have hrules := session.rules_of_link grammar
  have hlater (slot : Nat) (pattern : Grammar) :=
    grammar.link_fillSlot none slot pattern session.workspace.clearJournal
  have hsame (slot : Nat) (pattern : Grammar) :
      (session.workspace.clearJournal.fillSlot slot pattern).clearJournal
        = session.workspace.clearJournal.fillSlot slot pattern := rfl
  rw [perform_store]
  simp only [perform_store, hsame, hlater]
  cases hlink : grammar.link none session.workspace.clearJournal with
  | ok built after =>
      obtain ⟨hslots, hrules⟩ := hrules.of_ok hlink
      exact ⟨_, after.storeParser name built, rfl, hslots, hrules, fun _ _ => rfl⟩
  | error fault after =>
      obtain ⟨hslots, hrules⟩ := hrules.of_error hlink
      exact ⟨_, after, rfl, hslots, hrules, fun _ _ => rfl⟩

/-- **It makes no difference whether a grammar is built before or after a rule is set**, here to
what is stored under a name that is not bound anew meanwhile. -/
theorem store_setRule_comm (session : Session) {name label other : String} {grammar : Grammar}
    (hstored : (session.perform (.store other grammar)).2.workspace.parsers.find? label
      = session.workspace.parsers.find? label) :
    let setting := Command.setRule name (.named (.parser label))
    let storing := Command.store other grammar
    let storedFirst := session.perform storing
    let setFirst := session.perform setting
    (storedFirst.2.perform setting).1 = setFirst.1 ∧
      (setFirst.2.perform storing).1 = storedFirst.1 ∧
      (storedFirst.2.perform setting).2.cleared = (setFirst.2.perform storing).2.cleared := by
  obtain ⟨reply, after, hperform, hslots, hrules, hlater⟩ :=
    session.exists_perform_store other grammar
  have hcleared : session.cleared.perform (.store other grammar)
      = session.perform (.store other grammar) := rfl
  rw [hperform] at hstored hcleared
  dsimp only at hstored ⊢
  have hpattern (slot : Nat) : after.pattern? slot = session.workspace.pattern? slot := by
    simp only [Workspace.pattern?, hslots]
  rw [hperform]
  simp only [perform_setRule_stored, hrules, hstored, hpattern]
  cases session.workspace.rules.find? name with
  | none => exact ⟨rfl, by rw [hcleared], by rw [hcleared]; rfl⟩
  | some slot =>
      cases session.workspace.parsers.find? label with
      | none => exact ⟨rfl, by rw [hcleared], by rw [hcleared]; rfl⟩
      | some stored =>
          dsimp only
          split
          · exact ⟨rfl, by rw [hcleared], by rw [hcleared]; rfl⟩
          · exact ⟨rfl, by rw [hlater], by rw [hlater]; rfl⟩

/-! ### The whole history -/

/-- What there is to say about rules in a session, in which each was set so many times. -/
structure SetsOnce (session : Session) (count : Nat → Nat) : Prop where
  once : ∀ slot, count slot ≤ 1
  /-- Every name of a rule tells whether the rule was set. -/
  asked : ∀ {name : String} {slot : Nat}, session.workspace.rules.find? name = some slot →
    (session.perform (.isSet name)).1 = .ok (.verdict (count slot == 1))
  /-- A rule that was set is set for ever, and never again. -/
  lasting : ∀ {slot : Nat} {later : List Operation}, count slot = 1 →
    (∀ operation ∈ later, operation.all Grammar.isUnlinked) →
    settings slot session later = 0 ∧ ∀ {name : String},
      (session.operated later).workspace.rules.find? name = some slot →
      ((session.operated later).perform (.isSet name)).1 = .ok (.verdict true)
  /-- The first setting is done, through whatever name. -/
  accepted : ∀ {name : String} {slot : Nat} {pattern built : Grammar} {after : Workspace},
    session.workspace.rules.find? name = some slot → count slot = 0 →
    pattern.link none session.workspace.clearJournal = .ok built after →
    session.perform (.setRule name pattern)
      = (.ok .done, { session with workspace := after.fillSlot slot built })
  /-- Every other one is refused, and leaves what building its pattern leaves. -/
  refused : ∀ {name : String} {slot : Nat} {pattern built : Grammar} {after : Workspace},
    session.workspace.rules.find? name = some slot → count slot = 1 →
    pattern.link none session.workspace.clearJournal = .ok built after →
    session.perform (.setRule name pattern)
      = (.error .alreadySet, { session with workspace := after })
  /-- If that stored nothing, whatever is done later is responded to as if nothing had been
  asked. -/
  unnoticed : ∀ {name : String} {slot : Nat} {pattern built : Grammar} {after : Workspace},
    session.workspace.rules.find? name = some slot → count slot = 1 →
    pattern.link none session.workspace.clearJournal = .ok built after →
    after.parsers = session.workspace.parsers → ∀ {later : List Operation},
    (∀ operation ∈ later, operation.all Grammar.isUnlinked) →
    (session.perform (.setRule name pattern)).2.responses later = session.responses later
  /-- A grammar that was built and stored before a rule is set to what is stored under a label is as
  good as one that is built after it, whatever is done later. -/
  early : ∀ {name label other : String} {grammar : Grammar},
    (session.perform (.store other grammar)).2.workspace.parsers.find? label
      = session.workspace.parsers.find? label → ∀ later : List Operation,
    let setting := Operation.command (.setRule name (.named (.parser label)))
    let storing := Operation.command (.store other grammar)
    (session.operated [storing, setting]).responses later
      = (session.operated [setting, storing]).responses later

/-- **Rules are set once in every history**, by the first setting that is asked for. -/
theorem rules_set_once {operations : List Operation}
    (hoperations : ∀ operation ∈ operations, operation.all Grammar.isUnlinked) :
    (({} : Session).operated operations).SetsOnce fun slot => settings slot {} operations := by
  have hempty : ({} : Session).workspace.WellLinked := Workspace.wellLinked_empty
  have hcount (slot : Nat) : settings slot {} operations
      = ((({} : Session).operated operations).hasPattern slot).toNat := by
    have hsum := hasPattern_operated hempty slot hoperations
    rwa [show hasPattern {} slot = false by simp [hasPattern, Workspace.pattern?],
      Bool.toNat_false, Nat.zero_add] at hsum
  have hlinked := wellLinked_operated hempty hoperations
  have hnone : ({} : Session).workspace.parsers.IsUnique := List.nodup_nil
  have hunique := isUnique_operated hnone operations
  generalize ({} : Session).operated operations = session at *
  have hset {slot : Nat} (hone : settings slot {} operations = 1) :
      (session.workspace.pattern? slot).isSome := by
    rw [hcount] at hone
    exact Bool.toNat_eq_one.1 hone
  constructor
  case once =>
    intro slot
    rw [hcount]
    exact Bool.toNat_le _
  case asked =>
    intro name slot hname
    rw [perform_isSet session hname, hcount, hasPattern]
    cases (session.workspace.pattern? slot).isSome <;> rfl
  case lasting =>
    intro slot later hone hlater
    have hsum := hasPattern_operated hlinked slot hlater
    rw [hasPattern, hset hone, Bool.toNat_true] at hsum
    have hstill := Bool.toNat_le ((session.operated later).hasPattern slot)
    have hlast : ((session.operated later).workspace.pattern? slot).isSome = true :=
      Bool.toNat_eq_one.1 (show ((session.operated later).hasPattern slot).toNat = 1 by omega)
    refine ⟨by omega, fun {name} hname => ?_⟩
    rw [perform_isSet _ hname, hlast]
  case accepted =>
    intro name slot pattern built after hname hzero hlink
    have hunset : (session.workspace.pattern? slot).isSome = false := by
      rw [hcount] at hzero
      exact Bool.toNat_eq_zero.1 hzero
    simp only [perform_setRule, hname, hlink, hunset, Bool.false_eq_true, if_false]
  case refused =>
    intro name slot pattern built after hname hone hlink
    simp only [perform_setRule, hname, hlink, hset hone, if_true]
  case unnoticed =>
    intro name slot pattern built after hname hone hlink hparsers later hlater
    simp only [perform_setRule, hname, hlink, hset hone, if_true]
    exact responses_of_refused hlinked hunique hlink hparsers hlater
  case early =>
    intro name label other grammar hstored later setting storing
    exact responses_congr (store_setRule_comm session hstored).2.2 later

/-- A rule under two names, which is set through one of them and then through the other one. -/
private def clonedHistory : List Operation :=
  [.command (.openRule "letter"), .cloneRule "letter" "other",
    .command (.store "twice" (.binary .seq (.named (.rule "letter")) (.named (.handle "other")))),
    .command (.setRule "other" (.leaf (.literal "a"))),
    .command (.setRule "letter" (.leaf (.literal "b")))]

/-- The rule is set once, and either name tells so. -/
theorem rules_set_once_cloned :
    (∀ operation ∈ clonedHistory, operation.all Grammar.isUnlinked) ∧
      (({} : Session).operated clonedHistory).SetsOnce
        (fun slot => settings slot {} clonedHistory) ∧ settings 0 {} clonedHistory = 1 := by
  have hunlinked : ∀ operation ∈ clonedHistory, operation.all Grammar.isUnlinked := by decide
  exact ⟨hunlinked, rules_set_once hunlinked, by decide⟩

end Session

end TokenGrammar
