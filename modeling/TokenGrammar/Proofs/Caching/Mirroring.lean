import Mathlib.Data.List.Forall2
import TokenGrammar.Proofs.Linking
import TokenGrammar.Proofs.Caching.Switching

/-!
# Workspaces that mirror each other

Two workspaces are filled by the same parses, one of which keeps less than the other. Where the
plainer one builds a part anew, the other may go on with what a cell holds; so a cell of the cached
workspace may stand for many parts of the plainer one, and for many of its cells. Which one stands
for which is an image of cells. It grows as cells are opened, and never changes.
-/

namespace TokenGrammar

/-! ### Lists of named grammars -/

theorem rel_bind {α α' β β' : Type} {r : α → α' → Prop} {s : β → β' → Prop} {value? : Option α}
    {value'? : Option α'} (h : Option.Rel r value? value'?) {next : α → Option β}
    {next' : α' → Option β'} (hnext : ∀ a a', r a a' → Option.Rel s (next a) (next' a')) :
    Option.Rel s (value?.bind next) (value'?.bind next') := by
  cases h with
  | none => exact .none
  | some hvalue => exact hnext _ _ hvalue

theorem rel_imp {α β : Type} {r r' : α → β → Prop} {a? : Option α} {b? : Option β}
    (h : Option.Rel r a? b?) (himp : ∀ a b, r a b → r' a b) : Option.Rel r' a? b? := by
  cases h with
  | none => exact .none
  | some hrel => exact .some (himp _ _ hrel)

theorem isSome_of_rel {α β : Type} {r : α → β → Prop} {a? : Option α} {b? : Option β}
    (h : Option.Rel r a? b?) : a?.isSome = b?.isSome := by
  cases h <;> rfl

theorem exists_of_rel_some {α β : Type} {r : α → β → Prop} {a : α} {b? : Option β}
    (h : Option.Rel r (some a) b?) : ∃ b, b? = some b ∧ r a b := by
  cases h with
  | some hrel => exact ⟨_, rfl, hrel⟩

/-- Whether two lists have the same names, and related grammars under them. -/
abbrev Named (r : Grammar → Grammar → Prop) :
    List (String × Grammar) → List (String × Grammar) → Prop :=
  List.Forall₂ fun entry entry' => entry.1 = entry'.1 ∧ r entry.2 entry'.2

namespace Named

variable {r : Grammar → Grammar → Prop} {entries entries' : List (String × Grammar)}

theorem imp {r' : Grammar → Grammar → Prop} (h : Named r entries entries')
    (himp : ∀ grammar grammar', r grammar grammar' → r' grammar grammar') :
    Named r' entries entries' :=
  List.Forall₂.imp (fun _ _ hentry => ⟨hentry.1, himp _ _ hentry.2⟩) h

theorem find? (h : Named r entries entries') (name : String) :
    Option.Rel r (Scope.find? entries name) (Scope.find? entries' name) := by
  induction h with
  | nil => exact .none
  | @cons entry entry' _ _ hentry _ ih =>
      unfold Scope.find? at ih ⊢
      rw [List.find?_cons, List.find?_cons, hentry.1]
      split
      · exact .some hentry.2
      · exact ih

theorem index? (h : Named r entries entries') (name : String) :
    Productions.index? entries name = Productions.index? entries' name := by
  unfold Productions.index?
  induction h with
  | nil => rfl
  | cons hentry _ ih => rw [List.findIdx?_cons, List.findIdx?_cons, hentry.1, ih]

theorem getElem? (h : Named r entries entries') (index : Nat) :
    Option.Rel (fun entry entry' => entry.1 = entry'.1 ∧ r entry.2 entry'.2)
      entries[index]? entries'[index]? := by
  induction h generalizing index with
  | nil => exact .none
  | cons hentry _ ih =>
      cases index with
      | zero => exact .some hentry
      | succ index => exact ih index

theorem any (h : Named r entries entries') {f : Grammar → Bool}
    (hf : ∀ grammar grammar', r grammar grammar' → f grammar = f grammar') :
    entries.any (fun entry => f entry.2) = entries'.any fun entry => f entry.2 := by
  induction h with
  | nil => rfl
  | cons hentry _ ih => rw [List.any_cons, List.any_cons, ih, hf _ _ hentry.2]

end Named

/-! ### Grammars -/

/-- That the second grammar was built from a part that keeps more than the one from which the first
was built. It holds a cell where the first one builds a part each time, or where the first one holds
a cell of which it is the image. -/
inductive Grammar.Mirrors (image? : Nat → Option Nat) (body? : Nat → Option Grammar) :
    Grammar → Grammar → Prop where
  | leaf {matcher : Leaf} : Mirrors image? body? (.leaf matcher) (.leaf matcher)
  | unary {operator : UnaryOperator} {part part' : Grammar} :
      Mirrors image? body? part part' →
      Mirrors image? body? (.unary operator part) (.unary operator part')
  | binary {operator : BinaryOperator} {first second first' second' : Grammar} :
      Mirrors image? body? first first' → Mirrors image? body? second second' →
      Mirrors image? body? (.binary operator first second) (.binary operator first' second')
  | bind {part part' : Grammar} {next next' : Selector} :
      Mirrors image? body? part part' →
      (∀ value, (next.select value).LessCached (next'.select value)) →
      Mirrors image? body? (.bind part next) (.bind part' next')
  | traced {label : String} {part part' : Grammar} :
      Mirrors image? body? part part' →
      Mirrors image? body? (.traced label part) (.traced label part')
  | deferred {part part' : Grammar} :
      part.LessCached part' → Mirrors image? body? (.deferred part) (.deferred part')
  | kept {part part' : Grammar} {place' : Nat} :
      body? place' = some part' → part.LessCached part' →
      Mirrors image? body? (.deferred part) (.linked (.cell place'))
  | cell {place place' : Nat} :
      image? place = some place' →
      Mirrors image? body? (.linked (.cell place)) (.linked (.cell place'))
  | linked {target : Link} :
      (∀ place, target ≠ .cell place) → Mirrors image? body? (.linked target) (.linked target)

def Keepable.isCell : Keepable → Bool
  | .cell _ => true
  | _ => false

namespace Grammar.Mirrors

variable {image? image'? : Nat → Option Nat} {body? body'? : Nat → Option Grammar}
  {grammar grammar' : Grammar}

theorem mono (h : grammar.Mirrors image? body? grammar')
    (himage : ∀ place place', image? place = some place' → image'? place = some place')
    (hbody : ∀ place body, body? place = some body → body'? place = some body) :
    grammar.Mirrors image'? body'? grammar' := by
  induction h with
  | leaf => exact .leaf
  | unary _ ih => exact .unary ih
  | binary _ _ ihfirst ihsecond => exact .binary ihfirst ihsecond
  | bind _ hnext ih => exact .bind ih hnext
  | traced _ ih => exact .traced ih
  | deferred hpart => exact .deferred hpart
  | kept hplace hpart => exact .kept (hbody _ _ hplace) hpart
  | cell hplace => exact .cell (himage _ _ hplace)
  | linked htarget => exact .linked htarget

theorem mem_keeps (h : grammar.Mirrors image? body? grammar') {keepable : Keepable}
    (hcell : keepable.isCell = false) : keepable ∈ grammar.keeps ↔ keepable ∈ grammar'.keeps := by
  have hne : ∀ place, keepable ≠ .cell place := by
    rintro place rfl
    cases hcell
  induction h with
  | leaf | deferred | linked => exact Iff.rfl
  | unary _ ih | bind _ _ ih | traced _ ih => exact ih
  | binary _ _ ihfirst ihsecond => simp only [Grammar.keeps, List.mem_append, ihfirst, ihsecond]
  | kept | cell => simp [Grammar.keeps, Link.kept?, hne]

end Grammar.Mirrors

/-! ### What parsing leaves alone -/

namespace Workspace

def productions? (workspace : Workspace) (module : Nat) : Option Productions :=
  workspace.modules[module]?.map (·.productions)

/-- The number of productions that a module can keep, none if it builds them each time. -/
def cacheSize? (workspace : Workspace) (module : Nat) : Option Nat :=
  (workspace.modules[module]?).bind fun found => found.cache?.map (·.size)

/-- Whether all names are bound to the same. -/
structure SameScope (before after : Workspace) : Prop where
  rules : after.rules = before.rules
  moduleNames : after.moduleNames = before.moduleNames
  parsers : after.parsers = before.parsers
  productions? : ∀ module, after.productions? module = before.productions? module

/-- A later workspace in which only cells and productions were built. -/
structure Continues (before after : Workspace) : Prop extends SameScope before after where
  slots : after.slots = before.slots
  cacheSize? : ∀ module, after.cacheSize? module = before.cacheSize? module
  bodies : before.Grows after
  cells : ∀ place built, before.cellContent? place = some built →
    after.cellContent? place = some built
  contents : ∀ module index built, before.productionContent? module index = some built →
    after.productionContent? module index = some built

variable {workspace before between after : Workspace}

theorem definition?_eq (workspace : Workspace) (module index : Nat) :
    workspace.definition? module index
      = (workspace.productions? module).bind fun productions => productions[index]?.map (·.2) := by
  simp only [definition?, productions?]
  cases workspace.modules[module]? with
  | none => rfl
  | some found => cases hproduction : found.productions[index]? <;> simp [hproduction]

theorem productionIndex?_eq (workspace : Workspace) (module : Nat) (name : String) :
    workspace.productionIndex? module name
      = (workspace.productions? module).bind (·.index? name) := by
  simp only [productionIndex?, productions?]
  cases workspace.modules[module]? <;> rfl

theorem SameScope.refl (workspace : Workspace) : workspace.SameScope workspace :=
  ⟨rfl, rfl, rfl, fun _ => rfl⟩

theorem SameScope.trans (h : before.SameScope between) (h' : between.SameScope after) :
    before.SameScope after :=
  ⟨h'.rules.trans h.rules, h'.moduleNames.trans h.moduleNames, h'.parsers.trans h.parsers,
    fun module => (h'.productions? module).trans (h.productions? module)⟩

theorem SameScope.isKeptByName (h : before.SameScope after) (keepable : Keepable) :
    after.isKeptByName keepable = before.isKeptByName keepable := by
  rw [Workspace.isKeptByName, h.rules, h.moduleNames, h.parsers, Workspace.isKeptByName]

theorem SameScope.isRoot (h : before.SameScope after) (held : List Grammar) (keepable : Keepable) :
    after.isRoot held keepable = before.isRoot held keepable := by
  rw [Workspace.isRoot, h.isKeptByName, Workspace.isRoot]

namespace Continues

theorem refl (workspace : Workspace) : workspace.Continues workspace where
  toSameScope := .refl workspace
  slots := rfl
  cacheSize? _ := rfl
  bodies := .refl workspace
  cells _ _ h := h
  contents _ _ _ h := h

theorem trans (h : before.Continues between) (h' : between.Continues after) :
    before.Continues after where
  toSameScope := h.toSameScope.trans h'.toSameScope
  slots := h'.slots.trans h.slots
  cacheSize? module := (h'.cacheSize? module).trans (h.cacheSize? module)
  bodies := h.bodies.trans h'.bodies
  cells place built hbuilt := h'.cells place built (h.cells place built hbuilt)
  contents module index built hbuilt :=
    h'.contents module index built (h.contents module index built hbuilt)

theorem definition? (h : before.Continues after) (module index : Nat) :
    after.definition? module index = before.definition? module index := by
  rw [definition?_eq, h.productions?, ← definition?_eq]

theorem pattern? (h : before.Continues after) (slot : Nat) :
    after.pattern? slot = before.pattern? slot := by
  rw [Workspace.pattern?, h.slots, Workspace.pattern?]

end Continues

/-! ### Changes -/

def openCells (bodies : List Grammar) (workspace : Workspace) : Workspace :=
  { workspace with cells := workspace.cells ++ (bodies.map fun body => ⟨body, none⟩).toArray }

@[simp] theorem openCells_nil (workspace : Workspace) : workspace.openCells [] = workspace := by
  simp [openCells]

theorem openCells_openCells (workspace : Workspace) (bodies bodies' : List Grammar) :
    (workspace.openCells bodies).openCells bodies' = workspace.openCells (bodies ++ bodies') := by
  simp [openCells, Array.append_assoc]

theorem openCell_eq (workspace : Workspace) (body : Grammar) :
    workspace.openCell body = workspace.openCells [body] := by
  simp [openCell, openCells]

theorem cellContent?_openCells (workspace : Workspace) (bodies : List Grammar) (place : Nat) :
    (workspace.openCells bodies).cellContent? place = workspace.cellContent? place := by
  simp only [cellContent?, openCells, Array.getElem?_append]
  split
  · rfl
  · rename_i hplace
    rw [Array.getElem?_eq_none (Nat.le_of_not_lt hplace)]
    simp only [List.getElem?_toArray, List.getElem?_map]
    cases bodies[place - workspace.cells.size]? <;> rfl

theorem lt_of_body? {place : Nat} {body : Grammar} (h : workspace.body? place = some body) :
    place < workspace.cells.size := by
  obtain ⟨cell, hcell, -⟩ := Option.map_eq_some_iff.1 h
  exact (Array.getElem?_eq_some_iff.1 hcell).1

theorem grows_openCells (workspace : Workspace) (bodies : List Grammar) :
    workspace.Grows (workspace.openCells bodies) := by
  intro place body hbody
  rw [← hbody]
  simp only [body?, openCells, Array.getElem?_append_left (lt_of_body? hbody)]

theorem continues_openCells (workspace : Workspace) (bodies : List Grammar) :
    workspace.Continues (workspace.openCells bodies) where
  toSameScope := ⟨rfl, rfl, rfl, fun _ => rfl⟩
  slots := rfl
  cacheSize? _ := rfl
  bodies := workspace.grows_openCells bodies
  cells place built h := by rwa [cellContent?_openCells]
  contents _ _ _ h := h

theorem continues_modifyJournal (workspace : Workspace) (change : Journal → Journal) :
    workspace.Continues (workspace.modifyJournal change) :=
  { Continues.refl workspace with }

theorem continues_fillCell {place : Nat} (built : Grammar)
    (hempty : workspace.cellContent? place = none) :
    workspace.Continues (workspace.fillCell place built) where
  toSameScope := ⟨rfl, rfl, rfl, fun _ => rfl⟩
  slots := rfl
  cacheSize? _ := rfl
  bodies := workspace.grows_fillCell place built
  cells place' built' h := by
    have hne : place ≠ place' := by
      rintro rfl
      rw [hempty] at h
      cases h
    rwa [cellContent?_fillCell_of_ne workspace built hne]
  contents _ _ _ h := h

theorem productions?_fillProduction (workspace : Workspace) (module index : Nat) (built : Grammar)
    (module' : Nat) : (workspace.fillProduction module index built).productions? module'
      = workspace.productions? module' := by
  simp only [productions?, fillProduction, Array.getElem?_modify]
  split
  · cases workspace.modules[module']? <;> rfl
  · rfl

theorem cacheSize?_fillProduction (workspace : Workspace) (module index : Nat) (built : Grammar)
    (module' : Nat) : (workspace.fillProduction module index built).cacheSize? module'
      = workspace.cacheSize? module' := by
  simp only [cacheSize?, fillProduction, Array.getElem?_modify]
  split
  · cases workspace.modules[module']? with
    | none => rfl
    | some found =>
        cases hcache : found.cache? <;> simp [Module.keepBuilt, hcache]
  · rfl

theorem continues_fillProduction {module index : Nat} (built : Grammar)
    (hempty : workspace.productionContent? module index = none) :
    workspace.Continues (workspace.fillProduction module index built) where
  toSameScope := ⟨rfl, rfl, rfl, workspace.productions?_fillProduction module index built⟩
  slots := rfl
  cacheSize? := workspace.cacheSize?_fillProduction module index built
  bodies := .refl workspace
  cells _ _ h := h
  contents module' index' built' h := by
    have hne : ¬(module = module' ∧ index = index') := by
      rintro ⟨rfl, rfl⟩
      rw [hempty] at h
      cases h
    rwa [productionContent?_fillProduction_of_ne workspace built hne]

theorem cacheSize?_isSome_of_productionContent? {module index : Nat} {built : Grammar}
    (h : workspace.productionContent? module index = some built) :
    (workspace.cacheSize? module).isSome := by
  obtain ⟨found, hfound, hbuilt⟩ := Option.bind_eq_some_iff.1 h
  obtain ⟨cache, hcache, -⟩ := Option.bind_eq_some_iff.1 hbuilt
  simp [Workspace.cacheSize?, hfound, hcache]

theorem productionContent?_fillProduction_of_lt {module index size : Nat} (built : Grammar)
    (hsize : workspace.cacheSize? module = some size) (hindex : index < size) :
    (workspace.fillProduction module index built).productionContent? module index
      = some built := by
  obtain ⟨found, hfound, hkept⟩ := Option.bind_eq_some_iff.1 hsize
  obtain ⟨cache, hcache, rfl⟩ := Option.map_eq_some_iff.1 hkept
  simp only [productionContent?, fillProduction, Array.getElem?_modify, if_pos, hfound,
    Option.map_some, Option.bind_some, Module.built?, Module.keepBuilt, hcache]
  simp [hindex]

end Workspace

end TokenGrammar
