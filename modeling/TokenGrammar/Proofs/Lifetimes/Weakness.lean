import TokenGrammar.Proofs.Links

/-!
# What is put off keeps nothing

Parts whose construction is put off hold names, and names keep nothing. The only links in them are
those that the names of siblings were replaced by, and these are references, which keep nothing
either. So what is built when such a part is reached keeps nothing but what its names are bound to
then.
-/

namespace TokenGrammar

def Link.isWeak (target : Link) : Bool := target.kept?.isNone

namespace Grammar

/-- Whether no link in a grammar keeps anything, wherever it stands. -/
abbrev isWeak (grammar : Grammar) : Bool := grammar.all (leads Link.isWeak)

/-- Whether no link keeps anything that stands in a part whose construction is put off. -/
def putsOffWeakly : Grammar → Bool
  | leaf _ | named _ | linked _ => true
  | unary _ part | traced _ part | shared _ part => part.putsOffWeakly
  | binary _ first second => first.putsOffWeakly && second.putsOffWeakly
  | bind part next => part.putsOffWeakly && next.all (leads Link.isWeak)
  | deferred part | deferredOnce part | siblingOr _ part => part.isWeak

theorem keeps_eq_nil_of_isWeak : ∀ grammar : Grammar, grammar.isWeak → grammar.keeps = []
  | .leaf _, _ | .deferred _, _ | .deferredOnce _, _ | .named _, _ | .siblingOr _ _, _ => rfl
  | .unary _ part, h | .traced _ part, h | .shared _ part, h =>
      part.keeps_eq_nil_of_isWeak (Bool.and_eq_true_iff.1 h).2
  | .binary _ first second, h => by
      obtain ⟨hfirst, hsecond⟩ := Bool.and_eq_true_iff.1 h
      rw [keeps, first.keeps_eq_nil_of_isWeak (Bool.and_eq_true_iff.1 hfirst).2,
        second.keeps_eq_nil_of_isWeak hsecond]
      rfl
  | .bind part _, h =>
      part.keeps_eq_nil_of_isWeak (Bool.and_eq_true_iff.1 (Bool.and_eq_true_iff.1 h).1).2
  | .linked target, h => by
      have hnone : target.kept? = none := Option.isNone_iff_eq_none.1 h
      rw [keeps, hnone]
      rfl

end Grammar

namespace Workspace

theorem isWeak_of_siblingsAt (workspace : Workspace) (home? : Option Nat) (name : String)
    (target : Link) (h : workspace.siblingsAt home? name = some target) : target.isWeak := by
  obtain ⟨home, _, hsibling⟩ := Option.bind_eq_some_iff.1 h
  obtain ⟨index, _, rfl⟩ := Option.map_eq_some_iff.1 hsibling
  rfl

/-- Whether nothing that is put off keeps anything, in all that a workspace holds. -/
structure PutsOffWeakly (workspace : Workspace) : Prop where
  patterns : ∀ {slot pattern}, workspace.pattern? slot = some pattern → pattern.putsOffWeakly
  bodies : ∀ {place : Nat} {cell : Cell}, workspace.cells[place]? = some cell → cell.body.isWeak
  cells : ∀ {place built}, workspace.cellContent? place = some built → built.putsOffWeakly
  contents : ∀ {place index built}, workspace.productionContent? place index = some built →
    built.putsOffWeakly
  definitions : ∀ {place index definition}, workspace.definition? place index = some definition →
    definition.isWeak
  parsers : ∀ {label found}, workspace.parsers.find? label = some found → found.putsOffWeakly

theorem putsOffWeakly_empty : PutsOffWeakly {} where
  patterns h := by simp [pattern?] at h
  bodies h := by simp at h
  cells h := by simp [cellContent?] at h
  contents h := by simp [productionContent?] at h
  definitions h := by simp [definition?] at h
  parsers h := by simp [Scope.find?] at h

namespace PutsOffWeakly

variable {workspace : Workspace} {grammar : Grammar}

theorem bound? (h : workspace.PutsOffWeakly) {home? : Option Nat} {name : Name}
    (hbound : workspace.bound? home? name = some grammar) : grammar.putsOffWeakly := by
  cases name with
  | rule label | handle label | sibling label =>
      obtain ⟨_, _, rfl⟩ := Option.map_eq_some_iff.1 hbound
      rfl
  | parser label => exact h.parsers hbound
  | production owner label =>
      obtain ⟨place, _, hbound⟩ := Option.bind_eq_some_iff.1 hbound
      obtain ⟨index, _, hbound⟩ := Option.bind_eq_some_iff.1 hbound
      cases hbound
      rfl

theorem modifyJournal (h : workspace.PutsOffWeakly) (change : Journal → Journal) :
    (workspace.modifyJournal change).PutsOffWeakly :=
  ⟨h.patterns, h.bodies, h.cells, h.contents, h.definitions, h.parsers⟩

theorem openCell (h : workspace.PutsOffWeakly) {body : Grammar} (hbody : body.isWeak) :
    (workspace.openCell body).PutsOffWeakly := by
  refine ⟨h.patterns, fun {place cell} hcell => ?_, fun {place built} hbuilt => ?_, h.contents,
    h.definitions, h.parsers⟩
  · simp only [Workspace.openCell, Array.getElem?_push] at hcell
    split at hcell
    · cases hcell
      exact hbody
    · exact h.bodies hcell
  · rw [cellContent?_openCell] at hbuilt
    exact h.cells hbuilt

theorem withParsers (h : workspace.PutsOffWeakly) {parsers : Scope Grammar}
    (hparsers : ∀ {label found}, parsers.find? label = some found → found.putsOffWeakly) :
    PutsOffWeakly { workspace with parsers } :=
  ⟨h.patterns, h.bodies, h.cells, h.contents, h.definitions, hparsers⟩

theorem storeParser (h : workspace.PutsOffWeakly) (label : String)
    (hgrammar : grammar.putsOffWeakly) : (workspace.storeParser label grammar).PutsOffWeakly := by
  refine h.withParsers fun {label' found} hfind => ?_
  obtain rfl | hfind := find?_of_storeParser hfind
  · exact hgrammar
  · exact h.parsers hfind

theorem fillSlot (h : workspace.PutsOffWeakly) (slot : Nat) (hgrammar : grammar.putsOffWeakly) :
    (workspace.fillSlot slot grammar).PutsOffWeakly := by
  refine ⟨fun {slot' pattern} hpattern => ?_, h.bodies, h.cells, h.contents, h.definitions,
    h.parsers⟩
  obtain rfl | hpattern := pattern?_of_fillSlot hpattern
  · exact hgrammar
  · exact h.patterns hpattern

theorem fillCell (h : workspace.PutsOffWeakly) (place : Nat) (hgrammar : grammar.putsOffWeakly) :
    (workspace.fillCell place grammar).PutsOffWeakly := by
  refine ⟨h.patterns, fun {place' cell} hcell => ?_, fun {place' built} hbuilt => ?_, h.contents,
    h.definitions, h.parsers⟩
  · simp only [Workspace.fillCell, Array.getElem?_modify] at hcell
    split at hcell
    · obtain ⟨former, hformer, rfl⟩ := Option.map_eq_some_iff.1 hcell
      have hbody := h.bodies hformer
      exact hbody
    · exact h.bodies hcell
  · obtain rfl | hbuilt := cellContent?_of_fillCell hbuilt
    · exact hgrammar
    · exact h.cells hbuilt

theorem fillProduction (h : workspace.PutsOffWeakly) (place index : Nat)
    (hgrammar : grammar.putsOffWeakly) :
    (workspace.fillProduction place index grammar).PutsOffWeakly := by
  refine ⟨h.patterns, h.bodies, h.cells, fun {place' index' built} hbuilt => ?_,
    fun {place' index' definition} hdefinition => ?_, h.parsers⟩
  · obtain rfl | hbuilt := productionContent?_of_fillProduction hbuilt
    · exact hgrammar
    · exact h.contents hbuilt
  · rw [definition?_fillProduction] at hdefinition
    exact h.definitions hdefinition

end PutsOffWeakly

end Workspace

end TokenGrammar
