import TokenGrammar.Proofs.Unfolding

/-!
# What occurs in a grammar

What a grammar comprises depends on every value that its selectors may meet, and on what names and
links lead to. That all of it satisfies a condition can be told by looking at the grammar and at the
workspace, if the condition holds of the grammars that only selecting and looking up bring about.
-/

namespace TokenGrammar

mutual

/-- Whether a condition holds of every grammar that occurs in a grammar or in its selectors. -/
def Grammar.all (p : Grammar → Bool) : Grammar → Bool
  | .leaf matcher => p (.leaf matcher)
  | .unary operator part => p (.unary operator part) && part.all p
  | .binary operator first second =>
      p (.binary operator first second) && first.all p && second.all p
  | .bind part next => p (.bind part next) && part.all p && next.all p
  | .traced label part => p (.traced label part) && part.all p
  | .deferred part => p (.deferred part) && part.all p
  | .deferredOnce part => p (.deferredOnce part) && part.all p
  | .named name => p (.named name)
  | .siblingOr name otherwise => p (.siblingOr name otherwise) && otherwise.all p
  | .shared name part => p (.shared name part) && part.all p
  | .linked target => p (.linked target)

def Selector.all (p : Grammar → Bool) : Selector → Bool
  | .succeed | .literal | .kind | .fail _ | .echo => true
  | .constant grammar => grammar.all p
  | .exactly part => part.all p
  | .separatedExactly part separator => part.all p && separator.all p
  | .whenShown _ grammar otherwise => grammar.all p && otherwise.all p
  | .keep selector => selector.all p

end

mutual

theorem Grammar.all_imp {p q : Grammar → Bool} (himp : ∀ grammar, p grammar → q grammar) :
    ∀ grammar : Grammar, grammar.all p → grammar.all q
  | .leaf _, h | .named _, h | .linked _, h => himp _ h
  | .unary _ part, h | .traced _ part, h | .deferred part, h | .deferredOnce part, h
  | .siblingOr _ part, h | .shared _ part, h => by
      obtain ⟨hself, hpart⟩ := Bool.and_eq_true_iff.1 h
      exact Bool.and_eq_true_iff.2 ⟨himp _ hself, part.all_imp himp hpart⟩
  | .binary _ first second, h => by
      obtain ⟨hfirst, hsecond⟩ := Bool.and_eq_true_iff.1 h
      obtain ⟨hself, hfirst⟩ := Bool.and_eq_true_iff.1 hfirst
      exact Bool.and_eq_true_iff.2 ⟨Bool.and_eq_true_iff.2
        ⟨himp _ hself, first.all_imp himp hfirst⟩, second.all_imp himp hsecond⟩
  | .bind part next, h => by
      obtain ⟨hpart, hnext⟩ := Bool.and_eq_true_iff.1 h
      obtain ⟨hself, hpart⟩ := Bool.and_eq_true_iff.1 hpart
      exact Bool.and_eq_true_iff.2 ⟨Bool.and_eq_true_iff.2
        ⟨himp _ hself, part.all_imp himp hpart⟩, next.all_imp himp hnext⟩

theorem Selector.all_imp {p q : Grammar → Bool} (himp : ∀ grammar, p grammar → q grammar) :
    ∀ selector : Selector, selector.all p → selector.all q
  | .succeed, _ | .literal, _ | .kind, _ | .fail _, _ | .echo, _ => rfl
  | .constant grammar, h => grammar.all_imp himp h
  | .exactly part, h => part.all_imp himp h
  | .separatedExactly part separator, h => by
      obtain ⟨hpart, hseparator⟩ := Bool.and_eq_true_iff.1 h
      exact Bool.and_eq_true_iff.2 ⟨part.all_imp himp hpart, separator.all_imp himp hseparator⟩
  | .whenShown _ grammar otherwise, h => by
      obtain ⟨hgrammar, hotherwise⟩ := Bool.and_eq_true_iff.1 h
      exact Bool.and_eq_true_iff.2
        ⟨grammar.all_imp himp hgrammar, otherwise.all_imp himp hotherwise⟩
  | .keep selector, h => selector.all_imp himp h

end

/-- A condition that holds of all grammars which selectors build. -/
structure Grammar.Selected (p : Grammar → Bool) : Prop where
  leaf : ∀ matcher, p (.leaf matcher)
  pairedAfter : ∀ value part, p (.unary (.mapped (.pairedAfter value)) part)
  exactly : ∀ count part, p (.unary (.exactly count) part)
  separatedExactly : ∀ count part separator, p (.binary (.separatedExactly count) part separator)
  seqRight : ∀ first second, p (.binary .seqRight first second)

/-- A condition that holds of the links that the names of a workspace stand for. -/
structure Workspace.Binds (p : Grammar → Bool) (workspace : Workspace) : Prop where
  rule : ∀ {label slot}, workspace.rules.find? label = some slot → p (.linked (.rule slot))
  handle : ∀ {label slot}, workspace.rules.find? label = some slot → p (.linked (.handle slot))
  production : ∀ {place label index}, workspace.productionIndex? place label = some index →
    p (.linked (.production place index))
  reference : ∀ {place label index}, workspace.productionIndex? place label = some index →
    p (.linked (.reference place index))

/-- A condition that holds of all grammars which are not written down anywhere: those that selectors
build, and the links that names stand for. -/
structure Grammar.Hereditary (p : Grammar → Bool) : Prop extends Grammar.Selected p where
  rule : ∀ slot, p (.linked (.rule slot))
  handle : ∀ slot, p (.linked (.handle slot))
  production : ∀ place index, p (.linked (.production place index))
  reference : ∀ place index, p (.linked (.reference place index))

theorem Grammar.Hereditary.binds {p : Grammar → Bool} (h : Grammar.Hereditary p)
    (workspace : Workspace) : workspace.Binds p :=
  ⟨fun _ => h.rule _, fun _ => h.handle _, fun _ => h.production _ _, fun _ => h.reference _ _⟩

/-- Whether a condition holds of every grammar that occurs in one to which a workspace leads. -/
structure Workspace.All (p : Grammar → Bool) (workspace : Workspace) : Prop where
  patterns : ∀ {slot pattern}, workspace.pattern? slot = some pattern → pattern.all p
  cells : ∀ {place : Nat} {cell : Cell}, workspace.cells[place]? = some cell →
    (cell.built?.getD cell.body).all p
  contents : ∀ {module index built}, workspace.productionContent? module index = some built →
    built.all p
  definitions : ∀ {module index definition}, workspace.definition? module index = some definition →
    definition.all p
  parsers : ∀ {label grammar}, workspace.parsers.find? label = some grammar → grammar.all p

section

variable {p : Grammar → Bool}

theorem Selector.all_select (hp : Grammar.Selected p) (value : Value) : ∀ {selector : Selector},
    selector.all p → (selector.select value).all p
  | .succeed, _ | .literal, _ | .kind, _ | .fail _, _ => hp.leaf _
  | .constant _, h => h
  | .exactly part, h => by
      rw [Selector.select, Grammar.all, hp.exactly]
      exact h
  | .separatedExactly part separator, h => by
      rw [Selector.select, Grammar.all, hp.separatedExactly]
      exact h
  | .whenShown text grammar otherwise, h => by
      obtain ⟨hgrammar, hotherwise⟩ := Bool.and_eq_true_iff.1 h
      rw [Selector.select]
      split
      · exact hgrammar
      · exact Selector.all_select hp value hotherwise
  | .keep selector, h => by
      rw [Selector.select, Grammar.all, hp.pairedAfter]
      exact Selector.all_select hp value h
  | .echo, _ => by
      refine Selector.echoing_induction (motive := fun grammar => grammar.all p) (hp.leaf _)
        (fun text rest hrest => ?_) _
      rw [Grammar.all, Grammar.all, hp.seqRight, hp.leaf, hrest]
      rfl

namespace Workspace

variable {workspace : Workspace} {root : Grammar}

theorem siblingsAt_all (hbinds : workspace.Binds p) {home? : Option Nat} {label : String}
    {target : Link} (h : workspace.siblingsAt home? label = some target) :
    (Grammar.linked target).all p := by
  obtain ⟨home, _, hsibling⟩ := Option.bind_eq_some_iff.1 h
  obtain ⟨index, hindex, rfl⟩ := Option.map_eq_some_iff.1 hsibling
  exact hbinds.reference hindex

theorem meaning?_all (hbinds : workspace.Binds p) (hworkspace : workspace.All p)
    {home? home'? : Option Nat} {grammar grammar' : Grammar} (h : grammar.all p)
    (hunfold : workspace.meaning? home? grammar = some (home'?, grammar')) : grammar'.all p := by
  cases grammar with
  | leaf | unary | binary | bind => cases hunfold
  | traced _ part | deferred part | deferredOnce part | shared _ part =>
      cases hunfold
      exact (Bool.and_eq_true_iff.1 h).2
  | siblingOr label otherwise =>
      rw [meaning?] at hunfold
      split at hunfold
      · rename_i target hsibling
        cases hunfold
        exact siblingsAt_all hbinds hsibling
      · cases hunfold
        exact (Bool.and_eq_true_iff.1 h).2
  | named name =>
      obtain ⟨_, hbound, heq⟩ := Option.map_eq_some_iff.1 hunfold
      cases heq
      cases name with
      | rule label =>
          obtain ⟨slot, hslot, rfl⟩ := Option.map_eq_some_iff.1 hbound
          exact hbinds.rule hslot
      | handle label =>
          obtain ⟨slot, hslot, rfl⟩ := Option.map_eq_some_iff.1 hbound
          exact hbinds.handle hslot
      | parser label => exact hworkspace.parsers hbound
      | production owner label =>
          obtain ⟨place, _, hbound⟩ := Option.bind_eq_some_iff.1 hbound
          obtain ⟨index, hindex, hbound⟩ := Option.bind_eq_some_iff.1 hbound
          cases hbound
          exact hbinds.production hindex
      | sibling label =>
          obtain ⟨target, hsibling, rfl⟩ := Option.map_eq_some_iff.1 hbound
          exact siblingsAt_all hbinds hsibling
  | linked target =>
      cases target with
      | rule slot | handle slot =>
          obtain ⟨pattern, hpattern, heq⟩ := Option.map_eq_some_iff.1 hunfold
          cases heq
          exact hworkspace.patterns hpattern
      | cell place =>
          obtain ⟨cell, hcell, heq⟩ := Option.map_eq_some_iff.1 hunfold
          cases heq
          exact hworkspace.cells hcell
      | production place index | reference place index =>
          rw [meaning?, target?] at hunfold
          split at hunfold
          · rename_i hcontent
            cases hunfold
            exact hworkspace.contents hcontent
          · obtain ⟨definition, hdefinition, heq⟩ := Option.map_eq_some_iff.1 hunfold
            cases heq
            exact hworkspace.definitions hdefinition

/-- **What occurs in a grammar and in the workspace decides over all that the grammar
comprises.** -/
theorem Comprises.all_of_binds (hp : Grammar.Selected p) (hbinds : workspace.Binds p)
    (hworkspace : workspace.All p) (hroot : root.all p) {home? : Option Nat} {grammar : Grammar}
    (h : workspace.Comprises root home? grammar) : grammar.all p := by
  induction h with
  | root => exact hroot
  | part _ ih => exact (Bool.and_eq_true_iff.1 ih).2
  | first _ ih => exact (Bool.and_eq_true_iff.1 (Bool.and_eq_true_iff.1 ih).1).2
  | second _ ih => exact (Bool.and_eq_true_iff.1 ih).2
  | selecting _ ih => exact (Bool.and_eq_true_iff.1 (Bool.and_eq_true_iff.1 ih).1).2
  | selected value _ ih => exact Selector.all_select hp value (Bool.and_eq_true_iff.1 ih).2
  | unfolded _ hunfold ih => exact meaning?_all hbinds hworkspace ih hunfold

theorem Comprises.all (hp : Grammar.Hereditary p) (hworkspace : workspace.All p)
    (hroot : root.all p) {home? : Option Nat} {grammar : Grammar}
    (h : workspace.Comprises root home? grammar) : grammar.all p :=
  h.all_of_binds hp.toSelected (hp.binds workspace) hworkspace hroot

end Workspace

end

theorem Grammar.of_all {p : Grammar → Bool} {grammar : Grammar} (h : grammar.all p) :
    p grammar := by
  cases grammar <;> simp_all [Grammar.all]

theorem Workspace.all_of_slot {p : Grammar → Bool} {pattern : Grammar} (h : pattern.all p) :
    Workspace.All p { slots := #[some pattern] } where
  patterns := by
    intro slot found hpattern
    cases slot with
    | zero =>
        cases hpattern
        exact h
    | succ slot => simp [pattern?] at hpattern
  cells h := by simp at h
  contents h := by simp [productionContent?] at h
  definitions h := by simp [definition?] at h
  parsers h := by simp [Scope.find?] at h

end TokenGrammar
