import TokenGrammar.Proofs.Occurrences

/-!
# Switching caches

A part that is put off is built each time it is reached, or the first time only. Which of the two it
is can be switched for each part on its own. Of two grammars that differ in nothing else, one keeps
less than the other if it keeps a part only where the other keeps it too; the uncached version of a
grammar keeps least of all.
-/

namespace TokenGrammar

mutual

/-- The grammar in which every part that is put off is built each time it is reached. -/
def Grammar.uncached : Grammar → Grammar
  | .leaf matcher => .leaf matcher
  | .unary operator part => .unary operator part.uncached
  | .binary operator first second => .binary operator first.uncached second.uncached
  | .bind part next => .bind part.uncached next.uncached
  | .traced label part => .traced label part.uncached
  | .deferred part => .deferred part.uncached
  | .deferredOnce part => .deferred part.uncached
  | .named name => .named name
  | .siblingOr name otherwise => .siblingOr name otherwise.uncached
  | .shared name part => .shared name part.uncached
  | .linked target => .linked target

def Selector.uncached : Selector → Selector
  | .succeed => .succeed
  | .literal => .literal
  | .kind => .kind
  | .fail message => .fail message
  | .constant grammar => .constant grammar.uncached
  | .exactly part => .exactly part.uncached
  | .separatedExactly part separator => .separatedExactly part.uncached separator.uncached
  | .whenShown text grammar otherwise => .whenShown text grammar.uncached otherwise.uncached
  | .keep selector => .keep selector.uncached
  | .echo => .echo

end

/-- Whether a grammar neither is a link, which only building brings about, nor stores what it
builds under a name. -/
def Grammar.isUnshared : Grammar → Bool
  | .shared _ _ | .linked _ => false
  | _ => true

mutual

theorem Grammar.all_uncached :
    ∀ grammar : Grammar, grammar.uncached.all Grammar.isUnshared = grammar.all Grammar.isUnshared
  | .leaf _ | .named _ | .linked _ | .shared _ _ => rfl
  | .unary _ part | .traced _ part | .deferred part | .deferredOnce part => part.all_uncached
  | .siblingOr _ otherwise => otherwise.all_uncached
  | .binary _ first second => by
      simp only [Grammar.uncached, Grammar.all, Grammar.isUnshared, first.all_uncached,
        second.all_uncached]
  | .bind part next => by
      simp only [Grammar.uncached, Grammar.all, Grammar.isUnshared, part.all_uncached,
        next.all_uncached]

theorem Selector.all_uncached : ∀ selector : Selector,
    selector.uncached.all Grammar.isUnshared = selector.all Grammar.isUnshared
  | .succeed | .literal | .kind | .fail _ | .echo => rfl
  | .constant grammar => grammar.all_uncached
  | .exactly part => part.all_uncached
  | .separatedExactly part separator => by
      simp only [Selector.uncached, Selector.all, part.all_uncached, separator.all_uncached]
  | .whenShown _ grammar otherwise => by
      simp only [Selector.uncached, Selector.all, grammar.all_uncached, otherwise.all_uncached]
  | .keep selector => selector.all_uncached

end

/-- That the first grammar is the second one, except that it may build a part each time where the
second one keeps it. The links in them are those of anchored siblings. -/
inductive Grammar.LessCached : Grammar → Grammar → Prop where
  | leaf {matcher : Leaf} : LessCached (.leaf matcher) (.leaf matcher)
  | unary {operator : UnaryOperator} {part part' : Grammar} :
      LessCached part part' → LessCached (.unary operator part) (.unary operator part')
  | binary {operator : BinaryOperator} {first second first' second' : Grammar} :
      LessCached first first' → LessCached second second' →
      LessCached (.binary operator first second) (.binary operator first' second')
  | bind {part part' : Grammar} {next next' : Selector} :
      LessCached part part' → (∀ value, LessCached (next.select value) (next'.select value)) →
      LessCached (.bind part next) (.bind part' next')
  | traced {label : String} {part part' : Grammar} :
      LessCached part part' → LessCached (.traced label part) (.traced label part')
  | deferred {part part' : Grammar} :
      LessCached part part' → LessCached (.deferred part) (.deferred part')
  | switched {part part' : Grammar} :
      LessCached part part' → LessCached (.deferred part) (.deferredOnce part')
  | deferredOnce {part part' : Grammar} :
      LessCached part part' → LessCached (.deferredOnce part) (.deferredOnce part')
  | named {name : Name} : LessCached (.named name) (.named name)
  | siblingOr {name : String} {otherwise otherwise' : Grammar} :
      LessCached otherwise otherwise' →
      LessCached (.siblingOr name otherwise) (.siblingOr name otherwise')
  | reference {place index : Nat} :
      LessCached (.linked (.reference place index)) (.linked (.reference place index))

mutual

/-- The uncached version keeps less than any grammar that is written down. -/
theorem Grammar.uncached_lessCached :
    ∀ grammar : Grammar, grammar.all Grammar.isUnshared → grammar.uncached.LessCached grammar
  | .leaf _, _ => .leaf
  | .unary _ part, h => .unary (part.uncached_lessCached (Bool.and_eq_true_iff.1 h).2)
  | .binary _ first second, h => by
      obtain ⟨hfirst, hsecond⟩ := Bool.and_eq_true_iff.1 h
      exact .binary (first.uncached_lessCached (Bool.and_eq_true_iff.1 hfirst).2)
        (second.uncached_lessCached hsecond)
  | .bind part next, h => by
      obtain ⟨hpart, hnext⟩ := Bool.and_eq_true_iff.1 h
      exact .bind (part.uncached_lessCached (Bool.and_eq_true_iff.1 hpart).2) fun value =>
        next.uncached_lessCached value hnext
  | .traced _ part, h => .traced (part.uncached_lessCached (Bool.and_eq_true_iff.1 h).2)
  | .deferred part, h => .deferred (part.uncached_lessCached (Bool.and_eq_true_iff.1 h).2)
  | .deferredOnce part, h => .switched (part.uncached_lessCached (Bool.and_eq_true_iff.1 h).2)
  | .named _, _ => .named
  | .siblingOr _ otherwise, h =>
      .siblingOr (otherwise.uncached_lessCached (Bool.and_eq_true_iff.1 h).2)
  | .shared _ _, h | .linked _, h => nomatch Grammar.of_all h

theorem Selector.uncached_lessCached (value : Value) :
    ∀ selector : Selector, selector.all Grammar.isUnshared →
      (selector.uncached.select value).LessCached (selector.select value)
  | .succeed, _ | .literal, _ | .kind, _ | .fail _, _ => .leaf
  | .constant grammar, h => grammar.uncached_lessCached h
  | .exactly part, h => .unary (part.uncached_lessCached h)
  | .separatedExactly part separator, h => by
      obtain ⟨hpart, hseparator⟩ := Bool.and_eq_true_iff.1 h
      exact .binary (part.uncached_lessCached hpart) (separator.uncached_lessCached hseparator)
  | .whenShown text grammar otherwise, h => by
      obtain ⟨hgrammar, hotherwise⟩ := Bool.and_eq_true_iff.1 h
      rw [Selector.uncached, Selector.select, Selector.select]
      split
      · exact grammar.uncached_lessCached hgrammar
      · exact otherwise.uncached_lessCached value hotherwise
  | .keep selector, h => .unary (selector.uncached_lessCached value h)
  | .echo, _ =>
      Selector.echoing_induction (motive := fun grammar => grammar.LessCached grammar) .leaf
        (fun _ _ hrest => .binary .leaf hrest) _

end

theorem Workspace.exists_reference {workspace : Workspace} {home? : Option Nat} {name : String}
    {target : Link} (h : workspace.siblingsAt home? name = some target) :
    ∃ place index, target = .reference place index := by
  obtain ⟨home, -, hindex⟩ := Option.bind_eq_some_iff.1 h
  obtain ⟨index, -, rfl⟩ := Option.map_eq_some_iff.1 hindex
  exact ⟨home, index, rfl⟩

namespace Grammar.LessCached

variable {grammar grammar' : Grammar}

theorem self (h : grammar.LessCached grammar') : grammar'.LessCached grammar' := by
  induction h with
  | leaf => exact .leaf
  | unary _ ih => exact .unary ih
  | binary _ _ ihfirst ihsecond => exact .binary ihfirst ihsecond
  | bind _ _ ihpart ihnext => exact .bind ihpart ihnext
  | traced _ ih => exact .traced ih
  | deferred _ ih => exact .deferred ih
  | switched _ ih => exact .deferredOnce ih
  | deferredOnce _ ih => exact .deferredOnce ih
  | named => exact .named
  | siblingOr _ ih => exact .siblingOr ih
  | reference => exact .reference

/-- Anchoring siblings neither keeps parts nor builds them anew. -/
theorem anchor (h : grammar.LessCached grammar') (workspace : Workspace) (home? : Option Nat) :
    (grammar.anchor (workspace.siblingsAt home?)).LessCached
      (grammar'.anchor (workspace.siblingsAt home?)) := by
  have hsibling : ∀ {name target}, workspace.siblingsAt home? name = some target →
      Grammar.LessCached (.linked target) (.linked target) := by
    intro name target htarget
    obtain ⟨place, index, rfl⟩ := workspace.exists_reference htarget
    exact .reference
  induction h with
  | leaf => exact .leaf
  | unary _ ih => exact .unary ih
  | binary _ _ ihfirst ihsecond => exact .binary ihfirst ihsecond
  | bind _ _ ihpart ihnext =>
      refine .bind ihpart fun value => ?_
      rw [Selector.select_anchor, Selector.select_anchor]
      exact ihnext value
  | traced _ ih => exact .traced ih
  | deferred _ ih => exact .deferred ih
  | switched _ ih => exact .switched ih
  | deferredOnce _ ih => exact .deferredOnce ih
  | @named name =>
      cases name with
      | sibling name =>
          rw [Grammar.anchor]
          cases htarget : workspace.siblingsAt home? name with
          | none => exact .named
          | some target => exact hsibling htarget
      | _ => exact .named
  | @siblingOr name _ _ _ ih =>
      rw [Grammar.anchor, Grammar.anchor]
      cases htarget : workspace.siblingsAt home? name with
      | none => exact ih
      | some target => exact hsibling htarget
  | reference => exact .reference

end Grammar.LessCached

end TokenGrammar
