import Mathlib.Data.Finite.Prod
import Mathlib.Data.Fintype.Card
import Mathlib.Data.Set.Finite.Lattice
import Mathlib.Logic.Relation
import TokenGrammar.Proofs.Occurrences

/-!
# Left recursion

A grammar left-calls another one if parsing the first may enter the second before a token is read.
Whether a token must have been read is decided by the parts that may read nothing, the nullable
ones. Names and links are followed, so a rule that left-calls itself does so through any number of
others. A grammar without left recursion comprises no name and no link that left-calls itself.

There are only finitely many references in a workspace, and between two of them a grammar calls its
own parts, so without left recursion there is no infinite sequence of left calls.
-/

namespace TokenGrammar

/-! ### Which parts are entered, and which are left unread -/

namespace UnaryOperator

/-- Whether an operator may have a candidate that reads nothing, whatever its part reads. -/
def isNullable : UnaryOperator → Bool
  | optional | optionalGreedy | manyShortestFirst | manyLongestFirst | manyGreedy => true
  | exactly count => count == 0
  | recovered _ _ => true
  | mapped _ | spanned _ | grouped | relabelled _ => false

def entersPart : UnaryOperator → Bool
  | exactly count => count != 0
  | _ => true

end UnaryOperator

namespace BinaryOperator

def isChoice : BinaryOperator → Bool
  | either | orElse => true
  | _ => false

def endsAfterFirst : BinaryOperator → Bool
  | either | orElse | separated | separatedGreedy | folded _ | foldedGreedy _ => true
  | separatedExactly count => count == 1
  | seq | seqLeft | seqRight => false

def entersFirst : BinaryOperator → Bool
  | separatedExactly count => count != 0
  | _ => true

def entersSecond : BinaryOperator → Bool
  | separatedExactly count => decide (1 < count)
  | _ => true

end BinaryOperator

def Grammar.isReference : Grammar → Bool
  | named _ | linked _ => true
  | _ => false

namespace Workspace

/-- The grammars that may have a candidate which reads nothing. -/
inductive Nullable (workspace : Workspace) (root : Grammar) : Option Nat → Grammar → Prop where
  | nothing {home? : Option Nat} : Nullable workspace root home? (.leaf .nothing)
  | succeed {home? : Option Nat} {value : Value} :
      Nullable workspace root home? (.leaf (.succeed value))
  | operator {home? : Option Nat} {operator : UnaryOperator} {part : Grammar} :
      operator.isNullable → Nullable workspace root home? (.unary operator part)
  | part {home? : Option Nat} {operator : UnaryOperator} {part : Grammar} :
      Nullable workspace root home? part → Nullable workspace root home? (.unary operator part)
  | noParts {home? : Option Nat} {first second : Grammar} :
      Nullable workspace root home? (.binary (.separatedExactly 0) first second)
  | first {home? : Option Nat} {operator : BinaryOperator} {first second : Grammar} :
      operator.endsAfterFirst → Nullable workspace root home? first →
      Nullable workspace root home? (.binary operator first second)
  | second {home? : Option Nat} {operator : BinaryOperator} {first second : Grammar} :
      operator.isChoice → Nullable workspace root home? second →
      Nullable workspace root home? (.binary operator first second)
  | both {home? : Option Nat} {operator : BinaryOperator} {first second : Grammar} :
      Nullable workspace root home? first → Nullable workspace root home? second →
      Nullable workspace root home? (.binary operator first second)
  | bind {home? : Option Nat} {part : Grammar} {next : Selector} (value : Value) :
      Nullable workspace root home? part → Nullable workspace root home? (next.select value) →
      Nullable workspace root home? (.bind part next)
  | standing {home? home'? : Option Nat} {grammar grammar' : Grammar} :
      workspace.StandsFor root home? grammar home'? grammar' →
      Nullable workspace root home'? grammar' → Nullable workspace root home? grammar

/-- Which grammars, each with its home, may enter which others before a token is read. -/
inductive LeftCalls (workspace : Workspace) (root : Grammar) :
    Option Nat × Grammar → Option Nat × Grammar → Prop where
  | part {home? : Option Nat} {operator : UnaryOperator} {part : Grammar} :
      operator.entersPart → LeftCalls workspace root (home?, .unary operator part) (home?, part)
  | first {home? : Option Nat} {operator : BinaryOperator} {first second : Grammar} :
      operator.entersFirst →
      LeftCalls workspace root (home?, .binary operator first second) (home?, first)
  | second {home? : Option Nat} {operator : BinaryOperator} {first second : Grammar} :
      operator.entersSecond → operator.isChoice ∨ workspace.Nullable root home? first →
      LeftCalls workspace root (home?, .binary operator first second) (home?, second)
  | selecting {home? : Option Nat} {part : Grammar} {next : Selector} :
      LeftCalls workspace root (home?, .bind part next) (home?, part)
  | selected {home? : Option Nat} {part : Grammar} {next : Selector} (value : Value) :
      workspace.Nullable root home? part →
      LeftCalls workspace root (home?, .bind part next) (home?, next.select value)
  | standing {home? home'? : Option Nat} {grammar grammar' : Grammar} :
      workspace.StandsFor root home? grammar home'? grammar' →
      LeftCalls workspace root (home?, grammar) (home'?, grammar')

/-- That no reference left-calls itself, be it through others. -/
def NoLeftRecursion (workspace : Workspace) (root : Grammar) : Prop :=
  ∀ home? reference, workspace.Comprises root home? reference → reference.isReference →
    ¬ Relation.TransGen (workspace.LeftCalls root) (home?, reference) (home?, reference)

variable {workspace : Workspace} {root : Grammar}

theorem Comprises.leftCall {caller callee : Option Nat × Grammar}
    (h : workspace.Comprises root caller.1 caller.2)
    (hcall : workspace.LeftCalls root caller callee) :
    workspace.Comprises root callee.1 callee.2 := by
  cases hcall with
  | part => exact h.part
  | first => exact h.first
  | second => exact h.second
  | selecting => exact h.selecting
  | selected value => exact h.selected value
  | standing hstands => exact h.standsFor hstands

theorem Comprises.leftCalls {caller callee : Option Nat × Grammar}
    (h : workspace.Comprises root caller.1 caller.2)
    (hcalls : Relation.ReflTransGen (workspace.LeftCalls root) caller callee) :
    workspace.Comprises root callee.1 callee.2 := by
  induction hcalls with
  | refl => exact h
  | tail _ hcall ih => exact ih.leftCall hcall

theorem not_leftCalls_leaf {home? : Option Nat} {matcher : Leaf} {callee : Option Nat × Grammar} :
    ¬ workspace.LeftCalls root (home?, .leaf matcher) callee := by
  intro hcall
  cases hcall with
  | standing hstands => cases hstands with
    | unfolded hmeaning => cases hmeaning

theorem LeftCalls.of_unary {home? : Option Nat} {operator : UnaryOperator} {part : Grammar}
    {callee : Option Nat × Grammar}
    (h : workspace.LeftCalls root (home?, .unary operator part) callee) :
    callee = (home?, part) := by
  cases h with
  | part => rfl
  | standing hstands => cases hstands with
    | unfolded hmeaning => cases hmeaning

theorem LeftCalls.of_binary {home? : Option Nat} {operator : BinaryOperator}
    {first second : Grammar} {callee : Option Nat × Grammar}
    (h : workspace.LeftCalls root (home?, .binary operator first second) callee) :
    callee = (home?, first) ∨
      callee = (home?, second) ∧ (operator.isChoice ∨ workspace.Nullable root home? first) := by
  cases h with
  | first => exact .inl rfl
  | second _ hbefore => exact .inr ⟨rfl, hbefore⟩
  | standing hstands => cases hstands with
    | unfolded hmeaning => cases hmeaning

theorem LeftCalls.of_bind {home? : Option Nat} {part : Grammar} {next : Selector}
    {callee : Option Nat × Grammar} (h : workspace.LeftCalls root (home?, .bind part next) callee) :
    callee = (home?, part) ∨ ∃ value, callee = (home?, next.select value) := by
  cases h with
  | selecting => exact .inl rfl
  | selected value => exact .inr ⟨value, rfl⟩
  | standing hstands => cases hstands with
    | unfolded hmeaning => cases hmeaning

/-! ### Between two references -/

/-- That no infinite sequence of left calls begins with a grammar. -/
abbrev LeftCallsEnd (workspace : Workspace) (root : Grammar) : Option Nat × Grammar → Prop :=
  Acc fun callee caller => workspace.LeftCalls root caller callee

/-- That no infinite sequence of left calls begins with a reference to which left calls lead. -/
def ReferencesEnd (workspace : Workspace) (root : Grammar) (caller : Option Nat × Grammar) : Prop :=
  ∀ reference, Relation.ReflTransGen (workspace.LeftCalls root) caller reference →
    reference.2.isReference → workspace.LeftCallsEnd root reference

theorem ReferencesEnd.leftCall {caller callee : Option Nat × Grammar}
    (h : workspace.ReferencesEnd root caller) (hcall : workspace.LeftCalls root caller callee) :
    workspace.ReferencesEnd root callee :=
  fun reference hcalls => h reference (.head hcall hcalls)

end Workspace

section Structure

variable {workspace : Workspace} {root : Grammar}

theorem Workspace.leftCallsEnd_leaf (home? : Option Nat) (matcher : Leaf) :
    workspace.LeftCallsEnd root (home?, .leaf matcher) :=
  .intro _ fun _ hcall => (not_leftCalls_leaf hcall).elim

mutual

/-- Between two references a grammar calls its own parts, and what a selector selects is one of the
selector's parts, or made of leaves. -/
theorem Grammar.leftCallsEnd : ∀ (grammar : Grammar) {home? : Option Nat},
    workspace.ReferencesEnd root (home?, grammar) → workspace.LeftCallsEnd root (home?, grammar)
  | .leaf matcher, home?, _ => Workspace.leftCallsEnd_leaf home? matcher
  | .unary operator part, home?, h => by
      refine .intro _ fun callee hcall => ?_
      have hcallee := h.leftCall hcall
      obtain rfl := hcall.of_unary
      exact part.leftCallsEnd hcallee
  | .binary operator first second, home?, h => by
      refine .intro _ fun callee hcall => ?_
      have hcallee := h.leftCall hcall
      obtain rfl | ⟨rfl, _⟩ := hcall.of_binary
      · exact first.leftCallsEnd hcallee
      · exact second.leftCallsEnd hcallee
  | .bind part next, home?, h => by
      refine .intro _ fun callee hcall => ?_
      have hcallee := h.leftCall hcall
      obtain rfl | ⟨value, rfl⟩ := hcall.of_bind
      · exact part.leftCallsEnd hcallee
      · exact next.leftCallsEnd value hcallee
  | .traced label part, home?, h | .deferred part, home?, h | .deferredOnce part, home?, h
  | .shared label part, home?, h => by
      refine .intro _ fun callee hcall => ?_
      have hcallee := h.leftCall hcall
      cases hcall with
      | standing hstands => cases hstands with
        | unfolded hmeaning =>
            cases hmeaning
            exact part.leftCallsEnd hcallee
  | .siblingOr label otherwise, home?, h => by
      refine .intro _ fun callee hcall => ?_
      have hcallee := h.leftCall hcall
      cases hcall with
      | standing hstands => cases hstands with
        | unfolded hmeaning =>
            rw [Workspace.meaning?] at hmeaning
            split at hmeaning
            · cases hmeaning
              exact hcallee _ .refl rfl
            · cases hmeaning
              exact otherwise.leftCallsEnd hcallee
  | .named _, _, h | .linked _, _, h => h _ .refl rfl

theorem Selector.leftCallsEnd : ∀ (selector : Selector) (value : Value) {home? : Option Nat},
    workspace.ReferencesEnd root (home?, selector.select value) →
      workspace.LeftCallsEnd root (home?, selector.select value)
  | .succeed, _, _, _ | .literal, _, _, _ | .kind, _, _, _ | .fail _, _, _, _ =>
      Workspace.leftCallsEnd_leaf _ _
  | .constant grammar, value, home?, h => grammar.leftCallsEnd h
  | .exactly part, value, home?, h => by
      refine .intro _ fun callee hcall => ?_
      have hcallee := h.leftCall hcall
      rw [Selector.select] at hcall
      obtain rfl := hcall.of_unary
      exact part.leftCallsEnd hcallee
  | .separatedExactly part separator, value, home?, h => by
      refine .intro _ fun callee hcall => ?_
      have hcallee := h.leftCall hcall
      rw [Selector.select] at hcall
      obtain rfl | ⟨rfl, _⟩ := hcall.of_binary
      · exact part.leftCallsEnd hcallee
      · exact separator.leftCallsEnd hcallee
  | .whenShown text grammar otherwise, value, home?, h => by
      rw [Selector.select] at h ⊢
      split at h
      · rename_i hshown
        rw [if_pos hshown]
        exact grammar.leftCallsEnd h
      · rename_i hshown
        rw [if_neg hshown]
        exact otherwise.leftCallsEnd value h
  | .keep selector, value, home?, h => by
      refine .intro _ fun callee hcall => ?_
      have hcallee := h.leftCall hcall
      rw [Selector.select] at hcall
      obtain rfl := hcall.of_unary
      exact selector.leftCallsEnd value hcallee
  | .echo, value, home?, _ => by
      refine Selector.echoing_induction
        (motive := fun grammar => workspace.LeftCallsEnd root (home?, grammar))
        (Workspace.leftCallsEnd_leaf home? _) (fun text rest hrest => ?_) _
      refine .intro _ fun callee hcall => ?_
      obtain rfl | ⟨rfl, _⟩ := hcall.of_binary
      · exact Workspace.leftCallsEnd_leaf home? _
      · exact hrest

end

end Structure

/-! ### Finitely many references -/

section Finite

private theorem finite_of_lt {α : Type} {s : Nat → Set α} (bound : Nat)
    (hfinite : ∀ index, (s index).Finite) (hlt : ∀ index a, a ∈ s index → index < bound) :
    {a | ∃ index, a ∈ s index}.Finite := by
  refine ((Set.finite_lt_nat bound).biUnion fun index _ => hfinite index).subset ?_
  rintro a ⟨index, ha⟩
  exact Set.mem_biUnion (hlt index a ha) ha

private theorem finite_some {α : Type} (value? : Option α) : {a | value? = some a}.Finite :=
  Set.Subsingleton.finite fun _ ha _ hb => Option.some.inj (ha.symm.trans hb)

def Module.width (module : Module) : Nat :=
  max module.productions.length ((module.cache?.map Array.size).getD 0)

namespace Workspace

variable {workspace : Workspace} {root : Grammar}

def width (workspace : Workspace) (place : Nat) : Nat :=
  (workspace.modules[place]?.map Module.width).getD 0

theorem lt_of_pattern? {slot : Nat} {pattern : Grammar}
    (h : workspace.pattern? slot = some pattern) : slot < workspace.slots.size := by
  by_contra hle
  rw [pattern?, Array.getElem?_eq_none (Nat.not_lt.1 hle)] at h
  cases h

theorem lt_of_definition? {place index : Nat} {definition : Grammar}
    (h : workspace.definition? place index = some definition) :
    place < workspace.modules.size ∧ index < workspace.width place := by
  obtain ⟨module, hmodule, hproduction⟩ := Option.bind_eq_some_iff.1 h
  obtain ⟨production, hproduction, _⟩ := Option.bind_eq_some_iff.1 hproduction
  refine ⟨(Array.getElem?_eq_some_iff.1 hmodule).1, ?_⟩
  rw [width, hmodule]
  exact lt_max_of_lt_left (List.getElem?_eq_some_iff.1 hproduction).1

theorem lt_of_productionContent? {place index : Nat} {built : Grammar}
    (h : workspace.productionContent? place index = some built) :
    place < workspace.modules.size ∧ index < workspace.width place := by
  obtain ⟨module, hmodule, hbuilt⟩ := Option.bind_eq_some_iff.1 h
  obtain ⟨cache, hcache, hkept⟩ := Option.bind_eq_some_iff.1 hbuilt
  refine ⟨(Array.getElem?_eq_some_iff.1 hmodule).1, ?_⟩
  rw [width, hmodule]
  refine lt_max_of_lt_right ?_
  rw [hcache]
  by_contra hle
  rw [Array.getElem?_eq_none (Nat.not_lt.1 hle)] at hkept
  cases hkept

def contents (workspace : Workspace) : Set Grammar :=
  {pattern | ∃ slot, workspace.pattern? slot = some pattern} ∪
    {content | ∃ place : Nat, (workspace.cells[place]?.map fun cell => cell.built?.getD cell.body)
      = some content} ∪
    {built | ∃ place index, workspace.productionContent? place index = some built} ∪
    {definition | ∃ place index, workspace.definition? place index = some definition} ∪
    {grammar | ∃ binding ∈ workspace.parsers, binding.2 = grammar}

theorem finite_contents (workspace : Workspace) : workspace.contents.Finite := by
  have hproductions : ∀ f : Nat → Nat → Option Grammar,
      (∀ place index built, f place index = some built →
        place < workspace.modules.size ∧ index < workspace.width place) →
      {built | ∃ place index, f place index = some built}.Finite := fun f hlt =>
    finite_of_lt workspace.modules.size
      (fun place => finite_of_lt (workspace.width place) (fun index => finite_some _)
        fun index built hbuilt => (hlt place index built hbuilt).2)
      fun place built ⟨index, hbuilt⟩ => (hlt place index built hbuilt).1
  refine (((Set.Finite.union ?_ ?_).union ?_).union ?_).union ?_
  · refine finite_of_lt workspace.slots.size (fun slot => finite_some _) fun slot pattern h => ?_
    exact lt_of_pattern? h
  · refine finite_of_lt workspace.cells.size (fun place => finite_some _) fun place content h => ?_
    obtain ⟨cell, hcell, _⟩ := Option.map_eq_some_iff.1 h
    exact (Array.getElem?_eq_some_iff.1 hcell).1
  · exact hproductions _ fun place index built => lt_of_productionContent?
  · exact hproductions _ fun place index definition => lt_of_definition?
  · exact (List.finite_toSet workspace.parsers).image Prod.snd

theorem all_of_contents {p : Grammar → Bool}
    (h : ∀ grammar ∈ workspace.contents, grammar.all p) : workspace.All p where
  patterns hpattern := h _ (.inl (.inl (.inl (.inl ⟨_, hpattern⟩))))
  cells hcell := h _ (.inl (.inl (.inl (.inr ⟨_, by rw [hcell]; rfl⟩))))
  contents hbuilt := h _ (.inl (.inl (.inr ⟨_, _, hbuilt⟩)))
  definitions hdefinition := h _ (.inl (.inr ⟨_, _, hdefinition⟩))
  parsers hparser := by
    obtain ⟨binding, hfind, rfl⟩ := Option.map_eq_some_iff.1 hparser
    exact h _ (.inr ⟨binding, List.mem_of_find?_eq_some hfind, rfl⟩)

end Workspace

mutual

def Grammar.references : Grammar → List Grammar
  | .leaf _ => []
  | .unary _ part => part.references
  | .binary _ first second => first.references ++ second.references
  | .bind part next => part.references ++ next.references
  | .traced _ part => part.references
  | .deferred part => part.references
  | .deferredOnce part => part.references
  | .named name => [.named name]
  | .siblingOr _ otherwise => otherwise.references
  | .shared _ part => part.references
  | .linked target => [.linked target]

def Selector.references : Selector → List Grammar
  | .succeed | .literal | .kind | .fail _ | .echo => []
  | .constant grammar => grammar.references
  | .exactly part => part.references
  | .separatedExactly part separator => part.references ++ separator.references
  | .whenShown _ grammar otherwise => grammar.references ++ otherwise.references
  | .keep selector => selector.references

end

/-- Whether a grammar is a reference which only occurs where it was written: a name, or a link to a
cell. -/
def Grammar.isWritten : Grammar → Bool
  | named _ | linked (.cell _) => true
  | _ => false

attribute [local instance] Classical.propDecidable

private noncomputable def isWrittenIn (written : Set Grammar) (grammar : Grammar) : Bool :=
  decide (grammar.isWritten → grammar ∈ written)

private theorem isWrittenIn_of_not {written : Set Grammar} {grammar : Grammar}
    (h : grammar.isWritten = false) : isWrittenIn written grammar :=
  decide_eq_true fun hwritten => by
    rw [h] at hwritten
    cases hwritten

private theorem hereditary_isWrittenIn (written : Set Grammar) :
    Grammar.Hereditary (isWrittenIn written) := by
  refine ⟨⟨?_, ?_, ?_, ?_, ?_⟩, ?_, ?_, ?_, ?_⟩ <;> intros <;> exact isWrittenIn_of_not rfl

mutual

private theorem Grammar.all_isWrittenIn {written : Set Grammar} : ∀ grammar : Grammar,
    (∀ reference ∈ grammar.references, reference ∈ written) → grammar.all (isWrittenIn written)
  | .leaf _, _ => isWrittenIn_of_not rfl
  | .unary _ part, h | .traced _ part, h | .deferred part, h | .deferredOnce part, h
  | .siblingOr _ part, h | .shared _ part, h =>
      Bool.and_eq_true_iff.2 ⟨isWrittenIn_of_not rfl, part.all_isWrittenIn h⟩
  | .binary _ first second, h => by
      obtain ⟨hfirst, hsecond⟩ := List.forall_mem_append.1 h
      exact Bool.and_eq_true_iff.2 ⟨Bool.and_eq_true_iff.2
        ⟨isWrittenIn_of_not rfl, first.all_isWrittenIn hfirst⟩, second.all_isWrittenIn hsecond⟩
  | .bind part next, h => by
      obtain ⟨hpart, hnext⟩ := List.forall_mem_append.1 h
      exact Bool.and_eq_true_iff.2 ⟨Bool.and_eq_true_iff.2
        ⟨isWrittenIn_of_not rfl, part.all_isWrittenIn hpart⟩, next.all_isWrittenIn hnext⟩
  | .named _, h | .linked _, h => decide_eq_true fun _ => h _ List.mem_cons_self

private theorem Selector.all_isWrittenIn {written : Set Grammar} : ∀ selector : Selector,
    (∀ reference ∈ selector.references, reference ∈ written) → selector.all (isWrittenIn written)
  | .succeed, _ | .literal, _ | .kind, _ | .fail _, _ | .echo, _ => rfl
  | .constant grammar, h | .exactly grammar, h => grammar.all_isWrittenIn h
  | .separatedExactly part separator, h => by
      obtain ⟨hpart, hseparator⟩ := List.forall_mem_append.1 h
      exact Bool.and_eq_true_iff.2
        ⟨part.all_isWrittenIn hpart, separator.all_isWrittenIn hseparator⟩
  | .whenShown _ grammar otherwise, h => by
      obtain ⟨hgrammar, hotherwise⟩ := List.forall_mem_append.1 h
      exact Bool.and_eq_true_iff.2
        ⟨grammar.all_isWrittenIn hgrammar, otherwise.all_isWrittenIn hotherwise⟩
  | .keep selector, h => selector.all_isWrittenIn h

end

namespace Workspace

variable {workspace : Workspace} {root : Grammar}

/-- What a grammar comprises was written in it or in the workspace, if it was written at all. -/
theorem exists_finite_written (workspace : Workspace) (root : Grammar) :
    ∃ written : Set Grammar, written.Finite ∧ ∀ home? grammar,
      workspace.Comprises root home? grammar → grammar.isWritten → grammar ∈ written := by
  let written : Set Grammar :=
    ⋃ grammar ∈ insert root workspace.contents, {reference | reference ∈ grammar.references}
  have hreferences : ∀ grammar ∈ insert root workspace.contents,
      grammar.all (isWrittenIn written) := fun grammar hgrammar =>
    grammar.all_isWrittenIn fun reference hreference => Set.mem_biUnion hgrammar hreference
  refine ⟨written, ?_, fun home? grammar hcomprises hwritten => ?_⟩
  · exact (workspace.finite_contents.insert root).biUnion fun grammar _ =>
      List.finite_toSet grammar.references
  · have hworkspace : workspace.All (isWrittenIn written) :=
      all_of_contents fun grammar hgrammar =>
        hreferences grammar (Set.mem_insert_of_mem root hgrammar)
    have hall : grammar.all (isWrittenIn written) :=
      hcomprises.all (hereditary_isWrittenIn written) hworkspace
        (hreferences root (Set.mem_insert root _))
    exact of_decide_eq_true (Grammar.of_all hall) hwritten

theorem lt_of_isSome_target? {target : Link} (h : (workspace.target? target).isSome) :
    match target with
    | .rule slot | .handle slot => slot < workspace.slots.size
    | .cell place => place < workspace.cells.size
    | .production place index | .reference place index =>
        place < workspace.modules.size ∧ index < workspace.width place := by
  obtain ⟨node, hnode⟩ := Option.isSome_iff_exists.1 h
  cases target with
  | rule slot | handle slot =>
      obtain ⟨pattern, hpattern, _⟩ := Option.map_eq_some_iff.1 hnode
      exact lt_of_pattern? hpattern
  | cell place =>
      obtain ⟨cell, hcell, _⟩ := Option.map_eq_some_iff.1 hnode
      exact (Array.getElem?_eq_some_iff.1 hcell).1
  | production place index | reference place index =>
      rw [target?] at hnode
      split at hnode
      · rename_i hbuilt
        exact lt_of_productionContent? hbuilt
      · obtain ⟨definition, hdefinition, _⟩ := Option.map_eq_some_iff.1 hnode
        exact lt_of_definition? hdefinition

/-- Only finitely many links lead anywhere. -/
theorem finite_targets (workspace : Workspace) :
    {grammar : Grammar | ∃ target, grammar = .linked target ∧
      (workspace.target? target).isSome}.Finite := by
  have hslots (link : Nat → Link) :=
    (Set.finite_lt_nat workspace.slots.size).image fun slot => Grammar.linked (link slot)
  have hcells :=
    (Set.finite_lt_nat workspace.cells.size).image fun place => Grammar.linked (.cell place)
  have hproductions (link : Nat → Nat → Link) :=
    (Set.finite_lt_nat workspace.modules.size).biUnion fun place _ =>
      (Set.finite_lt_nat (workspace.width place)).image fun index =>
        Grammar.linked (link place index)
  refine (((((hslots .rule).union (hslots .handle)).union hcells).union
    (hproductions .production)).union (hproductions .reference)).subset ?_
  rintro _ ⟨target, rfl, htarget⟩
  have hlt := lt_of_isSome_target? htarget
  cases target with
  | rule slot => exact .inl (.inl (.inl (.inl ⟨slot, hlt, rfl⟩)))
  | handle slot => exact .inl (.inl (.inl (.inr ⟨slot, hlt, rfl⟩)))
  | cell place => exact .inl (.inl (.inr ⟨place, hlt, rfl⟩))
  | production place index => exact .inl (.inr (Set.mem_biUnion hlt.1 ⟨index, hlt.2, rfl⟩))
  | reference place index => exact .inr (Set.mem_biUnion hlt.1 ⟨index, hlt.2, rfl⟩)

theorem Comprises.home_lt {home? : Option Nat} {grammar : Grammar}
    (h : workspace.Comprises root home? grammar) :
    ∀ home, home? = some home → home < workspace.modules.size := by
  induction h with
  | root => exact fun home hhome => nomatch hhome
  | part _ ih | first _ ih | second _ ih | selecting _ ih | selected _ _ ih => exact ih
  | @unfolded home? home'? grammar grammar' _ hmeaning ih =>
      intro home hhome
      subst hhome
      cases grammar with
      | leaf | unary | binary | bind => cases hmeaning
      | traced | deferred | deferredOnce | shared =>
          cases hmeaning
          exact ih home rfl
      | named name =>
          obtain ⟨_, _, heq⟩ := Option.map_eq_some_iff.1 hmeaning
          cases heq
      | siblingOr name otherwise =>
          rw [meaning?] at hmeaning
          split at hmeaning
          · cases hmeaning
          · cases hmeaning
            exact ih home rfl
      | linked target =>
          cases target with
          | rule | handle | cell =>
              obtain ⟨_, _, heq⟩ := Option.map_eq_some_iff.1 hmeaning
              cases heq
          | production place index | reference place index =>
              rw [meaning?, target?] at hmeaning
              split at hmeaning
              · cases hmeaning
              · obtain ⟨definition, hdefinition, heq⟩ := Option.map_eq_some_iff.1 hmeaning
                cases heq
                exact (lt_of_definition? hdefinition).1

def callers (workspace : Workspace) (root : Grammar) : Set (Option Nat × Grammar) :=
  {node | workspace.Comprises root node.1 node.2 ∧ node.2.isReference ∧
    ∃ callee, workspace.LeftCalls root node callee}

theorem finite_callers (workspace : Workspace) (root : Grammar) :
    (workspace.callers root).Finite := by
  obtain ⟨written, hfinite, hwritten⟩ := workspace.exists_finite_written root
  have hhomes : (insert none (some '' {place | place < workspace.modules.size})).Finite :=
    ((Set.finite_lt_nat workspace.modules.size).image some).insert none
  refine (hhomes.prod (hfinite.union workspace.finite_targets)).subset ?_
  rintro ⟨home?, grammar⟩ ⟨hcomprises, hreference, callee, hcall⟩
  constructor
  · cases home? with
    | none => exact Set.mem_insert none _
    | some home => exact .inr ⟨home, hcomprises.home_lt home rfl, rfl⟩
  · by_cases hgrammar : grammar.isWritten
    · exact .inl (hwritten home? grammar hcomprises hgrammar)
    · cases grammar with
      | linked target =>
          refine .inr ⟨target, rfl, ?_⟩
          cases hcall with
          | standing hstands =>
              cases hstands with
              | unfolded hmeaning => exact Option.isSome_iff_exists.2 ⟨_, hmeaning⟩
              | opened => exact absurd rfl hgrammar
      | named => exact absurd rfl hgrammar
      | _ => cases hreference

/-- **Without left recursion no infinite sequence of left calls** begins with what a root
comprises. -/
theorem NoLeftRecursion.leftCallsEnd (h : workspace.NoLeftRecursion root)
    {caller : Option Nat × Grammar} (hcaller : workspace.Comprises root caller.1 caller.2) :
    workspace.LeftCallsEnd root caller := by
  have : Finite (workspace.callers root) := workspace.finite_callers root
  -- left calls through any number of parts, from one of finitely many references to another
  let calls : workspace.callers root → workspace.callers root → Prop := fun callee caller =>
    Relation.TransGen (workspace.LeftCalls root) caller.1 callee.1
  have : IsTrans (workspace.callers root) calls := ⟨fun _ _ _ h h' => h'.trans h⟩
  have : Std.Irrefl calls := ⟨fun caller => h _ _ caller.2.1 caller.2.2.1⟩
  have hcalls : WellFounded calls := Finite.wellFounded_of_trans_of_irrefl calls
  have hreferences : ∀ reference : workspace.callers root,
      workspace.LeftCallsEnd root reference.1 := fun reference => by
    induction reference using hcalls.induction with
    | _ reference ih =>
        refine .intro _ fun callee hcall => Grammar.leftCallsEnd callee.2 ?_
        intro later hlater hreference
        by_cases hmore : ∃ callee, workspace.LeftCalls root later callee
        · have hcomprises := (reference.2.1.leftCall hcall).leftCalls hlater
          exact ih ⟨later, hcomprises, hreference, hmore⟩ (.head' hcall hlater)
        · exact .intro _ fun callee hcall => absurd ⟨callee, hcall⟩ hmore
  refine Grammar.leftCallsEnd caller.2 fun reference hcalls hreference => ?_
  by_cases hmore : ∃ callee, workspace.LeftCalls root reference callee
  · exact hreferences ⟨reference, hcaller.leftCalls hcalls, hreference, hmore⟩
  · exact .intro _ fun callee hcall => absurd ⟨callee, hcall⟩ hmore

end Workspace

end Finite

end TokenGrammar
