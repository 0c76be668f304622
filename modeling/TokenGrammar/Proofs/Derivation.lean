import TokenGrammar.Proofs.Leaves
import TokenGrammar.Proofs.Readings
import TokenGrammar.Proofs.Unfolding

/-!
# Derivations

When a grammar derives a value from one cursor to another, said without any parser. The relation
covers the exhaustive operators. A derivation has a tree, which records what was chosen: the branch
of a choice, whether an optional part is there, and where a repetition ends. Two derivations of one
grammar from one cursor are the same if they have the same tree. Names, links and parts that are put
off derive what they stand for, and leave no trace in the tree.

The step of a repetition has to end elsewhere than it began, unless the number of steps is given.
Lists with separators and folds from the left derive what their rest does, a repetition in turn.
-/

namespace TokenGrammar

/-- What tells the derivations of a grammar apart. -/
inductive Tree where
  | leaf
  | both (first second : Tree)
  | left (branch : Tree)
  | right (branch : Tree)
deriving DecidableEq, Repr

def Tree.ofOption : Option Tree → Tree
  | none => .leaf
  | some tree => .left tree

def Tree.ofSteps (trees : List Tree) : Tree := trees.foldr .both .leaf

/-- The repetitions of any number of steps, in whatever order they list them. -/
def UnaryOperator.isMany : UnaryOperator → Bool
  | .manyShortestFirst | .manyLongestFirst => true
  | _ => false

/-- The operators that read both parts, and what becomes of the two values. -/
def BinaryOperator.join? : BinaryOperator → Option (Value × Value → Value)
  | .seq => some .ofPair
  | .seqLeft => some Prod.fst
  | .seqRight => some Prod.snd
  | _ => none

/-- The operators that read their first part and then a repetition, which repetition that is, and
what becomes of the values. -/
def BinaryOperator.headed? (first second : Grammar) :
    BinaryOperator → Option (Grammar × (Value × List Value → Value))
  | .separated =>
      some (.unary .manyLongestFirst (.binary .seqRight second first), fun (value, values) =>
        .list (value :: values))
  | .separatedExactly (count + 1) =>
      some (.unary (.exactly count) (.binary .seqRight second first), fun (value, values) =>
        .list (value :: values))
  | .folded fold =>
      some (.unary .manyLongestFirst second, fun (value, values) => values.foldl fold.apply value)
  | _ => none

theorem BinaryOperator.headed?_of_join? {operator : BinaryOperator} {first second : Grammar}
    {f : Value × Value → Value} (hjoin : operator.join? = some f) :
    operator.headed? first second = none := by
  cases operator <;> first | rfl | cases hjoin

/-- The derivations of the grammars in a workspace: the home of a grammar, the grammar, the cursor
where the derivation begins, its tree, its value, and the cursor where it ends. -/
inductive Workspace.Derives (workspace : Workspace) (chain : Chain) :
    Option Nat → Grammar → Readings Tree Value where
  | leaf {home? : Option Nat} {matcher : Leaf} {start stop : Cursor} {value : Value}
      (hmatch : Leaf.Matches chain start matcher stop value) :
      Derives workspace chain home? (.leaf matcher) start .leaf value stop
  | mapped {home? : Option Nat} {part : Grammar} {start stop : Cursor} {tree : Tree} {value : Value}
      {transform : Transform} (hpart : Derives workspace chain home? part start tree value stop) :
      Derives workspace chain home? (.unary (.mapped transform) part) start tree
        (transform.apply value) stop
  | spanned {home? : Option Nat} {part : Grammar} {start stop : Cursor} {tree : Tree}
      {value : Value}
      {view : SpanView} (hpart : Derives workspace chain home? part start tree value stop) :
      Derives workspace chain home? (.unary (.spanned view) part) start tree
        (view.apply chain start stop value) stop
  | relabelled {home? : Option Nat} {part : Grammar} {start stop : Cursor} {tree : Tree}
      {value : Value} {message : String}
      (hpart : Derives workspace chain home? part start tree value stop) :
      Derives workspace chain home? (.unary (.relabelled message) part) start tree value stop
  | present {home? : Option Nat} {part : Grammar} {start stop : Cursor} {tree : Tree}
      {value : Value}
      (hpart : Derives workspace chain home? part start tree value stop) :
      Derives workspace chain home? (.unary .optional part) start (.left tree) (.present value) stop
  | absent {home? : Option Nat} {part : Grammar} {start : Cursor} :
      Derives workspace chain home? (.unary .optional part) start .leaf .absent start
  | done {home? : Option Nat} {operator : UnaryOperator} {part : Grammar} {start : Cursor}
      (hmany : operator.isMany) :
      Derives workspace chain home? (.unary operator part) start .leaf (.list []) start
  | step {home? : Option Nat} {operator : UnaryOperator} {part : Grammar}
      {start between stop : Cursor} {tree trees : Tree} {value : Value} {values : List Value}
      (hmany : operator.isMany)
      (hfirst : Derives workspace chain home? part start tree value between)
      (hmoving : between ≠ start)
      (hrest : Derives workspace chain home? (.unary operator part) between trees
        (.list values) stop) :
      Derives workspace chain home? (.unary operator part) start (.both tree trees)
        (.list (value :: values)) stop
  | exactlyDone {home? : Option Nat} {part : Grammar} {start : Cursor} :
      Derives workspace chain home? (.unary (.exactly 0) part) start .leaf (.list []) start
  | exactlyStep {home? : Option Nat} {count : Nat} {part : Grammar} {start between stop : Cursor}
      {tree trees : Tree} {value : Value} {values : List Value}
      (hfirst : Derives workspace chain home? part start tree value between)
      (hrest : Derives workspace chain home? (.unary (.exactly count) part) between trees
        (.list values) stop) :
      Derives workspace chain home? (.unary (.exactly (count + 1)) part) start (.both tree trees)
        (.list (value :: values)) stop
  | joined {home? : Option Nat} {operator : BinaryOperator} {first second : Grammar}
      {start between stop : Cursor} {tree tree' : Tree} {value value' : Value}
      {f : Value × Value → Value} (hjoin : operator.join? = some f)
      (hfirst : Derives workspace chain home? first start tree value between)
      (hsecond : Derives workspace chain home? second between tree' value' stop) :
      Derives workspace chain home? (.binary operator first second) start (.both tree tree')
        (f (value, value')) stop
  | left {home? : Option Nat} {first second : Grammar} {start stop : Cursor} {tree : Tree}
      {value : Value} (hfirst : Derives workspace chain home? first start tree value stop) :
      Derives workspace chain home? (.binary .either first second) start (.left tree) value stop
  | right {home? : Option Nat} {first second : Grammar} {start stop : Cursor} {tree : Tree}
      {value : Value} (hsecond : Derives workspace chain home? second start tree value stop) :
      Derives workspace chain home? (.binary .either first second) start (.right tree) value stop
  | separatedNone {home? : Option Nat} {part separator : Grammar} {start : Cursor} :
      Derives workspace chain home? (.binary (.separatedExactly 0) part separator) start .leaf
        (.list []) start
  | headed {home? : Option Nat} {operator : BinaryOperator} {first second rest : Grammar}
      {start between stop : Cursor} {tree trees : Tree} {value : Value} {values : List Value}
      {f : Value × List Value → Value} (hhead : operator.headed? first second = some (rest, f))
      (hfirst : Derives workspace chain home? first start tree value between)
      (hrest : Derives workspace chain home? rest between trees (.list values) stop) :
      Derives workspace chain home? (.binary operator first second) start (.both tree trees)
        (f (value, values)) stop
  | bind {home? : Option Nat} {part : Grammar} {next : Selector} {start between stop : Cursor}
      {tree tree' : Tree} {value value' : Value}
      (hpart : Derives workspace chain home? part start tree value between)
      (hnext : Derives workspace chain home? (next.select value) between tree' value' stop) :
      Derives workspace chain home? (.bind part next) start (.both tree tree') value' stop
  | unfolded {home? home'? : Option Nat} {grammar grammar' : Grammar} {start stop : Cursor}
      {tree : Tree} {value : Value}
      (hunfold : workspace.meaning? home? grammar = some (home'?, grammar'))
      (hderives : Derives workspace chain home'? grammar' start tree value stop) :
      Derives workspace chain home? grammar start tree value stop

namespace Workspace

variable {workspace : Workspace} {chain : Chain} {home? home'? : Option Nat}

theorem derives_forward (home? : Option Nat) (grammar : Grammar) :
    (workspace.Derives chain home? grammar).Forward chain := by
  intro start tree value stop h
  induction h with
  | leaf hmatch =>
      rcases hmatch.stop_cases with rfl | ⟨hlt, rfl⟩
      · exact ⟨Nat.le_refl _, Nat.le_max_left _ _⟩
      · exact ⟨Nat.le_succ _, Nat.le_trans hlt (Nat.le_max_right _ _)⟩
  | mapped _ ih | spanned _ ih | relabelled _ ih | present _ ih | left _ ih | right _ ih
  | unfolded _ _ ih => exact ih
  | absent | done | exactlyDone | separatedNone => exact ⟨Nat.le_refl _, Nat.le_max_left _ _⟩
  | step _ _ _ _ ih ih' | exactlyStep _ _ ih ih' | joined _ _ _ ih ih' | headed _ _ _ ih ih'
  | bind _ _ ih ih' => omega

/-! ### The derivations of each operator -/

section Operators

variable {part first second separator : Grammar} {start stop : Cursor} {tree : Tree} {value : Value}

theorem derives_leaf_iff {matcher : Leaf} :
    workspace.Derives chain home? (.leaf matcher) start tree value stop ↔
      tree = .leaf ∧ Leaf.Matches chain start matcher stop value := by
  constructor
  · intro h
    cases h with
    | leaf hmatch => exact ⟨rfl, hmatch⟩
    | unfolded hunfold => cases hunfold
  · rintro ⟨rfl, hmatch⟩
    exact .leaf hmatch

theorem derives_mapped_iff {transform : Transform} :
    workspace.Derives chain home? (.unary (.mapped transform) part) start tree value stop ↔
      ((workspace.Derives chain home? part).map transform.apply) start tree value stop := by
  constructor
  · intro h
    cases h with
    | mapped hpart => exact ⟨_, hpart, rfl⟩
    | done hmany | step hmany => cases hmany
    | unfolded hunfold => cases hunfold
  · rintro ⟨value, hpart, rfl⟩
    exact .mapped hpart

theorem derives_spanned_iff {view : SpanView} :
    workspace.Derives chain home? (.unary (.spanned view) part) start tree value stop ↔
      ((workspace.Derives chain home? part).view fun candidate =>
        view.apply chain candidate.start candidate.stop candidate.value) start tree value stop := by
  constructor
  · intro h
    cases h with
    | spanned hpart => exact ⟨_, hpart, rfl⟩
    | done hmany | step hmany => cases hmany
    | unfolded hunfold => cases hunfold
  · rintro ⟨value, hpart, rfl⟩
    exact .spanned hpart

theorem derives_relabelled_iff {message : String} :
    workspace.Derives chain home? (.unary (.relabelled message) part) start tree value stop ↔
      workspace.Derives chain home? part start tree value stop := by
  constructor
  · intro h
    cases h with
    | relabelled hpart => exact hpart
    | done hmany | step hmany => cases hmany
    | unfolded hunfold => cases hunfold
  · exact .relabelled

theorem derives_optional_iff :
    workspace.Derives chain home? (.unary .optional part) start tree value stop ↔
      ∃ way, ((workspace.Derives chain home? part).optional.map Value.ofOption) start way value
        stop ∧ tree = .ofOption way := by
  constructor
  · intro h
    cases h with
    | present hpart => exact ⟨some _, ⟨some _, ⟨_, hpart, rfl⟩, rfl⟩, rfl⟩
    | absent => exact ⟨none, ⟨none, ⟨rfl, rfl⟩, rfl⟩, rfl⟩
    | done hmany | step hmany => cases hmany
    | unfolded hunfold => cases hunfold
  · rintro ⟨_ | way, ⟨_, hread, rfl⟩, rfl⟩
    · obtain ⟨rfl, rfl⟩ := hread
      exact .absent
    · obtain ⟨value, hpart, rfl⟩ := hread
      exact .present hpart

theorem derives_many_iff {operator : UnaryOperator} (hmany : operator.isMany) :
    workspace.Derives chain home? (.unary operator part) start tree value stop ↔
      ∃ trees, ((workspace.Derives chain home? part).many.map Value.list) start trees value stop ∧
        tree = .ofSteps trees := by
  constructor
  · intro h
    induction tree generalizing start value with
    | both _ _ _ ih =>
        cases h with
        | step _ hfirst hmoving hrest =>
            obtain ⟨trees, ⟨values, hsteps, heq⟩, rfl⟩ := ih hrest
            obtain rfl := Value.list.inj heq
            exact ⟨_ :: trees, ⟨_, .cons ⟨hfirst, hmoving⟩ hsteps, rfl⟩, rfl⟩
        | mapped | spanned | relabelled | exactlyStep => cases hmany
        | unfolded hunfold => cases hunfold
    | leaf =>
        cases h with
        | done => exact ⟨[], ⟨[], .nil _, rfl⟩, rfl⟩
        | mapped | spanned | relabelled | absent | exactlyDone => cases hmany
        | unfolded hunfold => cases hunfold
    | left =>
        cases h with
        | mapped | spanned | relabelled | present => cases hmany
        | unfolded hunfold => cases hunfold
    | right =>
        cases h with
        | mapped | spanned | relabelled => cases hmany
        | unfolded hunfold => cases hunfold
  · rintro ⟨trees, ⟨values, hread, rfl⟩, rfl⟩
    induction hread with
    | nil => exact .done hmany
    | cons hfirst _ ih => exact .step hmany hfirst.1 hfirst.2 ih

theorem derives_exactly_iff {count : Nat} :
    workspace.Derives chain home? (.unary (.exactly count) part) start tree value stop ↔
      ∃ trees, (((workspace.Derives chain home? part).exactly count).map Value.list) start trees
        value stop ∧ tree = .ofSteps trees := by
  constructor
  · intro h
    induction count generalizing start tree value with
    | zero =>
        cases h with
        | exactlyDone => exact ⟨[], ⟨[], ⟨rfl, .nil _⟩, rfl⟩, rfl⟩
        | done hmany | step hmany => cases hmany
        | unfolded hunfold => cases hunfold
    | succ count ih =>
        cases h with
        | exactlyStep hfirst hrest =>
            obtain ⟨trees, ⟨values, ⟨hlength, hsteps⟩, heq⟩, rfl⟩ := ih hrest
            obtain rfl := Value.list.inj heq
            exact ⟨_ :: trees, ⟨_, ⟨congrArg Nat.succ hlength, .cons hfirst hsteps⟩, rfl⟩, rfl⟩
        | done hmany | step hmany => cases hmany
        | unfolded hunfold => cases hunfold
  · rintro ⟨trees, ⟨values, ⟨rfl, hread⟩, rfl⟩, rfl⟩
    induction hread with
    | nil => exact .exactlyDone
    | cons hfirst _ ih => exact .exactlyStep hfirst ih

theorem derives_joined_iff {operator : BinaryOperator} {f : Value × Value → Value}
    (hjoin : operator.join? = some f) :
    workspace.Derives chain home? (.binary operator first second) start tree value stop ↔
      ∃ way, (((workspace.Derives chain home? first).seq (workspace.Derives chain home? second)).map
        f) start way value stop ∧ tree = .both way.1 way.2 := by
  constructor
  · intro h
    cases h with
    | joined hjoin' hfirst hsecond =>
        cases hjoin.symm.trans hjoin'
        exact ⟨(_, _), ⟨(_, _), ⟨_, hfirst, hsecond⟩, rfl⟩, rfl⟩
    | left | right | separatedNone => cases hjoin
    | headed hhead => cases (BinaryOperator.headed?_of_join? hjoin).symm.trans hhead
    | unfolded hunfold => cases hunfold
  · rintro ⟨⟨_, _⟩, ⟨⟨_, _⟩, ⟨_, hfirst, hsecond⟩, rfl⟩, rfl⟩
    exact .joined hjoin hfirst hsecond

theorem derives_either_iff :
    workspace.Derives chain home? (.binary .either first second) start tree value stop ↔
      ∃ way, ((workspace.Derives chain home? first).either (workspace.Derives chain home? second))
        start way value stop ∧ tree = way.elim .left .right := by
  constructor
  · intro h
    cases h with
    | left hfirst => exact ⟨.inl _, hfirst, rfl⟩
    | right hsecond => exact ⟨.inr _, hsecond, rfl⟩
    | joined hjoin => cases hjoin
    | headed hhead => cases hhead
    | unfolded hunfold => cases hunfold
  · rintro ⟨_ | _, hread, rfl⟩
    · exact .left hread
    · exact .right hread

theorem derives_headed_iff {operator : BinaryOperator} {rest : Grammar}
    {f : Value × List Value → Value} (hhead : operator.headed? first second = some (rest, f))
    {readings : Readings (List Tree) (List Value)}
    (hrest : ∀ {between trees value}, workspace.Derives chain home? rest between trees value stop ↔
      ∃ ways, (readings.map Value.list) between ways value stop ∧ trees = .ofSteps ways) :
    workspace.Derives chain home? (.binary operator first second) start tree value stop ↔
      ∃ way, (((workspace.Derives chain home? first).seq readings).map f) start way value stop ∧
        tree = .both way.1 (.ofSteps way.2) := by
  constructor
  · intro h
    cases h with
    | headed hhead' hfirst hderives =>
        cases hhead.symm.trans hhead'
        obtain ⟨ways, ⟨values, hread, heq⟩, rfl⟩ := hrest.1 hderives
        obtain rfl := Value.list.inj heq
        exact ⟨(_, ways), ⟨(_, _), ⟨_, hfirst, hread⟩, rfl⟩, rfl⟩
    | joined hjoin => cases (BinaryOperator.headed?_of_join? hjoin).symm.trans hhead
    | left | right | separatedNone => cases hhead
    | unfolded hunfold => cases hunfold
  · rintro ⟨⟨_, ways⟩, ⟨⟨_, values⟩, ⟨_, hfirst, hread⟩, rfl⟩, rfl⟩
    exact .headed hhead hfirst (hrest.2 ⟨ways, ⟨values, hread, rfl⟩, rfl⟩)

theorem derives_separatedNone_iff :
    workspace.Derives chain home? (.binary (.separatedExactly 0) first second) start tree value
        stop ↔
      tree = .leaf ∧ value = .list [] ∧ stop = start := by
  constructor
  · intro h
    cases h with
    | separatedNone => exact ⟨rfl, rfl, rfl⟩
    | joined hjoin => cases hjoin
    | headed hhead => cases hhead
    | unfolded hunfold => cases hunfold
  · rintro ⟨rfl, rfl, rfl⟩
    exact .separatedNone

theorem derives_separatedOne_iff :
    workspace.Derives chain home? (.binary (.separatedExactly 1) first second) start tree value
        stop ↔
      ∃ tree', ((workspace.Derives chain home? first).map fun value => .list [value]) start tree'
        value stop ∧ tree = .both tree' .leaf := by
  rw [derives_headed_iff rfl derives_exactly_iff]
  constructor
  · rintro ⟨⟨tree, ways⟩, ⟨⟨value, values⟩, ⟨between, hfirst, hlength, hrepeats⟩, rfl⟩, rfl⟩
    obtain rfl : ways = [] := List.length_eq_zero_iff.1 hlength
    obtain ⟨hvalues, hstop⟩ := Readings.repeats_nil_iff.1 hrepeats
    obtain rfl : values = [] := hvalues
    obtain rfl : stop = between := hstop
    exact ⟨tree, ⟨value, hfirst, rfl⟩, rfl⟩
  · rintro ⟨tree, ⟨value, hfirst, rfl⟩, rfl⟩
    exact ⟨(tree, []), ⟨(value, []), ⟨stop, hfirst, rfl, .nil stop⟩, rfl⟩, rfl⟩

theorem derives_bind_iff {next : Selector} :
    workspace.Derives chain home? (.bind part next) start tree value stop ↔
      ∃ way, ((workspace.Derives chain home? part).bind fun value' =>
        workspace.Derives chain home? (next.select value')) start way value stop ∧
          tree = .both way.1 way.2 := by
  constructor
  · intro h
    cases h with
    | bind hpart hnext => exact ⟨(_, _), ⟨_, _, hpart, hnext⟩, rfl⟩
    | unfolded hunfold => cases hunfold
  · rintro ⟨⟨_, _⟩, ⟨_, _, hpart, hnext⟩, rfl⟩
    exact .bind hpart hnext

/-- What stands for another grammar derives as much as that one. -/
theorem derives_iff_of_meaning? {grammar grammar' : Grammar}
    (hunfold : workspace.meaning? home? grammar = some (home'?, grammar')) :
    workspace.Derives chain home? grammar start tree value stop ↔
      workspace.Derives chain home'? grammar' start tree value stop := by
  constructor
  · intro h
    cases h with
    | unfolded hunfold' hderives =>
        cases hunfold.symm.trans hunfold'
        exact hderives
    | _ => cases hunfold
  · exact .unfolded hunfold

end Operators

end Workspace

end TokenGrammar
