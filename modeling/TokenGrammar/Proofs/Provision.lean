import TokenGrammar.Proofs.Persistence

/-!
# What a parse relies on

Four things may be missing when a grammar is parsed: the pattern of a rule, the rule that a handle
leads to, a sibling that a definition names, and the module that a reference leads into. A workspace
provides for a grammar if none of them is missing anywhere that parsing may reach.

Handles and references keep nothing alive. What they lead to has to be owned by a name, by the
grammar that is parsed, or by a grammar that is entered on the way and left later. In particular a
reference always leads into a module that is there if it is reached from a production of that
module, because following the link to the production holds the module until it was parsed.
-/

namespace TokenGrammar

/-- The link of which a grammar is held while another link is followed. It keeps what both lead
to. -/
def Link.keeper : Link → Link
  | .rule slot | .handle slot => .rule slot
  | .cell place => .cell place
  | .production place index | .reference place index => .production place index

/-- What is held while it is parsed what a grammar stands for. -/
def Grammar.keepers : Grammar → List Grammar
  | linked target => [linked target.keeper]
  | _ => []

namespace Workspace

/-- What can be reached from a grammar that was built, each with its home and with all that is held
on the way there. -/
inductive Reaches (workspace : Workspace) (root : Grammar) :
    List Grammar → Option Nat → Grammar → Prop where
  | root : Reaches workspace root [root] none root
  | part {path : List Grammar} {home? : Option Nat} {operator : UnaryOperator} {part : Grammar} :
      Reaches workspace root path home? (.unary operator part) →
      Reaches workspace root path home? part
  | first {path : List Grammar} {home? : Option Nat} {operator : BinaryOperator}
      {first second : Grammar} :
      Reaches workspace root path home? (.binary operator first second) →
      Reaches workspace root path home? first
  | second {path : List Grammar} {home? : Option Nat} {operator : BinaryOperator}
      {first second : Grammar} :
      Reaches workspace root path home? (.binary operator first second) →
      Reaches workspace root path home? second
  | selecting {path : List Grammar} {home? : Option Nat} {part : Grammar} {next : Selector} :
      Reaches workspace root path home? (.bind part next) → Reaches workspace root path home? part
  | selected {path : List Grammar} {home? : Option Nat} {part : Grammar} {next : Selector}
      (value : Value) : Reaches workspace root path home? (.bind part next) →
      Reaches workspace root (next.select value :: path) home? (next.select value)
  | unfolded {path : List Grammar} {home? home'? : Option Nat} {grammar grammar' : Grammar} :
      Reaches workspace root path home? grammar →
      workspace.meaning? home? grammar = some (home'?, grammar') →
      Reaches workspace root (grammar' :: (grammar.keepers ++ path)) home'? grammar'
  /-- A name may also come to be bound to a part that is stored on the way. -/
  | stored {path : List Grammar} {home? home'? : Option Nat} {label : String} {part : Grammar} :
      Reaches workspace root path home? (.named (.parser label)) →
      workspace.Comprises root home'? (.shared label part) →
      Reaches workspace root (part :: path) home'? part

/-- What the names of stored parsers may come to be bound to while a root is parsed: to what they
were bound to before, or to a construction of a part that is stored under the name on the way. -/
def Rebinds (workspace : Workspace) (root : Grammar) (parsers : Scope Grammar) : Prop :=
  ∀ label, parsers.find? label = workspace.parsers.find? label ∨
    ∃ home? part built body?, workspace.Comprises root home? (.shared label part) ∧
      Builds workspace root body? home? part built ∧ parsers.find? label = some built

/-- Whether something is alive while some grammars are held, whatever was stored on the way. -/
def Lasts (workspace : Workspace) (root : Grammar) (path : List Grammar) (keepable : Keepable) :
    Prop :=
  ∀ parsers, workspace.Rebinds root parsers → { workspace with parsers }.isAlive path keepable

/-- Whether nothing is missing anywhere that parsing a grammar may reach. -/
structure Provides (workspace : Workspace) (root : Grammar) : Prop where
  rules : ∀ {path home? slot}, workspace.Reaches root path home? (.linked (.rule slot)) →
    (workspace.pattern? slot).isSome
  handles : ∀ {path home? slot}, workspace.Reaches root path home? (.linked (.handle slot)) →
    (workspace.pattern? slot).isSome ∧ workspace.Lasts root path (.slot slot)
  siblings : ∀ {path home? label}, workspace.Reaches root path home? (.named (.sibling label)) →
    (workspace.siblingsAt home? label).isSome
  references : ∀ {path home? place index},
    workspace.Reaches root path home? (.linked (.reference place index)) →
    workspace.Lasts root path (.module place)

/-- The faults that a parse may meet although nothing is missing. A name that is bound to nothing
was never part of a grammar, and the other two say that something never ends. -/
def Excuses (workspace : Workspace) (root : Grammar) : Fault → Prop
  | .unbound name => ∃ path home?, workspace.Reaches root path home? (.named name) ∧
      workspace.bound? home? name = none
  | .unprintable => ∃ path home? label part,
      workspace.Reaches root path home? (.traced label part)
  | .endless => True
  | .unsetRule | .droppedRule | .unknownProduction _ | .droppedModule | .unbuilt => False

variable {workspace : Workspace} {root : Grammar} {path : List Grammar} {home? : Option Nat}
  {grammar : Grammar}

theorem Reaches.comprises (h : workspace.Reaches root path home? grammar) :
    workspace.Comprises root home? grammar := by
  induction h with
  | root => exact .root
  | part _ ih => exact ih.part
  | first _ ih => exact ih.first
  | second _ ih => exact ih.second
  | selecting _ ih => exact ih.selecting
  | selected value _ ih => exact ih.selected value
  | unfolded _ hunfold ih => exact ih.unfolded hunfold
  | stored _ hshared => exact hshared.unfolded rfl

/-- In a well-linked workspace no link leads to what is only opened on the way. -/
theorem Reaches.standsFor (hlinked : workspace.WellLinked) (hroot : workspace.Covers root)
    (h : workspace.Reaches root path home? grammar) {home'? : Option Nat} {grammar' : Grammar}
    (hstands : workspace.StandsFor root home? grammar home'? grammar') :
    workspace.Reaches root (grammar' :: (grammar.keepers ++ path)) home'? grammar' := by
  cases hstands with
  | unfolded hunfold => exact h.unfolded hunfold
  | stored hshared => exact h.stored hshared
  | opened hplace =>
      have hthere := hlinked.hasTarget_of_comprises hroot h.comprises
      exact absurd (of_decide_eq_true hthere) (Nat.not_lt.2 hplace)

/-! ### What lasts -/

theorem lasts_of_mem {keepable : Keepable} (hgrammar : grammar ∈ path)
    (hkept : keepable ∈ grammar.keeps) : workspace.Lasts root path keepable :=
  fun _ _ => isAlive_iff.2 (.inl (isRoot_of_mem hgrammar hkept))

theorem lasts_of_rule {label : String} {slot : Nat} (h : (label, slot) ∈ workspace.rules) :
    workspace.Lasts root path (.slot slot) := by
  refine fun parsers _ => isAlive_iff.2 (.inl ?_)
  have hrule : workspace.rules.any (fun binding => .slot binding.2 == Keepable.slot slot) :=
    List.any_eq_true.2 ⟨_, h, beq_self_eq_true _⟩
  simp [isRoot, isKeptByName, hrule]

theorem lasts_of_production {place index : Nat}
    (h : .linked (.production place index) ∈ path) : workspace.Lasts root path (.module place) :=
  lasts_of_mem h (List.mem_singleton_self _)

variable {now : Workspace} {held : List Grammar}

/-- Whether all that is kept on the way is owned by the grammars that are held. -/
def Attends (now : Workspace) (held path : List Grammar) : Prop :=
  ∀ grammar ∈ path, ∀ keepable ∈ grammar.keeps, now.Owns held keepable

theorem Lasts.isAlive {keepable : Keepable} (h : workspace.Lasts root path keepable)
    (hfollows : workspace.Follows root now) (hprecedes : workspace.Precedes now)
    (hattends : now.Attends held path) : now.isAlive held keepable := by
  have hparsers : workspace.Rebinds root now.parsers := by
    intro label
    cases hfind : now.parsers.find? label with
    | some built =>
        obtain hsame | ⟨home?, part, hshared, hbuilds⟩ := hfollows.parsers label built hfind
        · exact .inl hsame.symm
        · exact .inr ⟨home?, part, built, _, hshared, hbuilds, rfl⟩
    | none =>
        refine .inl (Option.eq_none_iff_forall_ne_some.2 fun built hbuilt => ?_).symm
        have hbound := hprecedes.parsers label (by rw [hbuilt]; rfl)
        rw [hfind] at hbound
        cases hbound
  refine isAlive_mono ?_ ?_ ?_ (h now.parsers hparsers)
  · exact fun other hthere => hprecedes.grown.mem_keepables hthere
  · exact fun keeper other hkept => hprecedes.mem_keptBy (by cases keeper <;> exact hkept)
  · intro other hroot
    rw [isRoot, Bool.or_eq_true, List.any_eq_true] at hroot
    obtain ⟨grammar, hgrammar, hkept⟩ | hname := hroot
    · exact (hattends grammar hgrammar other (List.contains_iff_mem.1 hkept)).isAlive
    · refine isAlive_iff.2 (.inl ?_)
      rw [isRoot, Bool.or_eq_true, isKeptByName, hfollows.rules, hfollows.moduleNames]
      exact .inr hname

theorem Attends.mono {later : Workspace} {held' : List Grammar} (h : now.Attends held path)
    (hprecedes : now.Precedes later) (hheld : ∀ grammar ∈ held, grammar ∈ held') :
    later.Attends held' path :=
  fun grammar hgrammar keepable hkept => (h grammar hgrammar keepable hkept).mono hprecedes hheld

end Workspace

/-- A construction keeps what its grammar keeps, and what it is linked to besides. -/
theorem Builds.mem_keeps {workspace : Workspace} {root : Grammar} {body? : Nat → Option Grammar}
    {home? : Option Nat} {grammar built : Grammar} {keepable : Keepable}
    (h : Builds workspace root body? home? grammar built) (hkept : keepable ∈ grammar.keeps) :
    keepable ∈ built.keeps := by
  induction h with
  | leaf | deferred | opened | named | siblingOr | deferredOnce => cases hkept
  | unary _ ih | bind _ _ ih | traced _ ih => exact ih hkept
  | binary _ _ ihfirst ihsecond =>
      exact (List.mem_append.1 hkept).elim (fun h => List.mem_append_left _ (ihfirst h))
        fun h => List.mem_append_right _ (ihsecond h)
  | linked | shared => exact hkept
  | @standing _ _ grammar _ _ hlink hstands _ ih =>
      cases hstands with
      | stored => cases hkept
      | opened => exact absurd rfl (hlink _)
      | unfolded hunfold =>
          cases grammar with
          | traced | shared =>
              cases hunfold
              exact ih hkept
          | linked target => exact absurd rfl (hlink target)
          | deferred | deferredOnce | named | siblingOr => cases hkept
          | leaf | unary | binary | bind => cases hunfold

end TokenGrammar
