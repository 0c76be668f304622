import TokenGrammar.Proofs.Ledger
import TokenGrammar.Proofs.Occurrences

/-!
# The furthest failure

Combinators pass diagnostics on in ways of their own: carried by successes, merged where branches
meet, left behind by steps that stand still. All the same none is lost. The diagnostic of an outcome
is that of the furthest of all leaves that failed meanwhile, the first of them in the order of the
parse, and there is one if and only if a leaf failed. Operators with messages of their own leave it
open which of the furthest failures is reported, and how it reads, but not how far it lies. And
since combinators report what their parts reported, whatever that is, none of them blames the token
at the start for want of a diagnostic (`transparent`).

The leaves that failed are those that a run notes in its journal. That one merge from left to right
says the same as merges inside merges is shown for joining alone (`IsFirstFurthest.append`,
`IsFurthest.append`); the ledgers of this module do the rest.
-/

namespace TokenGrammar

namespace Diagnostic

/-- One of the diagnostics that lie furthest, maybe with another message, and none if there are no
diagnostics. -/
inductive IsFurthest : List Diagnostic → Option Diagnostic → Prop where
  | none : IsFurthest [] none
  | some {misses : List Diagnostic} {missed diagnostic : Diagnostic} (hmissed : missed ∈ misses)
      (hsame : diagnostic = missed ∨ ∃ message, diagnostic = missed.relabelled message)
      (hfurthest : ∀ other ∈ misses, other.progress ≤ missed.progress) :
      IsFurthest misses (some diagnostic)

variable {misses later : List Diagnostic} {a b : Option Diagnostic}

theorem IsFurthest.progress_eq {missed diagnostic : Diagnostic}
    (hsame : diagnostic = missed ∨ ∃ message, diagnostic = missed.relabelled message) :
    diagnostic.progress = missed.progress := by
  rcases hsame with rfl | ⟨message, rfl⟩ <;> rfl

theorem IsFurthest.append (ha : IsFurthest misses a) (hb : IsFurthest later b) :
    IsFurthest (misses ++ later) (furthest a b) := by
  cases ha with
  | none => simpa using hb
  | @some _ missed first hmissed hsame hfurthest =>
      cases hb with
      | none => simpa using IsFurthest.some hmissed hsame hfurthest
      | @some _ missed' second hmissed' hsame' hfurthest' =>
          have hfirst := progress_eq hsame
          have hsecond := progress_eq hsame'
          rw [furthest_some_some]
          rcases further_cases first second with ⟨hle, heq⟩ | ⟨hlt, heq⟩
          · rw [hfirst, hsecond] at hle
            rw [heq]
            refine .some (List.mem_append_left _ hmissed) hsame fun other hmem => ?_
            exact (List.mem_append.1 hmem).elim (hfurthest other)
              fun hmem => (hfurthest' other hmem).trans hle
          · rw [hfirst, hsecond] at hlt
            rw [heq]
            refine .some (List.mem_append_right _ hmissed') hsame' fun other hmem => ?_
            exact (List.mem_append.1 hmem).elim
              (fun hmem => (hfurthest other hmem).trans hlt.le) (hfurthest' other)

theorem IsFurthest.relabel {diagnostic : Diagnostic} (message : String)
    (h : IsFurthest misses (Option.some diagnostic)) :
    IsFurthest misses (Option.some (diagnostic.relabelled message)) := by
  cases h with
  | some hmissed hsame hfurthest =>
      refine .some hmissed (.inr ⟨message, ?_⟩) hfurthest
      rcases hsame with rfl | ⟨_, rfl⟩ <;> rfl

end Diagnostic

def Ledger.firstFurthest (chain : Chain) : Ledger chain where
  Passes _ _ := True
  Accounts _ misses seen := Diagnostic.IsFirstFurthest misses seen
  here _ := trivial
  token _ _ := trivial
  onward _ _ := trivial
  clear _ := .none
  join haccounts _ hlater := haccounts.append hlater

def Ledger.furthest (chain : Chain) : Ledger chain where
  Passes _ _ := True
  Accounts _ misses seen := Diagnostic.IsFurthest misses seen
  here _ := trivial
  token _ _ := trivial
  onward _ _ := trivial
  clear _ := .none
  join haccounts _ hlater := haccounts.append hlater

def Workspace.ComprisesMessage (workspace : Workspace) (root : Grammar) : Prop :=
  ∃ home? operator part, workspace.Comprises root home? (.unary operator part) ∧ operator.relabels

def Grammar.isSilent : Grammar → Bool
  | .unary operator _ => !operator.relabels
  | _ => true

theorem Grammar.hereditary_isSilent : Grammar.Hereditary isSilent := by
  refine ⟨⟨?_, ?_, ?_, ?_, ?_⟩, ?_, ?_, ?_, ?_⟩ <;> intros <;> rfl

theorem Workspace.not_comprisesMessage_of_all {workspace : Workspace} {root : Grammar}
    (hworkspace : workspace.All Grammar.isSilent) (hroot : root.all Grammar.isSilent) :
    ¬ workspace.ComprisesMessage root := by
  rintro ⟨home?, operator, part, h, hrelabels⟩
  have hsilent : !operator.relabels :=
    Grammar.of_all (h.all Grammar.hereditary_isSilent hworkspace hroot)
  rw [hrelabels] at hsilent
  cases hsilent

theorem Ledger.furthest_relabels (chain : Chain) : (Ledger.furthest chain).Relabels :=
  fun message haccounts => haccounts.relabel message

/-! ### What combinators report -/

/-- That an outcome of reading from a cursor reports a diagnostic of some kind or none, and that a
success has candidates, which begin there. -/
structure Outcome.Reports {α : Type} (kind : Diagnostic → Prop) (start : Cursor)
    (outcome : Outcome α) : Prop where
  nonempty : outcome.isSuccess → outcome.candidates ≠ []
  starts : ∀ candidate ∈ outcome.candidates, candidate.start = start
  reports : ∀ diagnostic, outcome.diagnostic? = some diagnostic → kind diagnostic

def Parser.Reports {α : Type} (chain : Chain) (kind : Diagnostic → Prop) (p : Parser Run α) :
    Prop :=
  ∀ start before outcome after, p chain start before = .ok outcome after →
    outcome.Reports kind start

/-- That combinators report what their parts reported. The parts and the kind of what they report
are arbitrary, so a diagnostic of the combinator's own would be noticed. -/
structure Transparent (chain : Chain) (kind : Diagnostic → Prop) : Prop where
  unary : ∀ {operator : UnaryOperator} {p : Parser Run Value},
    (operator.relabels → ∀ message diagnostic, kind diagnostic →
      kind (diagnostic.relabelled message)) →
    p.Reports chain kind → (operator.parser p).Reports chain kind
  binary : ∀ {operator : BinaryOperator} {p q : Parser Run Value}, p.Reports chain kind →
    q.Reports chain kind → (operator.parser p q).Reports chain kind
  bind : ∀ {p : Parser Run Value} {next : Value → Parser Run Value}, p.Reports chain kind →
    (∀ value, (next value).Reports chain kind) → (p.bind next).Reports chain kind

def Run.yielding : Observation Run where
  Yields run post := ∀ before value after, run before = .ok value after →
    ∃ misses, post misses value
  pure := Run.exists_misses_of_pure
  bind := Run.exists_misses_of_bind

def Ledger.ofKind (chain : Chain) (kind : Diagnostic → Prop) : Ledger chain where
  Passes _ _ := True
  Accounts _ _ seen := ∀ diagnostic, seen = some diagnostic → kind diagnostic
  here _ := trivial
  token _ _ := trivial
  onward _ _ := trivial
  clear _ _ hnone := nomatch hnone
  join haccounts _ hlater diagnostic hfurthest :=
    (Diagnostic.furthest_eq_some hfurthest).elim (haccounts diagnostic) (hlater diagnostic)

theorem Parser.reports_iff {α : Type} {chain : Chain} {kind : Diagnostic → Prop}
    {p : Parser Run α} :
    p.Reports chain kind ↔ (Ledger.ofKind chain kind).KeptBy Run.yielding p := by
  constructor
  · intro h start before outcome after hrun
    have hreports := h start before outcome after hrun
    refine ⟨[], hreports.nonempty, fun candidate hmem => ?_, hreports.reports⟩
    exact ⟨hreports.starts candidate hmem, trivial⟩
  · intro h start before outcome after hrun
    obtain ⟨_, hkeeps⟩ := h start before outcome after hrun
    exact ⟨hkeeps.nonempty, fun candidate hmem => (hkeeps.reads candidate hmem).1, hkeeps.accounts⟩

theorem transparent (chain : Chain) (kind : Diagnostic → Prop) : Transparent chain kind where
  unary hkind hp := by
    rw [Parser.reports_iff] at hp ⊢
    refine hp.unary _ fun hrelabels => ?_
    rintro start misses diagnostic message haccounts _ ⟨⟩
    exact hkind hrelabels message diagnostic (haccounts diagnostic rfl)
  binary hp hq := by
    rw [Parser.reports_iff] at hp hq ⊢
    exact hp.binary hq _
  bind hp hnext := by
    rw [Parser.reports_iff] at hp ⊢
    exact hp.bind fun value => Parser.reports_iff.1 (hnext value)

theorem Diagnostic.isFurthest_singleton (diagnostic : Diagnostic) :
    IsFurthest [diagnostic] (some diagnostic) :=
  .some List.mem_cons_self (.inl rfl) fun _ hmem => (List.mem_singleton.1 hmem).symm ▸ le_refl _

/-- **No diagnostic is lost.** Of all leaves that failed during a parse, in the order in which they
did, the outcome has one that lies furthest, and the first of them unless there are messages of the
grammar's own. No combinator puts in another one for want of a diagnostic. -/
theorem Grammar.isFurthest_of_parseWithin {root : Grammar} {depth : Nat} {held : List Grammar}
    {chain : Chain} {start : Cursor} {workspace after : Workspace} {outcome : Outcome Value}
    (hrun : root.parseWithin depth held chain start workspace = .ok outcome after) :
    (∃ misses, after.journal.misses = misses.reverse ++ workspace.journal.misses ∧
      Diagnostic.IsFurthest misses outcome.diagnostic? ∧
      (¬ workspace.ComprisesMessage root →
        Diagnostic.IsFirstFurthest misses outcome.diagnostic?)) ∧
    ∀ kind, Transparent chain kind := by
  have hfurthest : Carried workspace root chain fun _ _ start misses outcome =>
      (Ledger.furthest chain).Keeps start misses outcome :=
    Ledger.carried (fun _ _ => Diagnostic.isFurthest_singleton _)
      fun _ _ => Ledger.furthest_relabels chain
  obtain ⟨misses, hmisses, hkeeps⟩ := hfurthest.of_parseWithin hrun
  refine ⟨⟨misses, hmisses, hkeeps.accounts, fun hmessage => ?_⟩, transparent chain⟩
  have hfirst : Carried workspace root chain fun _ _ start misses outcome =>
      (Ledger.firstFurthest chain).Keeps start misses outcome :=
    Ledger.carried (fun _ _ => Diagnostic.isFirstFurthest_singleton _)
      fun hcomprises hrelabels => absurd ⟨_, _, _, hcomprises, hrelabels⟩ hmessage
  obtain ⟨misses', hmisses', hkeeps'⟩ := hfirst.of_parseWithin hrun
  -- the journal has room for one list of misses only
  rw [hmisses, List.append_left_inj, List.reverse_inj] at hmisses'
  rw [hmisses']
  exact hkeeps'.accounts

/-- A branch that fails after a token has more to say than one that fails at once, although that
one was tried last. -/
theorem Grammar.isFurthest_two_branches :
    ∃ (chain : Chain) (workspace after : Workspace) (root : Grammar) (outcome : Outcome Value),
      root.parseWithin 2 [] chain 0 workspace = .ok outcome after ∧
        outcome.diagnostic? = some (.unconsumed chain 1) ∧ ¬ workspace.ComprisesMessage root ∧
        ∃ misses, after.journal.misses = misses.reverse ++ workspace.journal.misses ∧
          Diagnostic.IsFirstFurthest misses outcome.diagnostic? := by
  let token : Token := ⟨"letter", "a", ⟨0, 1, 1, 1, 2⟩⟩
  let chain : Chain := #[token, token]
  let pattern : Grammar := .binary .seq (.leaf (.literal "a")) (.leaf (.literal "b"))
  let root : Grammar := .binary .orElse (.linked (.rule 0)) (.leaf (.literal "c"))
  have hrun : root.parseWithin 2 [] chain 0 { slots := #[some pattern] } =
      .ok (.failure (.unconsumed chain 1))
        { slots := #[some pattern],
          journal := { misses := [.unconsumed chain 0, .unconsumed chain 1] } } := rfl
  have hmessage : ¬ Workspace.ComprisesMessage { slots := #[some pattern] } root :=
    Workspace.not_comprisesMessage_of_all (Workspace.all_of_slot rfl) rfl
  obtain ⟨⟨misses, hmisses, _, hfirst⟩, _⟩ := Grammar.isFurthest_of_parseWithin hrun
  exact ⟨chain, _, _, root, _, hrun, rfl, hmessage, misses, hmisses, hfirst hmessage⟩

end TokenGrammar
