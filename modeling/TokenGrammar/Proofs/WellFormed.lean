import TokenGrammar.Proofs.Ledger

/-!
# Well-formed outcomes

Every parse that ends has a well-formed outcome. A success has candidates; each of them begins where
the parse began and stops where passing tokens leads from there. A diagnostic, be it of a failure or
carried by a success, lies at a cursor that is reached in this way too. If it says that a token did
not fit, then it is the token at that cursor, and it says that the bounds of a range were exchanged
only if the grammar comprises such a range. That the chain goes on after a reading is never said by
a parser.
-/

namespace TokenGrammar

/-- The cursors that are reached from one by passing tokens. -/
inductive Chain.Reaches (chain : Chain) (start : Cursor) : Cursor → Prop where
  | here : Reaches chain start start
  | next {cursor : Cursor} (hcursor : Reaches chain start cursor) (hlt : cursor < chain.size) :
      Reaches chain start (cursor + 1)

theorem Chain.Reaches.le {chain : Chain} {start stop : Cursor} (h : chain.Reaches start stop) :
    start ≤ stop := by
  induction h with
  | here => exact Nat.le_refl _
  | next _ _ ih => exact Nat.le_succ_of_le ih

theorem Chain.Reaches.le_size {chain : Chain} {start stop : Cursor}
    (h : chain.Reaches start stop) : stop = start ∨ stop ≤ chain.size := by
  cases h with
  | here => exact .inl rfl
  | next _ hlt => exact .inr hlt

theorem Chain.Reaches.trans {chain : Chain} {start between stop : Cursor}
    (hbetween : chain.Reaches start between) (hstop : chain.Reaches between stop) :
    chain.Reaches start stop := by
  induction hstop with
  | here => exact hbetween
  | next _ hlt ih => exact ih.next hlt

/-- Readings go over cursors that are reached by passing tokens. -/
def Ledger.reaching (chain : Chain) : Ledger chain where
  Passes start stop := chain.Reaches start stop
  Accounts _ _ _ := True
  here _ := .here
  token _ hlt := .next .here hlt
  onward := .trans
  clear _ := trivial
  join _ _ _ := trivial

theorem Grammar.reaches_of_parseWithin {root : Grammar} {depth : Nat} {held : List Grammar}
    {chain : Chain} {start : Cursor} {workspace after : Workspace} {outcome : Outcome Value}
    (hrun : root.parseWithin depth held chain start workspace = .ok outcome after) :
    ∀ candidate ∈ outcome.candidates,
      candidate.start = start ∧ chain.Reaches start candidate.stop := by
  have hcarried : Carried workspace root chain fun _ _ start misses outcome =>
      (Ledger.reaching chain).Keeps start misses outcome :=
    Ledger.carried (fun _ _ => trivial) fun _ _ _ _ _ _ _ => trivial
  obtain ⟨misses, _, hkeeps⟩ := hcarried.of_parseWithin hrun
  exact hkeeps.reads

/-- A diagnostic that a parser may give for a cursor, if it may complain of exchanged bounds or
not. -/
structure Diagnostic.Describes (chain : Chain) (exchanged : Prop) (diagnostic : Diagnostic)
    (cursor : Cursor) : Prop where
  position : diagnostic.position? = chain.position? cursor
  unconsumed : diagnostic.cause = .unconsumed → diagnostic = .unconsumed chain cursor
  invalidRange : diagnostic.cause = .invalidRange → exchanged
  notAtEnd : diagnostic.cause ≠ .notAtEnd

structure Outcome.WellFormed {α : Type} (chain : Chain) (exchanged : Prop) (start : Cursor)
    (outcome : Outcome α) : Prop where
  nonempty : outcome.isSuccess → outcome.candidates ≠ []
  reads : ∀ candidate ∈ outcome.candidates,
    candidate.start = start ∧ chain.Reaches start candidate.stop
  describes : ∀ diagnostic, outcome.diagnostic? = some diagnostic →
    ∃ cursor, chain.Reaches start cursor ∧ diagnostic.Describes chain exchanged cursor

def Workspace.ComprisesExchanged (workspace : Workspace) (root : Grammar) : Prop :=
  ∃ home? low high, workspace.Comprises root home? (.leaf (.range low high)) ∧ high < low

def Ledger.described (chain : Chain) (exchanged : Prop) : Ledger chain where
  Passes start stop := chain.Reaches start stop
  Accounts start _ seen := ∀ diagnostic, seen = some diagnostic →
    ∃ cursor, chain.Reaches start cursor ∧ diagnostic.Describes chain exchanged cursor
  here _ := .here
  token _ hlt := .next .here hlt
  onward := .trans
  clear _ _ hnone := nomatch hnone
  join haccounts hpasses hlater diagnostic hfurthest := by
    rcases Diagnostic.furthest_eq_some hfurthest with hseen | hnext
    · exact haccounts diagnostic hseen
    · obtain ⟨cursor, hreaches, hdescribes⟩ := hlater diagnostic hnext
      exact ⟨cursor, hpasses.trans hreaches, hdescribes⟩

theorem Ledger.described_relabels (chain : Chain) (exchanged : Prop) :
    (Ledger.described chain exchanged).Relabels := by
  rintro start misses diagnostic message haccounts _ ⟨⟩
  obtain ⟨cursor, hreaches, hdescribes⟩ := haccounts diagnostic rfl
  exact ⟨cursor, hreaches, hdescribes.position, (nomatch ·), (nomatch ·), (nomatch ·)⟩

theorem Leaf.Blames.describes {chain : Chain} {start : Cursor} {matcher : Leaf}
    {diagnostic : Diagnostic} {exchanged : Prop} (h : Leaf.Blames chain start matcher diagnostic)
    (hexchanged : ∀ low high, matcher = .range low high → high < low → exchanged) :
    diagnostic.Describes chain exchanged start := by
  cases h with
  | next => exact ⟨rfl, fun _ => rfl, (nomatch ·), (nomatch ·)⟩
  | exchanged hlt => exact ⟨rfl, (nomatch ·), fun _ => hexchanged _ _ rfl hlt, (nomatch ·)⟩
  | message => exact ⟨rfl, (nomatch ·), (nomatch ·), (nomatch ·)⟩

/-- **Every parse that ends has a well-formed outcome.** -/
theorem Grammar.wellFormed_of_parseWithin {root : Grammar} {depth : Nat} {held : List Grammar}
    {chain : Chain} {start : Cursor} {workspace after : Workspace} {outcome : Outcome Value}
    (hrun : root.parseWithin depth held chain start workspace = .ok outcome after) :
    outcome.WellFormed chain (workspace.ComprisesExchanged root) start := by
  have hcarried : Carried workspace root chain fun _ _ start misses outcome =>
      (Ledger.described chain (workspace.ComprisesExchanged root)).Keeps start misses outcome := by
    refine Ledger.carried ?_ fun _ _ => Ledger.described_relabels chain _
    rintro home? matcher start diagnostic hcomprises hblames _ ⟨⟩
    refine ⟨start, .here, hblames.describes ?_⟩
    rintro low high rfl hlt
    exact ⟨home?, low, high, hcomprises, hlt⟩
  obtain ⟨misses, _, hkeeps⟩ := hcarried.of_parseWithin hrun
  exact ⟨hkeeps.nonempty, hkeeps.reads, hkeeps.accounts⟩

/-- Letters by a rule that refers to itself: where they end, the diagnostic is carried. -/
theorem Grammar.wellFormed_letters :
    ∃ (chain : Chain) (workspace after : Workspace) (letters : Grammar) (outcome : Outcome Value),
      letters.parseWithin 4 [] chain 0 workspace = .ok outcome after ∧
        outcome.diagnostic? = some (.unconsumed chain 2) ∧
        outcome.WellFormed chain (workspace.ComprisesExchanged letters) 0 := by
  let token : Token := ⟨"letter", "a", ⟨0, 1, 1, 1, 2⟩⟩
  let chain : Chain := #[token, token]
  let pattern : Grammar := .binary .orElse
    (.binary .seqRight (.leaf (.literal "a")) (.linked (.rule 0))) (.leaf .nothing)
  have hrun : (Grammar.linked (.rule 0)).parseWithin 4 [] chain 0 { slots := #[some pattern] } =
      .ok (.success [⟨0, 2, .unit⟩] (some (.unconsumed chain 2)))
        { slots := #[some pattern], journal := { misses := [.unconsumed chain 2] } } := rfl
  exact ⟨chain, _, _, _, _, hrun, rfl, Grammar.wellFormed_of_parseWithin hrun⟩

end TokenGrammar
