import TokenGrammar.Parser.Recover
import TokenGrammar.Proofs.Laws.Binding

/-!
# Combinators that are compositions of others

Optional parts, recovery from a mistake and lists with separators are each written on their own, and
come to the same as a composition of more basic combinators: to leave a part out is a choice that
succeeds with nothing, to recover is to choose a default behind a relabelled failure, and a list is
folded from the left, one part at a time. The two sides ask the same parts in the same order, so
they agree in any monad. Only a list of one part is read by a way of its own, and agrees with a list
of any other length because whatever its part yields begins at the cursor.
-/

namespace TokenGrammar

variable {α β : Type}

theorem foldl_concat (items run : List α) :
    items.foldl (fun run item => run ++ [item]) run = run ++ items := by
  rw [List.foldl_append_eq_append, ← List.flatMap_def, List.flatMap_singleton']

namespace Parser

section Monad

variable {m : Type → Type} [Monad m]

theorem exactly_zero (p : Parser m α) : exactly 0 p = succeed [] := rfl

variable [LawfulMonad m]

theorem map_succeed (f : α → β) (value : α) :
    (succeed value : Parser m α).map f = succeed (f value) := by
  funext chain start
  simp only [map, succeed, pure_bind]
  rfl

/-! ### Choices -/

theorem optional_eq_either (p : Parser m α) : p.optional = (p.map some).either (succeed none) := by
  funext chain start
  simp only [optional, either, map, succeed, bind_assoc, pure_bind, Outcome.candidates_map,
    Outcome.diagnostic?_map, Outcome.candidates_success, Outcome.diagnostic?_success,
    Diagnostic.furthest_none_right]
  apply congrArg (p chain start >>= ·)
  funext outcome
  rw [Outcome.settle, if_neg (by simp)]

theorem optionalGreedy_eq_orElse (p : Parser m α) :
    p.optionalGreedy = (p.map some).orElse (succeed none) := by
  funext chain start
  simp only [optionalGreedy, orElse, map, bind_assoc, pure_bind]
  apply congrArg (p chain start >>= ·)
  funext outcome
  cases outcome with
  | success candidates carried? => rfl
  | failure diagnostic =>
      simp only [Outcome.map, Outcome.mapCandidates, succeed, pure_bind,
        Diagnostic.furthest_none_right]

theorem recover_eq_orElse (message : String) (value : α) (p : Parser m α) :
    p.recover message value = (p.relabel message).orElse (succeed value) := by
  funext chain start
  simp only [recover, orElse, relabel, bind_assoc]
  apply congrArg (p chain start >>= ·)
  funext outcome
  cases outcome with
  | success candidates carried? => simp only [pure_bind]
  | failure diagnostic => simp only [succeed, pure_bind, Diagnostic.furthest_none_right]

/-! ### Lists -/

/-- A first part in front of the rest is a list that begins with it alone and is folded over the
rest. -/
theorem map_seq_cons (p : Parser m α) (rest : Parser m (List α)) :
    ((p.seq rest).map fun (first, rest) => first :: rest)
      = ((p.map fun value => [value]).seq rest).map fun (run, rest) =>
          rest.foldl (fun run value => run ++ [value]) run := by
  simp only [seq_eq_bind, map_bind, bind_map, map_map]
  apply congrArg p.bind
  funext first
  apply congrArg rest.map
  funext items
  exact (foldl_concat items [first]).symm

theorem separated_eq_folded (p : Parser m α) (separator : Parser m β) :
    p.separated separator
      = folded (fun run value => run ++ [value]) (p.map fun value => [value])
          (separator.seqRight p) :=
  map_seq_cons p _

theorem separatedGreedy_eq_foldedGreedy (p : Parser m α) (separator : Parser m β) :
    p.separatedGreedy separator
      = foldedGreedy (fun run value => run ++ [value]) (p.map fun value => [value])
          (separator.seqRight p) :=
  map_seq_cons p _

theorem map_seq_succeed_nil (p : Parser m α) :
    ((p.seq (succeed [])).map fun (first, rest) => first :: rest)
      = (p.bind succeed).map fun value => [value] := by
  simp only [seq_eq_bind, map_bind, map_succeed]

end Monad

variable {chain : Chain} {p : Parser Run α}

theorem separatedExactly_succ (hp : p.Proper chain) (count : Nat) (separator : Parser Run β)
    (start : Cursor) :
    separatedExactly (count + 1) p separator chain start
      = ((p.seq (exactly count (separator.seqRight p))).map fun (first, rest) => first :: rest)
          chain start := by
  cases count with
  | zero =>
      rw [exactly_zero, map_seq_succeed_nil, separatedExactly, map, map, bind_succeed hp]
  | succ count => rfl

/-- **Derived combinators are compositions.** The parts are arbitrary parsers, and both sides do the
same to every workspace: they yield the same outcome, diagnostic included, or meet the same fault.
What a list of one part reads begins where the whole does only if the part says so, as all grammars
do (`Grammar.proper_parseWithin`). -/
theorem derived_composed (p : Parser Run α) (separator : Parser Run β) :
    p.optional = (p.map some).either (succeed none) ∧
    p.optionalGreedy = (p.map some).orElse (succeed none) ∧
    (∀ message value, p.recover message value = (p.relabel message).orElse (succeed value)) ∧
    p.separated separator
      = folded (fun run value => run ++ [value]) (p.map fun value => [value])
          (separator.seqRight p) ∧
    p.separatedGreedy separator
      = foldedGreedy (fun run value => run ++ [value]) (p.map fun value => [value])
          (separator.seqRight p) ∧
    ∀ chain, p.Proper chain → ∀ count start,
      separatedExactly (count + 1) p separator chain start
        = ((p.seq (exactly count (separator.seqRight p))).map fun (first, rest) => first :: rest)
            chain start :=
  ⟨optional_eq_either p, optionalGreedy_eq_orElse p, fun message value =>
    recover_eq_orElse message value p, separated_eq_folded p separator,
    separatedGreedy_eq_foldedGreedy p separator,
    fun _ hp count start => separatedExactly_succ hp count separator start⟩

/-- Two letters with a comma between them, each of which is read in two ways: a list of one letter
has two readings, and there are four of two letters, which carry what was met behind them. -/
theorem derived_composed_letters :
    ∃ (workspace : Workspace) (chain : Chain) (letter comma : Parser Run Value),
      letter.Proper chain ∧
      (∃ (outcome : Outcome (List Value)) (after : Workspace),
        letter.separated comma chain 0 workspace = .ok outcome after ∧
        folded (fun run value => run ++ [value]) (letter.map fun value => [value])
          (comma.seqRight letter) chain 0 workspace = .ok outcome after ∧
        outcome.candidates.map (·.stop) = [3, 3, 1, 3, 3, 1] ∧
        outcome.diagnostic? = some (.unconsumed chain 3)) ∧
      ∃ (outcome : Outcome (List Value)) (after : Workspace),
        separatedExactly 1 letter comma chain 0 workspace = .ok outcome after ∧
        ((letter.seq (exactly 0 (comma.seqRight letter))).map fun (first, rest) => first :: rest)
          chain 0 workspace = .ok outcome after ∧ outcome.candidates.length = 2 := by
  let token (index : Nat) (text : String) : Token :=
    ⟨"sign", text, ⟨index, 1, index + 1, 1, index + 2⟩⟩
  let chain : Chain := #[token 0 "a", token 1 ",", token 2 "a"]
  let plain : Grammar := .leaf (.literal "a")
  let letter : Parser Run Value := (Grammar.binary .either plain plain).parseWithin 1 []
  let comma : Parser Run Value := (Grammar.leaf (.literal ",")).parseWithin 1 []
  have hletter : letter.Proper chain := Grammar.proper_parseWithin _ 1 [] chain
  obtain ⟨-, -, -, hlist, -, hone⟩ := derived_composed letter comma
  refine ⟨{}, chain, letter, comma, hletter, ?_, ?_⟩
  · obtain ⟨outcome, after, hrun, hstops, hcarried⟩ :
        ∃ (outcome : Outcome (List Value)) (after : Workspace),
          letter.separated comma chain 0 {} = .ok outcome after ∧
          outcome.candidates.map (·.stop) = [3, 3, 1, 3, 3, 1] ∧
          outcome.diagnostic? = some (.unconsumed chain 3) := by
      dsimp only [letter, comma, plain, chain, token]
      exact ⟨_, _, rfl, by decide +kernel, by decide +kernel⟩
    exact ⟨outcome, after, hrun, hlist ▸ hrun, hstops, hcarried⟩
  · obtain ⟨outcome, after, hrun, htwo⟩ :
        ∃ (outcome : Outcome (List Value)) (after : Workspace),
          separatedExactly 1 letter comma chain 0 {} = .ok outcome after ∧
          outcome.candidates.length = 2 := ⟨_, _, rfl, by decide +kernel⟩
    exact ⟨outcome, after, hrun, hone chain hletter 0 0 ▸ hrun, htwo⟩

end Parser

end TokenGrammar
