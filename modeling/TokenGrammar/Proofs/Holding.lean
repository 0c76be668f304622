import TokenGrammar.Grammar.Parsing
import TokenGrammar.Proofs.Survivors

/-!
# Grammars that are held

The grammars that are being parsed matter for what they keep, and for nothing else. An operator
keeps what its part keeps, so a parse with the one finds the same rules and modules alive as a parse
with the other.
-/

namespace TokenGrammar

/-! ### Representations -/

namespace Workspace

variable {workspace : Workspace} {held held' : List Grammar}
  (h : ∀ keepable, workspace.isAlive held keepable = workspace.isAlive held' keepable)

include h

theorem linkText?_congr (hops : Nat) (target : Link) :
    workspace.linkText? held hops target = workspace.linkText? held' hops target := by
  induction hops generalizing target with
  | zero =>
      cases target with
      | rule place => unfold Workspace.linkText?; cases workspace.pattern? place <;> rfl
      | handle place => rfl
      | cell place => unfold Workspace.linkText?; cases workspace.cellContent? place <;> rfl
      | production place index => rfl
      | reference place index => simp only [Workspace.linkText?, h]
  | succ hops ih =>
      cases target with
      | rule place =>
          unfold Workspace.linkText?
          cases workspace.pattern? place with
          | none => rfl
          | some pattern => exact congrArg pattern.text? (funext ih)
      | handle place => rfl
      | cell place =>
          unfold Workspace.linkText?
          cases workspace.cellContent? place with
          | none => rfl
          | some built => exact congrArg built.text? (funext ih)
      | production place index => rfl
      | reference place index => simp only [Workspace.linkText?, h]

theorem textOf?_congr (grammar : Grammar) :
    workspace.textOf? held grammar = workspace.textOf? held' grammar := by
  rw [textOf?, funext (linkText?_congr h _), textOf?]

end Workspace

/-! ### Grammars that keep the same -/

def Grammar.KeepAlike (held held' : List Grammar) : Prop :=
  ∀ keepable, held.any (fun grammar => grammar.keeps.contains keepable)
    = held'.any fun grammar => grammar.keeps.contains keepable

namespace Grammar.KeepAlike

variable {held held' : List Grammar}

theorem refl (held : List Grammar) : KeepAlike held held := fun _ => rfl

theorem cons (h : KeepAlike held held') {grammar grammar' : Grammar}
    (hkeeps : grammar.keeps = grammar'.keeps) :
    KeepAlike (grammar :: held) (grammar' :: held') := by
  intro keepable
  rw [List.any_cons, List.any_cons, hkeeps, h keepable]

theorem swap (first second : Grammar) (held : List Grammar) :
    KeepAlike (first :: second :: held) (second :: first :: held) := by
  intro keepable
  simp only [List.any_cons, Bool.or_left_comm]

theorem isRoot_eq (h : KeepAlike held held') (workspace : Workspace) (keepable : Keepable) :
    workspace.isRoot held keepable = workspace.isRoot held' keepable := by
  rw [Workspace.isRoot, h keepable, Workspace.isRoot]

theorem isAlive_eq (h : KeepAlike held held') (workspace : Workspace) (keepable : Keepable) :
    workspace.isAlive held keepable = workspace.isAlive held' keepable :=
  Workspace.isAlive_congr rfl (fun _ => rfl) (h.isRoot_eq workspace) keepable

theorem textOf?_eq (h : KeepAlike held held') (workspace : Workspace) (grammar : Grammar) :
    workspace.textOf? held grammar = workspace.textOf? held' grammar :=
  Workspace.textOf?_congr (h.isAlive_eq workspace) grammar

/-! ### Parsing -/

variable {enter : Enter} (henter : ∀ {held held' : List Grammar}, KeepAlike held held' →
  enter held = enter held')

include henter

theorem linkParser_eq (h : KeepAlike held held') (target : Link) :
    target.parser enter held = target.parser enter held' := by
  funext chain start
  cases target with
  | rule place => simp only [Link.parser, henter h]
  | handle place =>
      simp only [Link.parser, Run.demandAlive, h.isAlive_eq, henter (h.cons rfl)]
  | cell place => simp only [Link.parser, henter h]
  | production place index =>
      simp only [Link.parser]
      refine bind_congr fun built => ?_
      rw [henter (h.cons rfl)]
  | reference place index =>
      simp only [Link.parser, Run.demandAlive, h.isAlive_eq]
      refine bind_congr fun _ => bind_congr fun built => ?_
      rw [henter ((h.cons rfl).cons rfl)]

theorem parser_eq (h : KeepAlike held held') : ∀ grammar : Grammar,
    grammar.parser enter held = grammar.parser enter held'
  | .leaf _ => rfl
  | .unary operator part => by simp only [Grammar.parser, Grammar.parserTracing, h.parser_eq part]
  | .binary operator first second => by
      simp only [Grammar.parser, Grammar.parserTracing, h.parser_eq first, h.parser_eq second]
  | .bind part next => by
      simp only [Grammar.parser, Grammar.parserTracing, h.parser_eq part]
      congr 1
      funext value chain start
      refine bind_congr fun selected => ?_
      rw [henter (h.cons rfl)]
  | .traced label part => by
      funext chain start
      simp only [Grammar.parser, Grammar.parserTracing, h.parser_eq part, Run.traced, h.textOf?_eq]
  | .deferred part => by
      funext chain start
      simp only [Grammar.parser, Grammar.parserTracing]
      refine bind_congr fun built => ?_
      rw [henter (h.cons rfl)]
  | .linked target => h.linkParser_eq henter target
  | .deferredOnce _ | .named _ | .siblingOr _ _ | .shared _ _ => rfl

omit henter

/-- **Parses with lists of grammars that keep the same are the same.** -/
theorem parseWithin_eq (depth : Nat) (h : KeepAlike held held') :
    Grammar.parseWithin depth held = Grammar.parseWithin depth held' := by
  induction depth generalizing held held' with
  | zero => rfl
  | succ depth ih =>
      funext grammar
      exact h.parser_eq ih grammar

end Grammar.KeepAlike

end TokenGrammar
