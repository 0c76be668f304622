import TokenGrammar.Outcome.Evaluate
import TokenGrammar.Proofs.Bare
import TokenGrammar.Proofs.Faults
import TokenGrammar.Proofs.Occurrences
import TokenGrammar.Proofs.Parametricity

/-!
# Diagnostics never influence parsing

A parse with a bare grammar on a bare chain takes the same steps as with the grammar and on the
chain that were made bare: it builds the same parts, finds the same things alive, and meets the same
faults. Its diagnostics differ, but no combinator lets them decide on anything. So two parses whose
grammars differ in messages, on chains that differ in positions, have the same candidates, or both
fail, and the positions may be equal or decreasing, as long as nobody asks for the offsets of a
stretch.
-/

namespace TokenGrammar

variable {α α' β β' : Type}

/-! ### Workspaces and their bare versions -/

/-- Whether a workspace is the bare version of another one, whatever happened in either. -/
def Workspace.Bares (before before' : Workspace) : Prop := before'.clearJournal = before.bare

namespace Workspace.Bares

variable {before before' : Workspace}

theorem of_bare (workspace : Workspace) : workspace.Bares workspace.bare := rfl

theorem modifyJournal (h : before.Bares before') (change change' : Journal → Journal) :
    (before.modifyJournal change).Bares (before'.modifyJournal change') :=
  h

theorem pattern? (h : before.Bares before') (place : Nat) :
    before'.pattern? place = (before.pattern? place).map Grammar.bare := by
  show before'.clearJournal.pattern? place = _
  rw [h]
  exact before.pattern?_mapGrammars _ place

theorem cells (h : before.Bares before') (place : Nat) :
    before'.cells[place]? = before.cells[place]?.map (Cell.mapGrammars Grammar.bare) := by
  show before'.clearJournal.cells[place]? = _
  rw [h]
  exact before.cells_mapGrammars _ place

theorem cellContent? (h : before.Bares before') (place : Nat) :
    before'.cellContent? place = (before.cellContent? place).map Grammar.bare := by
  show before'.clearJournal.cellContent? place = _
  rw [h]
  exact before.cellContent?_mapGrammars _ place

theorem size_slots (h : before.Bares before') : before'.slots.size = before.slots.size := by
  show before'.clearJournal.slots.size = _
  rw [h]
  exact Array.size_map

theorem size_cells (h : before.Bares before') : before'.cells.size = before.cells.size := by
  show before'.clearJournal.cells.size = _
  rw [h]
  exact Array.size_map

theorem definition? (h : before.Bares before') (place index : Nat) :
    before'.definition? place index = (before.definition? place index).map Grammar.bare := by
  show before'.clearJournal.definition? place index = _
  rw [h]
  exact before.definition?_mapGrammars _ place index

theorem productionContent? (h : before.Bares before') (place index : Nat) :
    before'.productionContent? place index
      = (before.productionContent? place index).map Grammar.bare := by
  show before'.clearJournal.productionContent? place index = _
  rw [h]
  exact before.productionContent?_mapGrammars _ place index

theorem productionIndex? (h : before.Bares before') (place : Nat) (label : String) :
    before'.productionIndex? place label = before.productionIndex? place label := by
  show before'.clearJournal.productionIndex? place label = _
  rw [h]
  exact before.productionIndex?_mapGrammars _ place label

theorem siblingsAt (h : before.Bares before') (home? : Option Nat) :
    before'.siblingsAt home? = before.siblingsAt home? := by
  show before'.clearJournal.siblingsAt home? = _
  rw [h]
  exact before.siblingsAt_mapGrammars _ home?

theorem parsers (h : before.Bares before') (label : String) :
    before'.parsers.find? label = (before.parsers.find? label).map Grammar.bare := by
  show before'.clearJournal.parsers.find? label = _
  rw [h]
  exact before.parsers_mapGrammars _ label

theorem rules (h : before.Bares before') : before'.rules = before.rules := by
  show before'.clearJournal.rules = _
  rw [h]
  rfl

theorem moduleNames (h : before.Bares before') : before'.moduleNames = before.moduleNames := by
  show before'.clearJournal.moduleNames = _
  rw [h]
  rfl

theorem isAlive (h : before.Bares before') (held : List Grammar) (keepable : Keepable) :
    before'.isAlive (held.map Grammar.bare) keepable = before.isAlive held keepable := by
  rw [← isAlive_clearJournal, h, before.isAlive_bare]

theorem isSome_linkText? (h : before.Bares before') (held : List Grammar) (hops : Nat)
    (target : Link) : (before'.linkText? (held.map Grammar.bare) hops target).isSome
      = (before.linkText? held hops target).isSome := by
  induction hops generalizing target with
  | zero =>
      cases target with
      | rule place =>
          unfold linkText?
          rw [h.pattern?]
          cases before.pattern? place <;> rfl
      | cell place =>
          unfold linkText?
          rw [h.cellContent?]
          cases before.cellContent? place <;> rfl
      | handle place | production place index => rfl
      | reference place index =>
          simp only [linkText?, h.isAlive]
          split <;> rfl
  | succ hops ih =>
      cases target with
      | rule place =>
          unfold linkText?
          rw [h.pattern?]
          cases before.pattern? place with
          | none => rfl
          | some pattern => exact pattern.isSome_text?_bare ih
      | cell place =>
          unfold linkText?
          rw [h.cellContent?]
          cases before.cellContent? place with
          | none => rfl
          | some built => exact built.isSome_text?_bare ih
      | handle place | production place index => rfl
      | reference place index =>
          simp only [linkText?, h.isAlive]
          split <;> rfl

theorem isSome_textOf? (h : before.Bares before') (held : List Grammar) (part : Grammar) :
    (before'.textOf? (held.map Grammar.bare) part.bare).isSome
      = (before.textOf? held part).isSome := by
  rw [textOf?, h.size_slots, h.size_cells, textOf?]
  exact part.isSome_text?_bare (h.isSome_linkText? held _)

theorem openCell (h : before.Bares before') (body : Grammar) :
    (before.openCell body).Bares (before'.openCell body.bare) := by
  show before'.clearJournal.openCell body.bare = _
  rw [h, bare, bare, mapGrammars_openCell]
  rfl

theorem storeParser (h : before.Bares before') (label : String) (built : Grammar) :
    (before.storeParser label built).Bares (before'.storeParser label built.bare) := by
  show before'.clearJournal.storeParser label built.bare = _
  rw [h, bare, bare, mapGrammars_storeParser]
  rfl

theorem fillCell (h : before.Bares before') (place : Nat) (built : Grammar) :
    (before.fillCell place built).Bares (before'.fillCell place built.bare) := by
  show before'.clearJournal.fillCell place built.bare = _
  rw [h, bare, bare, mapGrammars_fillCell]
  rfl

theorem fillProduction (h : before.Bares before') (place index : Nat) (built : Grammar) :
    (before.fillProduction place index built).Bares
      (before'.fillProduction place index built.bare) := by
  show before'.clearJournal.fillProduction place index built.bare = _
  rw [h, bare, bare, mapGrammars_fillProduction]
  rfl

end Workspace.Bares

/-! ### Runs and their bare versions -/

namespace Run

/-- Results of runs that did the same. -/
inductive Results (R : α → α' → Prop) :
    EStateM.Result Fault Workspace α → EStateM.Result Fault Workspace α' → Prop where
  | ok {a : α} {a' : α'} {after after' : Workspace} (hvalue : R a a')
      (hafter : after.Bares after') : Results R (.ok a after) (.ok a' after')
  | error (fault : Fault) {after after' : Workspace} (hafter : after.Bares after') :
      Results R (.error fault after) (.error fault after')

theorem Results.exists_of_ok {R : α → α' → Prop} {a : α} {after : Workspace}
    {result' : EStateM.Result Fault Workspace α'} (h : Results R (.ok a after) result') :
    ∃ a' after', result' = .ok a' after' ∧ R a a' ∧ after.Bares after' := by
  cases h with
  | ok ha hafter => exact ⟨_, _, rfl, ha, hafter⟩

theorem Results.exists_of_error {R : α → α' → Prop} {fault : Fault} {after : Workspace}
    {result' : EStateM.Result Fault Workspace α'} (h : Results R (.error fault after) result') :
    ∃ after', result' = .error fault after' ∧ after.Bares after' := by
  cases h with
  | error _ hafter => exact ⟨_, rfl, hafter⟩

theorem Results.imp {R S : α → α' → Prop} {result : EStateM.Result Fault Workspace α}
    {result' : EStateM.Result Fault Workspace α'} (h : Results R result result')
    (himp : ∀ a a', R a a' → S a a') : Results S result result' := by
  cases h with
  | ok ha hafter => exact .ok (himp _ _ ha) hafter
  | error fault hafter => exact .error fault hafter

theorem Results.bind {R : α → α' → Prop} {S : β → β' → Prop} {run : Run α} {run' : Run α'}
    {next : α → Run β} {next' : α' → Run β'} {before before' : Workspace}
    (hrun : Results R (run before) (run' before'))
    (hnext : ∀ a a' between between', run before = .ok a between → R a a' →
      between.Bares between' → Results S (next a between) (next' a' between')) :
    Results S ((run >>= next) before) ((run' >>= next') before') := by
  cases hresult : run before with
  | ok a between =>
      rw [hresult] at hrun
      obtain ⟨a', between', hresult', ha, hbetween⟩ := hrun.exists_of_ok
      rw [bind_of_ok hresult, bind_of_ok hresult']
      exact hnext a a' between between' hresult ha hbetween
  | error fault between =>
      rw [hresult] at hrun
      obtain ⟨between', hresult', hbetween⟩ := hrun.exists_of_error
      rw [bind_of_error hresult, bind_of_error hresult']
      exact .error fault hbetween

def barely : Lockstep Run Run where
  Relates R run run' := ∀ before before', before.Bares before' →
    Results R (run before) (run' before')
  pure ha _ _ h := .ok ha h
  bind hrun hnext before before' h :=
    (hrun before before' h).bind fun a a' between between' _ ha => hnext a a' ha between between'

abbrev BareGrammar (grammar grammar' : Grammar) : Prop := grammar' = grammar.bare

theorem barely_get : barely.Relates Workspace.Bares get get := fun _ _ h => .ok h h

theorem barely_modify {change change' : Workspace → Workspace}
    (h : ∀ before before', before.Bares before' → (change before).Bares (change' before')) :
    barely.Relates Eq (modify change) (modify change') := fun before before' hbares =>
  .ok rfl (h before before' hbares)

theorem barely_throw (R : α → α' → Prop) (fault : Fault) :
    barely.Relates R (throw fault) (throw fault) := fun _ _ h => .error fault h

theorem barely_demand (fault : Fault) (f : α → α') (value? : Option α) :
    barely.Relates (fun a a' => a' = f a) (demand fault value?) (demand fault (value?.map f)) := by
  cases value? with
  | none => exact barely_throw _ fault
  | some a => exact barely.pure rfl

theorem barely_demand_self (fault : Fault) (value? : Option α) :
    barely.Relates (fun a a' => a' = a) (demand fault value?) (demand fault value?) := by
  have hdemand := barely_demand fault id value?
  rwa [Option.map_id] at hdemand

theorem barely_demandText (held : List Grammar) (part : Grammar) :
    barely.Relates (fun _ _ => True)
      (do demand .unprintable ((← get).textOf? held part))
      (do demand .unprintable ((← get).textOf? (held.map Grammar.bare) part.bare)) := by
  refine barely.bind barely_get fun now now' hnow => ?_
  have hsome := hnow.isSome_textOf? held part
  cases htext : now.textOf? held part <;>
    cases htext' : now'.textOf? (held.map Grammar.bare) part.bare <;> rw [htext, htext'] at hsome
  · exact barely_throw _ _
  · cases hsome
  · cases hsome
  · exact barely.pure trivial

theorem barely_demandAlive (held : List Grammar) (keepable : Keepable) (fault : Fault) :
    barely.Relates Eq (demandAlive held keepable fault)
      (demandAlive (held.map Grammar.bare) keepable fault) := by
  refine barely.bind barely_get fun now now' hnow => ?_
  rw [hnow.isAlive]
  split
  · exact barely.pure rfl
  · exact barely_throw _ fault

end Run

/-! ### Linking -/

theorem Name.resolve_barely (home? : Option Nat) (name : Name) :
    Run.barely.Relates Run.BareGrammar (name.resolve home?) (name.resolve home?) := by
  refine Run.barely.bind Run.barely_get fun now now' hnow => ?_
  cases name with
  | rule label | handle label =>
      rw [hnow.rules]
      exact Run.barely.map (Run.barely_demand_self _ _) fun _ _ hplace => by rw [hplace]; rfl
  | parser label =>
      show Run.barely.Relates _ _ (Run.demand _ (now'.parsers.find? label))
      rw [hnow.parsers]
      exact Run.barely_demand _ Grammar.bare _
  | production owner label =>
      rw [hnow.moduleNames]
      refine Run.barely.bind (Run.barely_demand_self _ _) fun place place' hplace => ?_
      rw [hplace, hnow.productionIndex?]
      exact Run.barely.map (Run.barely_demand_self _ _) fun _ _ hindex => by rw [hindex]; rfl
  | sibling label =>
      rw [hnow.siblingsAt]
      exact Run.barely.map (Run.barely_demand_self _ _) fun _ _ htarget => by rw [htarget]; rfl

theorem Grammar.link_barely (home? : Option Nat) : ∀ grammar : Grammar,
    Run.barely.Relates Run.BareGrammar (grammar.link home?) (grammar.bare.link home?)
  | .leaf _ | .linked _ => Run.barely.pure rfl
  | .unary _ part | .traced _ part =>
      Run.barely.map (part.link_barely home?) fun _ _ hpart => by rw [hpart]; rfl
  | .binary _ first second =>
      Run.barely.bind (first.link_barely home?) fun _ _ hfirst =>
        Run.barely.map (second.link_barely home?) fun _ _ hsecond => by rw [hfirst, hsecond]; rfl
  | .bind part next =>
      Run.barely.bind (part.link_barely home?) fun _ _ hpart =>
        Run.barely.map Run.barely_get fun _ _ hnow => by
          rw [hpart, hnow.siblingsAt, next.anchor_bare]
          rfl
  | .deferred part =>
      Run.barely.map Run.barely_get fun _ _ hnow => by
        rw [hnow.siblingsAt, part.anchor_bare]
        rfl
  | .deferredOnce part => by
      refine Run.barely.bind Run.barely_get fun now now' hnow => ?_
      refine Run.barely.bind Run.barely_get fun later later' hlater => ?_
      rw [hnow.siblingsAt, part.anchor_bare, hlater.size_cells]
      refine Run.barely.bind (Run.barely_modify fun _ _ h => h.openCell _) fun _ _ _ => ?_
      exact Run.barely.pure rfl
  | .named name => name.resolve_barely home?
  | .siblingOr name otherwise => by
      refine Run.barely.bind Run.barely_get fun now now' hnow => ?_
      rw [hnow.siblingsAt]
      cases now.siblingsAt home? name with
      | none => exact otherwise.link_barely home?
      | some target => exact Run.barely.pure rfl
  | .shared name part => by
      refine Run.barely.bind (part.link_barely home?) fun built built' hbuilt => ?_
      rw [hbuilt]
      exact Run.barely.bind (Run.barely_modify fun _ _ h => h.storeParser name built) fun _ _ _ =>
        Run.barely.pure rfl

namespace Run

theorem build_barely (site site' : Site) (home? : Option Nat) (part : Grammar) :
    barely.Relates BareGrammar (build site home? part) (build site' home? part.bare) :=
  barely.bind (barely_modify fun _ _ h => h.modifyJournal _ _) fun _ _ _ => part.link_barely home?

theorem partContent_barely (part : Grammar) :
    barely.Relates BareGrammar (partContent part) (partContent part.bare) :=
  barely.bind (barely_modify fun _ _ h => h.modifyJournal _ _) fun _ _ _ => build_barely _ _ _ part

theorem cellContent_barely (place : Nat) :
    barely.Relates BareGrammar (cellContent place) (cellContent place) := by
  refine barely.bind (barely_modify fun _ _ h => h.modifyJournal _ _) fun _ _ _ => ?_
  refine barely.bind barely_get fun now now' hnow => ?_
  rw [hnow.cells]
  refine barely.bind (barely_demand _ _ _) fun cell cell' hcell => ?_
  obtain ⟨body, built?⟩ := cell
  rw [hcell]
  cases built? with
  | some built => exact barely.pure rfl
  | none =>
      refine barely.bind (build_barely _ _ none body) fun built built' hbuilt => ?_
      rw [hbuilt]
      exact barely.bind (barely_modify fun _ _ h => h.fillCell place built) fun _ _ _ =>
        barely.pure rfl

theorem productionContent_barely (place index : Nat) :
    barely.Relates BareGrammar (productionContent place index) (productionContent place index) := by
  refine barely.bind (barely_modify fun _ _ h => h.modifyJournal _ _) fun _ _ _ => ?_
  refine barely.bind barely_get fun now now' hnow => ?_
  rw [hnow.productionContent?]
  cases now.productionContent? place index with
  | some built => exact barely.pure rfl
  | none =>
      refine barely.bind barely_get fun later later' hlater => ?_
      rw [hlater.definition?]
      refine barely.bind (barely_demand _ _ _) fun definition definition' hdefinition => ?_
      rw [hdefinition]
      refine barely.bind (build_barely _ _ (some place) definition) fun built built' hbuilt => ?_
      rw [hbuilt]
      exact barely.bind (barely_modify fun _ _ h => h.fillProduction place index built)
        fun _ _ _ => barely.pure rfl

end Run

theorem Link.opened_barely (held : List Grammar) (target : Link) :
    Run.barely.Relates
      (fun opened opened' => opened'.1 = opened.1.map Grammar.bare ∧ opened'.2 = opened.2.bare)
      (target.opened held) (target.opened (held.map Grammar.bare)) := by
  cases target with
  | rule place =>
      refine Run.barely.bind Run.barely_get fun now now' hnow => ?_
      rw [hnow.pattern?]
      exact Run.barely.map (Run.barely_demand _ _ _) fun _ _ hpattern => ⟨rfl, hpattern⟩
  | handle place =>
      refine Run.barely.bind (Run.barely_demandAlive held _ _) fun _ _ _ => ?_
      refine Run.barely.bind Run.barely_get fun now now' hnow => ?_
      rw [hnow.pattern?]
      exact Run.barely.map (Run.barely_demand _ _ _) fun _ _ hpattern => ⟨rfl, hpattern⟩
  | cell place =>
      exact Run.barely.map (Run.cellContent_barely place) fun _ _ hbuilt => ⟨rfl, hbuilt⟩
  | production place index =>
      refine Run.barely.map (Run.productionContent_barely place index) fun _ _ hbuilt => ?_
      rw [hbuilt]
      exact ⟨rfl, rfl⟩
  | reference place index =>
      refine Run.barely.bind (Run.barely_demandAlive held _ _) fun _ _ _ => ?_
      refine Run.barely.map (Run.productionContent_barely place index) fun _ _ hbuilt => ?_
      rw [hbuilt]
      exact ⟨rfl, rfl⟩

/-! ### Leaves and operators -/

abbrev BareValue (value value' : Value) : Prop := value' = value.bare

theorem forall₂_bareValue {values values' : List Value}
    (h : List.Forall₂ BareValue values values') :
    Value.list values' = (Value.list values).bare := by
  rw [Value.bare, Value.bareAll_eq_map]
  congr 1
  induction h with
  | nil => rfl
  | cons hvalue _ ih => rw [List.map_cons, hvalue, ih]

section Operators

variable {m m' : Type → Type} [Monad m] [Monad m'] {lockstep : Lockstep m m'} {chain : Chain}

private theorem size_bare (chain : Chain) : chain.size = chain.bare.size :=
  Array.size_map.symm

theorem consume_barely {accepts : Token → Bool} (h : ∀ token, accepts token.bare = accepts token) :
    lockstep.Parsers chain chain.bare (fun occurrence occurrence' => occurrence' = occurrence.bare)
      (Parser.consume accepts) (Parser.consume accepts) := by
  intro start
  rw [Parser.consume, Parser.consume, Chain.getElem?_bare]
  refine lockstep.pure ?_
  cases chain[start]? with
  | none => exact .failure _ _
  | some token =>
      simp only [Option.map_some, h]
      split
      · exact .success _ _ (.cons ⟨rfl, rfl, rfl⟩ .nil)
      · exact .failure _ _

theorem Leaf.parser_barely (matcher : Leaf) :
    lockstep.Parsers chain chain.bare BareValue matcher.parser matcher.bare.parser := by
  have htoken : ∀ {accepts : Token → Bool}, (∀ token, accepts token.bare = accepts token) →
      lockstep.Parsers chain chain.bare BareValue ((Parser.consume accepts).map Value.token)
        ((Parser.consume accepts).map Value.token) := fun h =>
    (consume_barely h).map fun _ _ hoccurrence => by rw [hoccurrence]; rfl
  cases matcher with
  | nothing | succeed => exact .succeed rfl
  | fail => exact fun start => lockstep.pure (.failure _ _)
  | literal | kind => exact htoken fun _ => rfl
  | range low high =>
      refine Lockstep.Parsers.map (R := fun occurrence occurrence' => occurrence' = occurrence.bare)
        (fun start => ?_) fun _ _ hoccurrence => by rw [hoccurrence]; rfl
      rw [Parser.range, Parser.range]
      split
      · exact lockstep.pure (.failure _ _)
      · exact consume_barely (fun _ => rfl) start

variable [LawfulMonad m] [LawfulMonad m'] {p q : Parser m Value} {p' q' : Parser m' Value}
  (hp : lockstep.Parsers chain chain.bare BareValue p p')

include hp

theorem UnaryOperator.parser_barely {operator : UnaryOperator}
    (hoperator : operator ≠ .spanned .offsets) :
    lockstep.Parsers chain chain.bare BareValue (operator.parser p) (operator.bare.parser p') := by
  have hoption : ∀ value? value'?, Option.Rel BareValue value? value'? →
      Value.ofOption value'? = (Value.ofOption value?).bare := by
    rintro _ _ (⟨⟨⟩⟩ | _) <;> rfl
  cases operator with
  | mapped transform => exact hp.map fun _ _ hvalue => by rw [hvalue, transform.apply_bare]
  | spanned view =>
      have hview : view ≠ .offsets := fun heq => hoperator (by rw [heq])
      refine hp.mapCandidate fun candidate candidate' hcandidate => ?_
      rw [hcandidate.value, ← hcandidate.start, ← hcandidate.stop]
      exact SpanView.apply_bare hview chain _ _ _
  | optional => exact hp.optional.map hoption
  | optionalGreedy => exact hp.optionalGreedy.map hoption
  | manyShortestFirst =>
      exact (hp.manyShortestFirst (size_bare chain)).map fun _ _ => forall₂_bareValue
  | manyLongestFirst =>
      exact (hp.manyLongestFirst (size_bare chain)).map fun _ _ => forall₂_bareValue
  | manyGreedy => exact (hp.manyGreedy (size_bare chain)).map fun _ _ => forall₂_bareValue
  | exactly count => exact (hp.exactly count).map fun _ _ => forall₂_bareValue
  | grouped => exact hp.grouped.map fun _ _ => forall₂_bareValue
  | relabelled message => exact hp.relabel message ""
  | recovered message value => exact hp.recover message "" rfl

theorem BinaryOperator.parser_barely (hq : lockstep.Parsers chain chain.bare BareValue q q')
    (operator : BinaryOperator) :
    lockstep.Parsers chain chain.bare BareValue (operator.parser p q) (operator.parser p' q') := by
  have hfold : ∀ (fold : Fold) (total total' next next' : Value), BareValue total total' →
      BareValue next next' → BareValue (fold.apply total next) (fold.apply total' next') := by
    rintro fold total _ next _ rfl rfl
    exact fold.apply_bare total next
  cases operator with
  | seq => exact (hp.seq hq).map fun _ _ hpair => congr (congrArg Value.pair hpair.1) hpair.2
  | seqLeft => exact hp.seqLeft hq
  | seqRight => exact hp.seqRight hq
  | either => exact hp.either hq
  | orElse => exact hp.orElse hq
  | separated =>
      exact (hp.headed ((hq.seqRight hp).manyLongestFirst (size_bare chain))).map
        fun _ _ => forall₂_bareValue
  | separatedGreedy =>
      exact (hp.headed ((hq.seqRight hp).manyGreedy (size_bare chain))).map
        fun _ _ => forall₂_bareValue
  | separatedExactly count =>
      exact (hp.separatedExactly hq count).map fun _ _ => forall₂_bareValue
  | folded fold => exact hp.foldedAll (hfold fold) (hq.manyLongestFirst (size_bare chain))
  | foldedGreedy fold => exact hp.foldedAll (hfold fold) (hq.manyGreedy (size_bare chain))

end Operators

/-! ### Parses -/

def Grammar.showsNoOffsets : Grammar → Bool
  | .unary (.spanned .offsets) _ => false
  | _ => true

theorem Grammar.hereditary_showsNoOffsets : Grammar.Hereditary showsNoOffsets := by
  refine ⟨⟨?_, ?_, ?_, ?_, ?_⟩, ?_, ?_, ?_, ?_⟩ <;> intros <;> rfl

namespace Workspace

/-- Whether a grammar comprises no part whose offsets are shown. -/
def Offsetless (workspace : Workspace) (root : Grammar) : Prop :=
  ∀ {home? : Option Nat} {part : Grammar},
    ¬ workspace.Comprises root home? (.unary (.spanned .offsets) part)

theorem offsetless_of_all {workspace : Workspace} {root : Grammar}
    (hworkspace : workspace.All Grammar.showsNoOffsets)
    (hroot : root.all Grammar.showsNoOffsets) : workspace.Offsetless root := by
  intro home? part hcomprises
  cases Grammar.of_all (hcomprises.all Grammar.hereditary_showsNoOffsets hworkspace hroot)

end Workspace

section Parsing

variable {workspace : Workspace} {root : Grammar} {chain : Chain} {enter : Enter}

namespace Run

/-- Runs that do the same in a workspace that has got at least as far as a base and in its bare
version, and get on from there. -/
def barelyFrom (workspace : Workspace) (root : Grammar) (base : Workspace) : Lockstep Run Run where
  Relates R run run' := ∀ before before', workspace.Follows root before → base.Grows before →
    before.Bares before' → Results R (run before) (run' before') ∧
      ∀ a after, run before = .ok a after → workspace.Follows root after ∧ before.Grows after
  pure ha before before' hfollows _ hbares := by
    refine ⟨.ok ha hbares, fun a after hrun => ?_⟩
    obtain ⟨rfl, rfl⟩ := pure_eq_ok_iff.1 hrun
    exact ⟨hfollows, .refl _⟩
  bind hrun hnext before before' hfollows hbase hbares := by
    obtain ⟨hresults, hgets⟩ := hrun before before' hfollows hbase hbares
    refine ⟨hresults.bind fun a a' between between' hfirst ha hbares' => ?_,
      fun b after hbind => ?_⟩
    · obtain ⟨hfollows', hgrows⟩ := hgets a between hfirst
      exact (hnext a a' ha between between' hfollows' (hbase.trans hgrows) hbares').1
    · obtain ⟨a, between, hfirst, hsecond⟩ := bind_eq_ok_iff.1 hbind
      obtain ⟨hfollows', hgrows⟩ := hgets a between hfirst
      rw [hfirst] at hresults
      obtain ⟨a', between', -, ha, hbares'⟩ := hresults.exists_of_ok
      obtain ⟨hfollows'', hgrows'⟩ :=
        (hnext a a' ha between between' hfollows' (hbase.trans hgrows) hbares').2 b after hsecond
      exact ⟨hfollows'', hgrows.trans hgrows'⟩

/-- A run that leaves a workspace as it is, but for the journal, gets on from there. -/
theorem barelyFrom_of_barely (base : Workspace) {R : α → α' → Prop} {run : Run α} {run' : Run α'}
    (h : barely.Relates R run run')
    (hsame : ∀ before a after, run before = .ok a after →
      ∃ change, after = before.modifyJournal change) :
    (barelyFrom workspace root base).Relates R run run' := by
  refine fun before before' hfollows _ hbares => ⟨h before before' hbares, fun a after hrun => ?_⟩
  obtain ⟨change, rfl⟩ := hsame before a after hrun
  exact ⟨hfollows.modifyJournal change, .refl before⟩

theorem barelyFrom_note (base : Workspace) (change change' : Journal → Journal) :
    (barelyFrom workspace root base).Relates Eq (modify (·.modifyJournal change))
      (modify (·.modifyJournal change')) := by
  refine barelyFrom_of_barely base (barely_modify fun _ _ h => h.modifyJournal _ _) ?_
  rintro before _ _ ⟨⟩
  exact ⟨change, rfl⟩

theorem barelyFrom_parseNoting (base : Workspace) (matcher : Leaf) :
    (barelyFrom workspace root base).Parsers chain chain.bare BareValue matcher.parseNoting
      matcher.bare.parseNoting := by
  refine fun start => (barelyFrom workspace root base).bind (matcher.parser_barely start)
    fun outcome outcome' houtcome => ?_
  cases houtcome with
  | success _ _ hcandidates =>
      exact (barelyFrom workspace root base).pure (.success _ _ hcandidates)
  | failure diagnostic diagnostic' =>
      exact (barelyFrom workspace root base).bind (barelyFrom_note base _ _) fun _ _ _ =>
        (barelyFrom workspace root base).pure (.failure _ _)

theorem barelyFrom_traced {base : Workspace} (held : List Grammar) (label : String)
    (part : Grammar) {p p' : Parser Run Value}
    (hp : (barelyFrom workspace root base).Parsers chain chain.bare BareValue p p') :
    (barelyFrom workspace root base).Parsers chain chain.bare BareValue
      (traced held label part p) (traced (held.map Grammar.bare) label part.bare p') := by
  intro start
  have htext : (barelyFrom workspace root base).Relates (fun _ _ => True)
      (do demand .unprintable ((← get).textOf? held part))
      (do demand .unprintable ((← get).textOf? (held.map Grammar.bare) part.bare)) := by
    refine barelyFrom_of_barely base (barely_demandText held part) fun before text after hrun => ?_
    obtain ⟨now, _, hget, hrun⟩ := bind_eq_ok_iff.1 hrun
    cases hget
    exact ⟨id, (demand_eq_ok_iff.1 hrun).2.symm⟩
  have htraced : ∀ held part (p : Parser Run Value) (chain : Chain),
      traced held label part p chain start
        = (do demand .unprintable ((← get).textOf? held part)) >>= fun text => do
            noteEvent (.entered label text start)
            let outcome ← p chain start
            noteEvent (.ofOutcome label outcome)
            return outcome := by
    intro held part p chain
    simp only [traced, bind_assoc]
  rw [htraced, htraced]
  refine (barelyFrom workspace root base).bind htext fun _ _ _ => ?_
  refine (barelyFrom workspace root base).bind (barelyFrom_note base _ _) fun _ _ _ => ?_
  refine (barelyFrom workspace root base).bind (hp start) fun outcome outcome' houtcome => ?_
  exact (barelyFrom workspace root base).bind (barelyFrom_note base _ _) fun _ _ _ =>
    (barelyFrom workspace root base).pure houtcome

end Run

/-- Whether going on with a construction is the same as going on with it when it is bare. -/
def Enter.Barely (workspace : Workspace) (root : Grammar) (chain : Chain) (enter : Enter) : Prop :=
  ∀ (base : Workspace) (held : List Grammar) {home? : Option Nat} {grammar built : Grammar}
    (start : Cursor), workspace.Comprises root home? grammar →
    Builds workspace root base.body? home? grammar built →
    (Run.barelyFrom workspace root base).Relates (Outcome.Alike BareValue)
      (enter held built chain start)
      (enter (held.map Grammar.bare) built.bare chain.bare start)

theorem Enter.Barely.of_entered (henter : enter.Barely workspace root chain) {base : Workspace}
    {γ : Type} {run run' : Run γ}
    (hold hold' : γ → List Grammar) (content content' : γ → Grammar) {start : Cursor}
    (hrun : Run.barely.Relates
      (fun c c' => hold' c' = (hold c).map Grammar.bare ∧ content' c' = (content c).bare) run run')
    (hlinked : ∀ before c after, workspace.Follows root before → base.Grows before →
      run before = .ok c after → ∃ home? grammar, workspace.Comprises root home? grammar ∧
        Linked workspace root home? grammar before (content c) after) :
    (Run.barelyFrom workspace root base).Relates (Outcome.Alike BareValue)
      (run >>= fun c => enter (hold c) (content c) chain start)
      (run' >>= fun c' => enter (hold' c') (content' c') chain.bare start) := by
  intro before before' hfollows hbase hbares
  have hresults := hrun before before' hbares
  refine ⟨hresults.bind fun c c' between between' hopened hc hbetween => ?_,
    fun outcome after hbind => ?_⟩
  · obtain ⟨_, _, hcomprises, h⟩ := hlinked before c between hfollows hbase hopened
    rw [hc.1, hc.2]
    exact (henter between (hold c) start hcomprises h.builds between between' h.follows (.refl _)
      hbetween).1
  · obtain ⟨c, between, hopened, hentered⟩ := Run.bind_eq_ok_iff.1 hbind
    obtain ⟨_, _, hcomprises, h⟩ := hlinked before c between hfollows hbase hopened
    rw [hopened] at hresults
    obtain ⟨c', between', -, -, hbetween⟩ := hresults.exists_of_ok
    obtain ⟨hfollows', hgrows⟩ := (henter between (hold c) start hcomprises h.builds between
      between' h.follows (.refl _) hbetween).2 outcome after hentered
    exact ⟨hfollows', h.grows.trans hgrows⟩

theorem Enter.Barely.of_built (henter : enter.Barely workspace root chain) {base : Workspace}
    {held : List Grammar} {run run' : Run Grammar} {start : Cursor}
    (hrun : Run.barely.Relates Run.BareGrammar run run')
    (hlinked : ∀ before built after, workspace.Follows root before →
      run before = .ok built after → ∃ home? grammar, workspace.Comprises root home? grammar ∧
        Linked workspace root home? grammar before built after) :
    (Run.barelyFrom workspace root base).Relates (Outcome.Alike BareValue)
      (run >>= fun built => enter (built :: held) built chain start)
      (run' >>= fun built => enter (built :: held.map Grammar.bare) built chain.bare start) := by
  refine henter.of_entered (· :: held) (· :: held.map Grammar.bare) id id
    (fun before before' hbares => ?_) fun before built after hfollows _ => hlinked _ _ _ hfollows
  exact (hrun before before' hbares).imp fun built built' hbuilt => ⟨by rw [hbuilt]; rfl, hbuilt⟩

theorem Enter.Barely.link (henter : enter.Barely workspace root chain) {base : Workspace}
    {held : List Grammar} {home? : Option Nat} {grammar : Grammar} {target : Link} {start : Cursor}
    (hcomprises : workspace.Comprises root home? grammar)
    (hopens : ∀ before opened after, workspace.Follows root before → base.Grows before →
      target.opened held before = .ok opened after →
        Opens workspace root home? grammar before opened.2 after) :
    (Run.barelyFrom workspace root base).Relates (Outcome.Alike BareValue)
      (target.parser enter held chain start)
      (target.parser enter (held.map Grammar.bare) chain.bare start) := by
  rw [Link.parser_eq_opened, Link.parser_eq_opened]
  refine henter.of_entered Prod.fst Prod.fst Prod.snd Prod.snd
    (target.opened_barely held) fun before opened after hfollows hbase hopened => ?_
  exact (hopens before opened after hfollows hbase hopened).exists_linked hcomprises

theorem Grammar.parser_barely (hoffsets : workspace.Offsetless root)
    (henter : enter.Barely workspace root chain) {base : Workspace} {held : List Grammar}
    {home? : Option Nat} {grammar built : Grammar}
    (hbuilds : Builds workspace root base.body? home? grammar built)
    (hcomprises : workspace.Comprises root home? grammar) :
    (Run.barelyFrom workspace root base).Parsers chain chain.bare BareValue
      (built.parser enter held) (built.bare.parser enter (held.map Grammar.bare)) := by
  induction hbuilds with
  | leaf => exact Run.barelyFrom_parseNoting base _
  | unary _ ih =>
      refine UnaryOperator.parser_barely (ih hcomprises.part) ?_
      rintro rfl
      exact hoffsets hcomprises
  | binary _ _ ihfirst ihsecond =>
      exact BinaryOperator.parser_barely (ihfirst hcomprises.first) (ihsecond hcomprises.second) _
  | bind _ hnext ih =>
      refine (ih hcomprises.selecting).bind fun value value' hvalue start => ?_
      rw [hvalue, Selector.select_bare]
      have hselected := hcomprises.selected value
      refine henter.of_built (Grammar.link_barely none _)
        fun before built after hfollows hlink => ?_
      exact ⟨_, _, hselected, Grammar.link_builds _ hselected (hnext value) hfollows hlink⟩
  | traced _ ih => exact Run.barelyFrom_traced held _ _ (ih (hcomprises.unfolded rfl))
  | deferred hpart =>
      refine fun start => henter.of_built (Run.partContent_barely _)
        fun before built after hfollows hcontent => ?_
      exact (Run.partContent_builds hcomprises hpart hfollows hcontent).exists_linked hcomprises
  | opened hplace hbody hpart =>
      refine fun start => henter.link hcomprises
        fun before opened after hfollows hbase hopened => ?_
      exact Link.opened_cell_builds hcomprises hplace hbody hpart hfollows hbase hopened
  | linked =>
      exact fun start => henter.link hcomprises fun before opened after hfollows _ hopened =>
        Link.opened_builds hcomprises hfollows hopened
  | standing _ hstands _ ih => exact ih (hcomprises.standsFor hstands)
  | named | siblingOr | shared | deferredOnce =>
      exact fun _ _ _ _ _ hbares => ⟨.error _ hbares, by rintro _ _ ⟨⟩⟩

theorem Grammar.parseWithin_barely (hoffsets : workspace.Offsetless root) (depth : Nat) :
    Enter.Barely workspace root chain (Grammar.parseWithin depth) := by
  induction depth with
  | zero => exact fun _ _ _ _ _ _ _ _ _ _ _ _ hbares => ⟨.error .endless hbares, nofun⟩
  | succ depth ih =>
      intro base held home? grammar built start hcomprises hbuilds
      exact Grammar.parser_barely hoffsets ih hbuilds hcomprises start

/-- A parse does the same as a parse with the bare grammar on the bare chain. -/
theorem Grammar.results_bare (hoffsets : workspace.Offsetless root) (depth : Nat)
    (held : List Grammar) (start : Cursor) :
    Run.Results (Outcome.Alike BareValue)
      (root.parseWithin depth held chain start workspace)
      (root.bare.parseWithin depth (held.map Grammar.bare) chain.bare start workspace.bare) :=
  (Grammar.parseWithin_barely hoffsets depth workspace held start .root (.refl _ root) workspace
    workspace.bare (.refl workspace root) (.refl workspace) (.of_bare workspace)).1

end Parsing

/-! ### Two parses -/

theorem forall₂_of_common {γ : Type} {R : α → γ → Prop} {S : β → γ → Prop} {T : α → β → Prop}
    (h : ∀ a b c, R a c → S b c → T a b) {as : List α} {bs : List β} {cs : List γ}
    (has : List.Forall₂ R as cs) (hbs : List.Forall₂ S bs cs) : List.Forall₂ T as bs := by
  induction has generalizing bs with
  | nil =>
      cases hbs
      exact .nil
  | cons ha _ ih =>
      cases hbs with
      | cons hb hbs => exact .cons (h _ _ _ ha hb) (ih hbs)

/-- Whether two values are the same but for the positions of tokens. -/
def Value.SameBare (value value' : Value) : Prop := value.bare = value'.bare

theorem Outcome.Alike.sameBare {outcome outcome' bare : Outcome Value}
    (h : outcome.Alike BareValue bare) (h' : outcome'.Alike BareValue bare) :
    outcome.Alike Value.SameBare outcome' := by
  cases h with
  | failure =>
      cases h' with
      | failure => exact .failure _ _
  | success _ _ hcandidates =>
      cases h' with
      | success _ _ hcandidates' =>
          refine .success _ _ (forall₂_of_common (fun a b c ha hb => ?_) hcandidates hcandidates')
          exact ⟨ha.start.trans hb.start.symm, ha.stop.trans hb.stop.symm,
            ha.value.symm.trans hb.value⟩

theorem Outcome.Alike.complete {R : α → α' → Prop} {outcome : Outcome α} {outcome' : Outcome α'}
    (h : outcome.Alike R outcome') {chain chain' : Chain} (hsize : chain.size = chain'.size) :
    (outcome.complete chain).Alike R (outcome'.complete chain') := by
  cases h with
  | failure => exact .failure _ _
  | success _ _ hcandidates =>
      refine .settle (List.rel_filter (fun candidate candidate' hcandidate => ?_) hcandidates) _ _
      simp [Candidate.stoppedEarly?, hsize, hcandidate.stop]

/-- Repetitions and groups tell tokens apart by their ordinals: whatever the tokens of two chains of
one length are, and wherever they stand, repeating or grouping parts that are read alike is
alike. -/
def Lockstep.TellsApartByOrdinals (lockstep : Lockstep Run Run) : Prop :=
  ∀ {chain chain' : Chain} {R : Value → Value → Prop} {p p' : Parser Run Value},
    chain.size = chain'.size → lockstep.Parsers chain chain' R p p' →
    lockstep.Parsers chain chain' (List.Forall₂ R) p.grouped p'.grouped ∧
      lockstep.Parsers chain chain' (List.Forall₂ R) p.manyShortestFirst p'.manyShortestFirst ∧
      lockstep.Parsers chain chain' (List.Forall₂ R) p.manyLongestFirst p'.manyLongestFirst ∧
      lockstep.Parsers chain chain' (List.Forall₂ R) p.manyGreedy p'.manyGreedy

/-- **Neither messages nor positions influence a parse.** If two grammars and what they lead to
differ in messages alone, two chains differ in positions alone, and no offsets are shown, then from
every cursor where one parse ends, the other one ends too, and either both fail or both have the
same candidates in the same order, tokens being told apart by their ordinals; and so it is with the
complete candidates. -/
theorem Grammar.alike_of_bare_eq {root root' : Grammar} {depth : Nat} {held held' : List Grammar}
    {chain chain' : Chain} {start : Cursor} {workspace workspace' after : Workspace}
    {outcome : Outcome Value} (hoffsets : workspace.Offsetless root)
    (hoffsets' : workspace'.Offsetless root') (hroot : root.bare = root'.bare)
    (hheld : held.map Grammar.bare = held'.map Grammar.bare)
    (hworkspace : workspace.bare = workspace'.bare) (hchain : chain.bare = chain'.bare)
    (hrun : root.parseWithin depth held chain start workspace = .ok outcome after) :
    (∃ outcome' after',
      root'.parseWithin depth held' chain' start workspace' = .ok outcome' after' ∧
      after.bare = after'.bare ∧ outcome.Alike Value.SameBare outcome' ∧
      (outcome.complete chain).Alike Value.SameBare (outcome'.complete chain')) ∧
    ∀ lockstep : Lockstep Run Run, lockstep.TellsApartByOrdinals := by
  refine ⟨?_, fun lockstep _ _ _ _ _ hsize hp => ⟨hp.grouped, hp.manyShortestFirst hsize,
    hp.manyLongestFirst hsize, hp.manyGreedy hsize⟩⟩
  have hresults : Run.Results (Outcome.Alike BareValue)
      (root.parseWithin depth held chain start workspace)
      (root.bare.parseWithin depth (held.map Grammar.bare) chain.bare start workspace.bare) :=
    results_bare hoffsets depth held start
  have hresults' : Run.Results (Outcome.Alike BareValue)
      (root'.parseWithin depth held' chain' start workspace')
      (root'.bare.parseWithin depth (held'.map Grammar.bare) chain'.bare start workspace'.bare) :=
    results_bare hoffsets' depth held' start
  rw [hrun] at hresults
  obtain ⟨bare, afterBare, hbare, houtcome, hafter⟩ := hresults.exists_of_ok
  rw [← hroot, ← hheld, ← hworkspace, ← hchain, hbare] at hresults'
  generalize root'.parseWithin depth held' chain' start workspace' = result' at hresults'
  cases hresults' with
  | ok houtcome' hafter' =>
      have halike := houtcome.sameBare houtcome'
      exact ⟨_, _, rfl, hafter.symm.trans hafter', halike,
        halike.complete (Chain.size_eq_of_bare_eq hchain)⟩

/-- Two letters, one behind the other or both at one place, and groups of their beginnings by a rule
that complains in one way or another. -/
theorem Grammar.alike_of_bare_eq_letters :
    ∃ (chain chain' : Chain) (workspace workspace' after after' : Workspace) (letters : Grammar)
      (outcome outcome' : Outcome Value),
      chain ≠ chain' ∧ letters.parseWithin 2 [] chain 0 workspace = .ok outcome after ∧
        letters.parseWithin 2 [] chain' 0 workspace' = .ok outcome' after' ∧
        outcome.candidates.map (·.stop) = [0, 1, 2] ∧
        outcome.Alike Value.SameBare outcome' := by
  let letter (index : Nat) : Token := ⟨"letter", "a", ⟨index, 1, 1, 1, 2⟩⟩
  let pattern (message : String) : Grammar := .unary .grouped
    (.unary .manyShortestFirst (.unary (.relabelled message) (.leaf (.literal "a"))))
  have hoffsets : ∀ message,
      Workspace.Offsetless { slots := #[some (pattern message)] } (.linked (.rule 0)) :=
    fun message => Workspace.offsetless_of_all (Workspace.all_of_slot rfl) rfl
  have hworkspace : Workspace.bare { slots := #[some (pattern "a letter")] }
      = Workspace.bare { slots := #[some (pattern "no letter")] } := by
    simp [Workspace.bare, Workspace.mapGrammars, pattern, Grammar.bare, UnaryOperator.bare]
  have hchain : Chain.bare #[letter 0, letter 1] = Chain.bare #[letter 7, letter 7] := by
    simp [Chain.bare, Token.bare, letter]
  have hrun : ∃ outcome after, (Grammar.linked (.rule 0)).parseWithin 2 [] #[letter 0, letter 1] 0
      { slots := #[some (pattern "a letter")] } = .ok outcome after ∧
        outcome.candidates.map (·.stop) = [0, 1, 2] := ⟨_, _, rfl, rfl⟩
  obtain ⟨outcome, after, hrun, hstops⟩ := hrun
  obtain ⟨⟨outcome', after', hrun', -, halike, -⟩, -⟩ := Grammar.alike_of_bare_eq
    (hoffsets "a letter") (hoffsets "no letter") rfl rfl hworkspace hchain hrun
  exact ⟨_, _, _, _, after, after', _, outcome, outcome', by decide, hrun, hrun', hstops, halike⟩

end TokenGrammar
