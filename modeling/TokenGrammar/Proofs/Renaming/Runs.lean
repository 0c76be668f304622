import TokenGrammar.Proofs.Correspondence
import TokenGrammar.Proofs.Induction
import TokenGrammar.Proofs.Matching
import TokenGrammar.Proofs.Renaming.Changes

/-!
# Runs in step

A run in a workspace and the run of the translated grammar in an image of it go step by step: they
end alike, and leave a workspace and its image. The one exception is a traced part that cannot be
printed. Where traces are left out, nothing is printed, and the second run goes on.

The induction over a parse goes over its depth and, at each depth, over the grammar. Links are
opened in step, a traced part is looked at by itself, and all else is left to the combinators.
-/

namespace TokenGrammar

/-! ### Linking in step -/

namespace Translation

variable (t : Translation) {α β : Type}

/-- That a run in a workspace is in step with another run in an image, but for some faults. -/
def Steps (excused : Fault → Prop) (run run' : Run α) (image : α → α) : Prop :=
  InStep t.Carries excused (fun value value' => value' = image value) run run'

variable {t} {excused : Fault → Prop}

theorem steps_get {next next' : Workspace → Run α} {image : α → α}
    (h : ∀ workspace now, t.Carries workspace now →
      t.Steps excused (next workspace) (next' now) image) :
    t.Steps excused (get >>= next) (get >>= next') image :=
  InStep.get h

theorem Steps.bind {run run' : Run α} {next next' : α → Run β} {f : α → α} {g : β → β}
    (h : t.Steps excused run run' f)
    (hnext : ∀ value, t.Steps excused (next value) (next' (f value)) g) :
    t.Steps excused (run >>= next) (run' >>= next') g :=
  InStep.bind h fun value _ heq => heq ▸ hnext value

theorem steps_pure {value value' : α} {image : α → α} (h : value' = image value) :
    t.Steps excused (pure value) (pure value') image :=
  InStep.pure h

theorem steps_throw (fault : Fault) (image : α → α) :
    t.Steps excused (throw fault) (throw fault) image :=
  InStep.throw fault

theorem steps_modify {change change' : Workspace → Workspace}
    (h : ∀ workspace now, t.Carries workspace now → t.Carries (change workspace) (change' now)) :
    t.Steps excused (modify change) (modify change') id :=
  (InStep.modify h).imp fun _ _ _ => rfl

theorem steps_demand {fault : Fault} {value? value'? : Option α} {image : α → α}
    (h : value'? = value?.map image) :
    t.Steps excused (Run.demand fault value?) (Run.demand fault value'?) image := by
  subst h
  cases value? with
  | none => exact steps_throw fault image
  | some value => exact steps_pure rfl

theorem steps_note {change change' : Journal → Journal}
    (h : ∀ journal, change' (t.journal journal) = t.journal (change journal)) :
    t.Steps excused (modify (·.modifyJournal change)) (modify (·.modifyJournal change')) id :=
  steps_modify fun _ _ hcarries => hcarries.modifyJournal (h _)

theorem steps_noteEntry (site : Site) :
    t.Steps excused (Run.noteEntry site) (Run.noteEntry (t.site site)) id :=
  steps_note fun _ => rfl

theorem steps_noteBuild (site : Site) :
    t.Steps excused (Run.noteBuild site) (Run.noteBuild (t.site site)) id :=
  steps_note fun _ => rfl

theorem steps_noteMiss (diagnostic : Diagnostic) :
    t.Steps excused (Run.noteMiss diagnostic) (Run.noteMiss diagnostic) id :=
  steps_note fun _ => rfl

theorem steps_resolve (home? : Option Nat) (name : Name) :
    t.Steps excused (name.resolve home?) (name.resolve home?) (·.translate t) := by
  intro workspace image hcarries
  unfold InStepFrom Lands
  rw [name.resolve_eq, name.resolve_eq, hcarries.bound?]
  cases workspace.bound? home? name with
  | some found => exact ⟨_, image, rfl, rfl, hcarries⟩
  | none => exact .inr ⟨image, rfl, hcarries⟩

theorem steps_link (home? : Option Nat) : ∀ grammar : Grammar,
    t.Steps excused (grammar.link home?) ((grammar.translate t).link home?) (·.translate t)
  | .leaf _ | .linked _ => steps_pure rfl
  | .unary _ part => (steps_link home? part).bind fun _ => steps_pure rfl
  | .binary _ first second =>
      (steps_link home? first).bind fun _ => (steps_link home? second).bind fun _ => steps_pure rfl
  | .bind part next => by
      refine (steps_link home? part).bind fun built => steps_get fun workspace image hcarries => ?_
      refine steps_pure ?_
      rw [hcarries.siblingsAt, next.anchor_translate]
      rfl
  | .traced label part => by
      have htrace : (t.trace label (part.translate t)).link home?
          = (part.translate t).link home? >>= fun built => pure (t.trace label built) := by
        unfold trace
        split
        · rfl
        · exact (bind_pure _).symm
      rw [Grammar.translate, htrace]
      exact (steps_link home? part).bind fun _ => steps_pure rfl
  | .deferred part => by
      refine steps_get fun workspace image hcarries => steps_pure ?_
      rw [hcarries.siblingsAt, part.anchor_translate]
      rfl
  | .deferredOnce part => by
      refine steps_get fun workspace image hcarries =>
        steps_get fun workspace' image' hcarries' => ?_
      rw [hcarries.siblingsAt, part.anchor_translate]
      refine (steps_modify fun _ _ hnow => hnow.openCell _).bind fun _ => steps_pure ?_
      rw [hcarries'.cells_size, ← t.cell_of_le _ hcarries'.first_le]
      rfl
  | .named name => steps_resolve home? name
  | .siblingOr name otherwise => by
      refine steps_get fun workspace image hcarries => ?_
      rw [hcarries.siblingsAt, siblings]
      cases workspace.siblingsAt home? name with
      | none => exact steps_link home? otherwise
      | some target => exact steps_pure rfl
  | .shared name part => by
      refine (steps_link home? part).bind fun built => ?_
      exact (steps_modify fun _ _ hnow => hnow.storeParser name built).bind fun _ => steps_pure rfl

/-! ### Opening in step -/

theorem steps_build (site : Site) (home? : Option Nat) (part : Grammar) :
    t.Steps excused (Run.build site home? part) (Run.build (t.site site) home? (part.translate t))
      (·.translate t) :=
  (steps_noteBuild site).bind fun _ => steps_link home? part

theorem steps_partContent (part : Grammar) :
    t.Steps excused (Run.partContent part) (Run.partContent (part.translate t)) (·.translate t) :=
  (steps_noteEntry _).bind fun _ => steps_build (.part part) none part

theorem steps_cellContent (place : Nat) :
    t.Steps excused (Run.cellContent place) (Run.cellContent (t.cell place)) (·.translate t) := by
  refine (steps_noteEntry (.cell place)).bind fun _ => steps_get fun workspace image hcarries => ?_
  refine Steps.bind (f := Cell.mapGrammars (·.translate t))
    (steps_demand (hcarries.cells place)) fun cell => ?_
  obtain ⟨body, built?⟩ := cell
  cases built? with
  | some built => exact steps_pure rfl
  | none =>
      refine (steps_build (.cell place) none body).bind fun built => ?_
      exact (steps_modify fun _ _ hnow => hnow.fillCell place built).bind fun _ => steps_pure rfl

theorem steps_productionContent (module index : Nat) :
    t.Steps excused (Run.productionContent module index)
      (Run.productionContent module (t.index module index)) (·.translate t) := by
  refine (steps_noteEntry (.production module index)).bind fun _ =>
    steps_get fun workspace image hcarries => ?_
  rw [hcarries.contents]
  cases workspace.productionContent? module index with
  | some built => exact steps_pure rfl
  | none =>
      refine steps_get fun workspace image hcarries => ?_
      refine (steps_demand (hcarries.definition? module index)).bind fun definition => ?_
      refine (steps_build (.production module index) (some module) definition).bind fun built => ?_
      refine (steps_modify fun _ _ hnow => hnow.fillProduction module index built).bind fun _ => ?_
      exact steps_pure rfl

theorem steps_demandAlive (held : List Grammar) (keepable : Keepable) (fault : Fault) :
    t.Steps excused (Run.demandAlive held keepable fault)
      (Run.demandAlive (held.map (·.translate t)) (t.keepable keepable) fault) id := by
  refine steps_get fun workspace image hcarries => ?_
  rw [hcarries.isAlive]
  split
  · exact steps_pure rfl
  · exact steps_throw fault id

def entered (t : Translation) (opened : List Grammar × Grammar) : List Grammar × Grammar :=
  (opened.1.map (·.translate t), opened.2.translate t)

theorem steps_opened (held : List Grammar) (target : Link) :
    t.Steps excused (target.opened held) ((t.link target).opened (held.map (·.translate t)))
      t.entered := by
  have hpattern (held : List Grammar) (slot : Nat) :
      t.Steps excused (do return (held, ← Run.demand .unsetRule ((← get).pattern? slot)))
        (do return (held.map (·.translate t), ← Run.demand .unsetRule ((← get).pattern? slot)))
        t.entered :=
    steps_get fun workspace image hcarries =>
      (steps_demand (hcarries.patterns slot)).bind fun pattern => steps_pure rfl
  cases target with
  | rule slot => exact hpattern held slot
  | handle slot =>
      refine (steps_demandAlive held (.slot slot) .droppedRule).bind fun _ => ?_
      exact hpattern (.linked (.rule slot) :: held) slot
  | cell place => exact (steps_cellContent place).bind fun built => steps_pure rfl
  | production module index =>
      exact (steps_productionContent module index).bind fun built => steps_pure rfl
  | reference module index =>
      refine (steps_demandAlive held (.module module) .droppedModule).bind fun _ => ?_
      exact (steps_productionContent module index).bind fun built => steps_pure rfl

/-! ### Parsing in step -/

variable (t) (excused) in
def correspondence : Correspondence Run Run where
  Relates run run' := t.Steps excused run run' id
  pure _ := steps_pure rfl
  bind h hnext := h.bind hnext

variable (t) (excused) in
def Enters (enter enter' : Enter) : Prop :=
  ∀ held grammar, (t.correspondence excused).Parsers (enter held grammar)
    (enter' (held.map (·.translate t)) (grammar.translate t))

variable (t) (excused) in
/-- That what becomes of a traced part is in step with what becomes of its translation. -/
def TracesInStep (tracing : Tracing) : Prop :=
  ∀ (held : List Grammar) (label : String) (part : Grammar) {p p' : Parser Run Value},
    (t.correspondence excused).Parsers p p' →
      (t.correspondence excused).Parsers (tracing held label part p)
        (if t.traces then Run.traced (held.map (·.translate t)) label (part.translate t) p' else p')

theorem steps_parseNoting (matcher : Leaf) :
    (t.correspondence excused).Parsers matcher.parseNoting matcher.parseNoting := by
  intro chain start
  refine (t.correspondence excused).bind (Correspondence.Parsers.leaf matcher chain start)
    fun outcome => ?_
  cases outcome with
  | success => exact steps_pure rfl
  | failure diagnostic => exact (steps_noteMiss diagnostic).bind fun _ => steps_pure rfl

/-- A traced part, which may be left without its label: then it is not printed, and nothing is
noted. So there is no fault any more if it cannot be printed. -/
theorem tracesInStep_traced (hexcused : t.traces = false → excused .unprintable) :
    t.TracesInStep excused Run.traced := by
  intro held label part p p' hp chain start
  cases htraces : t.traces with
  | true =>
      have hnote (event : TraceEvent) :
          t.Steps excused (Run.noteEvent event) (Run.noteEvent event) id :=
        steps_note fun journal => by simp [Translation.journal, htraces]
      refine steps_get fun workspace image hcarries => ?_
      rw [hcarries.textOf?]
      refine Steps.bind (steps_demand (Option.map_id' ..).symm) fun text => ?_
      refine (hnote _).bind fun _ => (hp chain start).bind fun outcome => ?_
      exact (hnote _).bind fun _ => steps_pure rfl
  | false =>
      have hprint : InStep t.Carries excused (fun _ _ => True)
          (do Run.demand .unprintable ((← get).textOf? held part)) (pure "" : Run String) := by
        intro workspace image hcarries
        show Lands (Run.demand .unprintable (workspace.textOf? held part)) workspace _ _
        cases workspace.textOf? held part with
        | none => exact .inl (hexcused htraces)
        | some text => exact ⟨"", image, rfl, trivial, hcarries⟩
      have hnote (event : TraceEvent) : t.Steps excused (Run.noteEvent event) (pure ()) id := by
        intro workspace image hcarries
        refine ⟨(), image, rfl, rfl, { hcarries with journal := ?_ }⟩
        simp [hcarries.journal, Translation.journal, Workspace.modifyJournal, htraces]
      have hleft : Run.traced held label part p chain start = do
          let text ← (do Run.demand .unprintable ((← get).textOf? held part))
          Run.noteEvent (.entered label text start)
          let outcome ← p chain start
          Run.noteEvent (.ofOutcome label outcome)
          return outcome := by simp only [Run.traced, bind_assoc]
      have hright : p' chain start = (pure "" : Run String) >>= fun _ => (pure () : Run Unit) >>=
          fun _ => p' chain start >>= fun outcome => (pure () : Run Unit) >>= fun _ =>
            pure outcome := by simp only [pure_bind, bind_pure]
      rw [if_neg Bool.false_ne_true, hleft, hright]
      refine InStep.bind hprint fun text _ _ => (hnote _).bind fun _ => ?_
      exact (hp chain start).bind fun outcome => (hnote _).bind fun _ => steps_pure rfl

theorem parser_trace (t : Translation) (enter : Enter) (held : List Grammar) (label : String)
    (part : Grammar) : (t.trace label part).parser enter held
      = if t.traces then Run.traced held label part (part.parser enter held)
        else part.parser enter held := by
  unfold trace
  split <;> rfl

theorem Enters.parser {tracing : Tracing} (htracing : t.TracesInStep excused tracing)
    {enter enter' : Enter} (henter : t.Enters excused enter enter') (held : List Grammar) :
    ∀ grammar : Grammar, (t.correspondence excused).Parsers
      (grammar.parserTracing tracing enter held)
      ((grammar.translate t).parser enter' (held.map (·.translate t)))
  | .leaf matcher => steps_parseNoting matcher
  | .unary operator part => (henter.parser htracing held part).unary operator
  | .binary operator first second =>
      (henter.parser htracing held first).binary operator (henter.parser htracing held second)
  | .bind part next => by
      refine (henter.parser htracing held part).bind fun value chain start => ?_
      rw [next.select_translate]
      exact (steps_link none _).bind fun selected => henter (selected :: held) selected chain start
  | .traced label part => by
      rw [Grammar.translate, parser_trace]
      exact htracing held label part (henter.parser htracing held part)
  | .deferred part => fun chain start =>
      (steps_partContent part).bind fun built => henter (built :: held) built chain start
  | .linked target => by
      intro chain start
      rw [Grammar.translate, Grammar.parser, Grammar.parserTracing, Grammar.parserTracing,
        Link.parser_eq_opened, Link.parser_eq_opened]
      exact (steps_opened held target).bind fun opened => henter opened.1 opened.2 chain start
  | .named _ | .siblingOr _ _ | .shared _ _ | .deferredOnce _ => fun _ _ =>
      steps_throw .unbuilt id

/-- **A parse is in step with the parse of the translated grammar.** -/
theorem parseWithin_enters {tracing : Tracing} (htracing : t.TracesInStep excused tracing)
    (depth : Nat) :
    t.Enters excused (Grammar.parseTracingWithin tracing depth) (Grammar.parseWithin depth) := by
  induction depth with
  | zero => exact fun _ _ _ _ => steps_throw .endless id
  | succ depth ih => exact fun held grammar => ih.parser htracing held grammar

end Translation

end TokenGrammar
