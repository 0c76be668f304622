import TokenGrammar.Proofs.Correspondence
import TokenGrammar.Proofs.Caching.Lockstep
import TokenGrammar.Proofs.Caching.Owners
import TokenGrammar.Proofs.Caching.Printing

/-!
# Parsing in lockstep

Parsing agrees in a workspace and in its mirror image. The induction goes over the depth and, at
each depth, over the grammar that was built: links are opened alike, a part that is built each time
is entered as the cell that mirrors it is, and all else is left to the combinators, which pass on
any correspondence.
-/

namespace TokenGrammar

namespace World

variable {before : World}

/-- That two parses go on alike: with the same roots and with grammars that mirror each other. -/
def Enters (world : World) (opened opened' : List Grammar × Grammar) : Prop :=
  world.cached.SameRoots opened.1 opened'.1 ∧ world.Mirrors opened.2 opened'.2

theorem demandAlive_agrees (hvalid : before.Valid) {held held' : List Grammar}
    (hroots : before.cached.SameRoots held held') {keepable : Keepable}
    (hcell : keepable.isCell = false) (fault : Fault) :
    before.Agrees (Run.demandAlive held keepable fault) (Run.demandAlive held' keepable fault)
      fun after _ _ => after = before := by
  refine .get ?_
  rw [Workspace.Mirrors.isAlive hvalid hroots hcell]
  split
  · exact .pure hvalid rfl
  · exact .throw fault hvalid

theorem demandPattern_agrees (hvalid : before.Valid) {held held' : List Grammar}
    (hroots : before.cached.SameRoots held held') (slot : Nat) :
    before.Agrees (do return (held, ← Run.demand .unsetRule ((← get).pattern? slot)))
      (do return (held', ← Run.demand .unsetRule ((← get).pattern? slot))) Enters := by
  refine .get ((Agrees.demand .unsetRule (hvalid.patterns slot) hvalid).bind ?_)
  rintro now pattern pattern' - hnow ⟨rfl, hmirrors⟩
  exact .pure hnow ⟨hroots, hmirrors⟩

theorem opened_agrees (hvalid : before.Valid) {held held' : List Grammar}
    (hroots : before.cached.SameRoots held held') {target target' : Link}
    (hmirrors : before.Mirrors (.linked target) (.linked target')) :
    before.Agrees (target.opened held) (target'.opened held') Enters := by
  cases hmirrors with
  | cell himage =>
      refine (cellContent_agrees hvalid himage).bind ?_
      intro now built built' hleads hnow hbuilt
      exact .pure hnow ⟨hroots.mono hleads.cached, hbuilt⟩
  | linked htarget =>
      cases target with
      | cell place => exact absurd rfl (htarget place)
      | rule slot => exact demandPattern_agrees hvalid hroots slot
      | handle slot =>
          refine (demandAlive_agrees hvalid hroots rfl .droppedRule).bind ?_
          rintro now - - - hnow rfl
          have hheld : now.Mirrors (.linked (.rule slot)) (.linked (.rule slot)) :=
            .linked (by simp)
          exact demandPattern_agrees hnow (hroots.cons hheld) slot
      | production place index =>
          refine (productionContent_agrees hvalid place index).bind ?_
          intro now built built' hleads hnow hbuilt
          exact .pure hnow ⟨(hroots.mono hleads.cached).cons hbuilt, hbuilt⟩
      | reference place index =>
          refine (demandAlive_agrees hvalid hroots rfl .droppedModule).bind ?_
          rintro between - - - hbetween rfl
          refine (productionContent_agrees hbetween place index).bind ?_
          intro now built built' hleads hnow hbuilt
          have hheld : now.Mirrors (.linked (.production place index))
              (.linked (.production place index)) := .linked (by simp)
          exact .pure hnow ⟨((hroots.mono hleads.cached).cons hbuilt).cons hheld, hbuilt⟩

/-- A part that is built each time on both sides, and held while it is parsed. -/
theorem opened_agrees_part (hvalid : before.Valid) {held held' : List Grammar}
    (hroots : before.cached.SameRoots held held') {part part' : Grammar}
    (hless : part.LessCached part') :
    before.Agrees (do let built ← Run.partContent part; return (built :: held, built))
      (do let built ← Run.partContent part'; return (built :: held', built)) Enters := by
  refine (partContent_agrees hvalid hless).bind ?_
  intro now built built' hleads hnow hbuilt
  exact .pure hnow ⟨(hroots.mono hleads.cached).cons hbuilt, hbuilt⟩

/-- A part that is built each time, and the cell that stands for it. What the part holds while it is
parsed keeps nothing alive that a name does not keep. -/
theorem opened_agrees_cell (hvalid : before.Valid) {held held' : List Grammar}
    (hroots : before.cached.SameRoots held held') {part part' : Grammar} {place' : Nat}
    (hbody : before.cached.body? place' = some part') (hless : part.LessCached part') :
    before.Agrees (do let built ← Run.partContent part; return (built :: held, built))
      ((Link.cell place').opened held') Enters := by
  refine (partContent_agrees_cell hvalid hbody hless).bind ?_
  rintro now built built' hleads hnow ⟨hbuilt, hmade⟩
  refine .pure hnow ⟨(hroots.mono hleads.cached).cons_left fun keepable hcell hkeeps => ?_, hbuilt⟩
  exact hmade.isKeptByName hcell ((hbuilt.mem_keeps hcell).1 hkeeps)

theorem opened_agrees_selected (hvalid : before.Valid) {held held' : List Grammar}
    (hroots : before.cached.SameRoots held held') {selected selected' : Grammar}
    (hless : selected.LessCached selected') :
    before.Agrees (do let built ← selected.link none; return (built :: held, built))
      (do let built ← selected'.link none; return (built :: held', built)) Enters := by
  refine (link_agrees hvalid hless none).bind ?_
  rintro now built built' hleads hnow ⟨hbuilt, -, -⟩
  exact .pure hnow ⟨(hroots.mono hleads.cached).cons hbuilt, hbuilt⟩

/-! ### The correspondence -/

def agreement (start : World) : Correspondence Run Run where
  Relates run run' := ∀ now : World, start.Leads now → now.Valid →
    now.Agrees run run' fun _ a b => a = b
  pure a now _ hvalid := .pure hvalid rfl
  bind hrun hnext now hleads hvalid := by
    refine (hrun now hleads hvalid).bind ?_
    rintro later a _ hleads' hvalid' rfl
    exact hnext a later (hleads.trans hleads') hvalid'

theorem noteEvent_agrees (hvalid : before.Valid) (event event' : TraceEvent) :
    before.Agrees (Run.noteEvent event) (Run.noteEvent event') fun after _ _ =>
      before.Leads after := by
  refine (journaled_agrees (fun journal => { journal with events := event :: journal.events })
    (fun journal => { journal with events := event' :: journal.events }) hvalid
    hvalid.builds).imp ?_
  exact fun _ _ _ hleads _ _ => hleads

theorem parseNoting_agrees (start : World) (matcher : Leaf) :
    start.agreement.Parsers matcher.parseNoting matcher.parseNoting := by
  intro chain cursor
  refine start.agreement.bind (Correspondence.Parsers.leaf matcher chain cursor) fun outcome => ?_
  cases outcome with
  | success => exact start.agreement.pure _
  | failure diagnostic =>
      refine start.agreement.bind (fun now _ hvalid => ?_) fun _ => start.agreement.pure _
      let change (journal : Journal) : Journal :=
        { journal with misses := diagnostic :: journal.misses }
      exact (journaled_agrees change change hvalid hvalid.builds).imp fun _ _ _ _ _ _ => rfl

/-- Printing agrees unless the cached workspace cannot print what the other one can. -/
theorem printed_agrees (hvalid : before.Valid) {held held' : List Grammar}
    {grammar grammar' : Grammar} (hmirrors : before.Mirrors grammar grammar') :
    before.Agrees (Run.demand .unprintable (before.plain.textOf? held grammar))
      (Run.demand .unprintable (before.cached.textOf? held' grammar')) fun after _ _ =>
        after = before := by
  cases htext' : before.cached.textOf? held' grammar' with
  | none => exact .of_unprintable rfl
  | some text' =>
      have hshown : (before.plain.textOf? held grammar).isSome := by
        have hshown' : (before.cached.textOf? held' grammar').isSome := by rw [htext']; rfl
        exact Workspace.Mirrors.isSome_textOf? hvalid hmirrors hshown'
      obtain ⟨text, htext⟩ := Option.isSome_iff_exists.1 hshown
      rw [htext]
      exact .pure hvalid rfl

theorem traced_agrees {start : World} {held held' : List Grammar} {label : String}
    {part part' : Grammar} (hmirrors : start.Mirrors part part') {p p' : Parser Run Value}
    (hp : start.agreement.Parsers p p') :
    start.agreement.Parsers (Run.traced held label part p) (Run.traced held' label part' p') := by
  intro chain cursor now hleads hvalid
  refine .get ((printed_agrees hvalid (hleads.mirrors hmirrors)).bind ?_)
  rintro now _ _ - hvalid rfl
  refine (noteEvent_agrees hvalid _ _).bind fun between _ _ hleads' hbetween _ => ?_
  refine (hp chain cursor between (hleads.trans hleads') hbetween).bind ?_
  rintro after outcome _ - hafter rfl
  refine (noteEvent_agrees hafter _ _).bind fun last _ _ _ hlast _ => ?_
  exact .pure hlast rfl

def EnterAgrees (enter : Enter) : Prop :=
  ∀ {world : World} {opened opened' : List Grammar × Grammar}, world.Valid →
    world.Enters opened opened' →
      ∀ chain cursor, world.Agrees (enter opened.1 opened.2 chain cursor)
      (enter opened'.1 opened'.2 chain cursor) fun _ a b => a = b

theorem EnterAgrees.opened {enter : Enter} (henter : EnterAgrees enter)
    {open? open'? : Run (List Grammar × Grammar)} (hopened : before.Agrees open? open'? Enters)
    (chain : Chain) (cursor : Cursor) :
    before.Agrees (open? >>= fun opened => enter opened.1 opened.2 chain cursor)
      (open'? >>= fun opened => enter opened.1 opened.2 chain cursor) fun _ a b => a = b :=
  hopened.bind fun _ _ _ _ hvalid henters => henter hvalid henters chain cursor

/-- **The parsers of grammars that mirror each other agree** if entering does, by induction on the
grammar that was built. -/
theorem parser_agrees {enter : Enter} (henter : EnterAgrees enter) {start : World}
    {held held' : List Grammar} (hroots : start.cached.SameRoots held held')
    {grammar grammar' : Grammar} (hmirrors : start.Mirrors grammar grammar') :
    start.agreement.Parsers (grammar.parser enter held) (grammar'.parser enter held') := by
  have hlinked : ∀ {target target' : Link}, start.Mirrors (.linked target) (.linked target') →
      start.agreement.Parsers (target.parser enter held) (target'.parser enter held') := by
    intro target target' hmirrors chain cursor now hleads hvalid
    rw [Link.parser_eq_opened, Link.parser_eq_opened]
    exact henter.opened (opened_agrees hvalid (hroots.mono hleads.cached) (hleads.mirrors hmirrors))
      chain cursor
  induction hmirrors with
  | @leaf matcher => exact start.parseNoting_agrees matcher
  | @unary operator _ _ _ ih => exact ih.unary operator
  | @binary operator _ _ _ _ _ _ ihfirst ihsecond => exact ihfirst.binary operator ihsecond
  | traced hmirrors ih => exact traced_agrees hmirrors ih
  | @bind part part' next next' _ hnext ih =>
      refine ih.bind fun value chain cursor now hleads hvalid => ?_
      have hopened := opened_agrees_selected hvalid (hroots.mono hleads.cached) (hnext value)
      simpa only [bind_assoc, pure_bind] using henter.opened hopened chain cursor
  | deferred hless =>
      intro chain cursor now hleads hvalid
      have hopened := opened_agrees_part hvalid (hroots.mono hleads.cached) hless
      simpa only [Grammar.parser, Grammar.parserTracing, bind_assoc, pure_bind]
        using henter.opened hopened chain cursor
  | kept hbody hless =>
      intro chain cursor now hleads hvalid
      have hbody := hleads.cached.bodies _ _ hbody
      have hopened := opened_agrees_cell hvalid (hroots.mono hleads.cached) hbody hless
      simpa only [Grammar.parser, Grammar.parserTracing, Link.parser_eq_opened, bind_assoc,
        pure_bind] using henter.opened hopened chain cursor
  | cell himage => exact hlinked (.cell himage)
  | linked htarget => exact hlinked (.linked htarget)

/-- **Parsing agrees at every depth.** -/
theorem parseWithin_agrees (depth : Nat) : EnterAgrees (Grammar.parseWithin depth) := by
  induction depth with
  | zero =>
      intro world opened opened' hvalid _ chain cursor
      exact .throw .endless hvalid
  | succ depth ih =>
      rintro world ⟨held, grammar⟩ ⟨held', grammar'⟩ hvalid ⟨hroots, hmirrors⟩ chain cursor
      exact parser_agrees ih hroots hmirrors chain cursor world (.refl world) hvalid

end World

end TokenGrammar
