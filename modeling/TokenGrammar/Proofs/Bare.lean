import TokenGrammar.Grammar.Operators
import TokenGrammar.Grammar.Text
import TokenGrammar.Proofs.Mapping

/-!
# Bare grammars

What a grammar says about a mistake, and where the tokens of a chain stand, is only of use to
whoever reads a diagnostic. A bare token has no position, and a bare grammar no messages, nor
positions in the values that it yields by itself. Two grammars differ in their messages alone if
they are the same when they are bare.

Functions on values look at the kinds and the texts of tokens, so they do to bare values what they
do to others. Showing offsets is the one exception.
-/

namespace TokenGrammar

/-! ### Values -/

def Token.bare (token : Token) : Token := { token with position := default }

def Chain.bare (chain : Chain) : Chain := chain.map Token.bare

def Occurrence.bare (occurrence : Occurrence) : Occurrence :=
  { occurrence with token := occurrence.token.bare }

mutual

def Value.bare : Value → Value
  | .unit => .unit
  | .text content => .text content
  | .number word => .number word
  | .list items => .list (Value.bareAll items)
  | .pair first second => .pair first.bare second.bare
  | .absent => .absent
  | .present value => .present value.bare
  | .token occurrence => .token occurrence.bare

def Value.bareAll : List Value → List Value
  | [] => []
  | item :: items => item.bare :: Value.bareAll items

end

theorem Chain.size_eq_of_bare_eq {chain chain' : Chain} (h : chain.bare = chain'.bare) :
    chain.size = chain'.size := by
  simpa [Chain.bare] using congrArg Array.size h

theorem Chain.getElem?_bare (chain : Chain) (cursor : Cursor) :
    chain.bare[cursor]? = chain[cursor]?.map Token.bare :=
  Array.getElem?_map

namespace Value

theorem bareAll_eq_map (items : List Value) : bareAll items = items.map bare := by
  induction items with
  | nil => rfl
  | cons item items ih => rw [bareAll, ih, List.map_cons]

mutual

theorem shown_bare : ∀ value : Value, value.bare.shown = value.shown
  | .unit | .text _ | .number _ | .absent | .token _ => rfl
  | .list items => by rw [bare, shown, shownAll_bareAll items, shown]
  | .pair first second => by rw [bare, shown, shown_bare first, shown_bare second, shown]
  | .present value => by rw [bare, shown, shown_bare value, shown]

theorem shownAll_bareAll : ∀ items : List Value, shownAll (bareAll items) = shownAll items
  | [] => rfl
  | item :: items => by rw [bareAll, shownAll, shown_bare item, shownAll_bareAll items, shownAll]

end

theorem toWord_bare : ∀ value : Value, value.bare.toWord = value.toWord
  | .number _ => rfl
  | .pair _ second => toWord_bare second
  | .unit | .text _ | .absent | .token _ => rfl
  | .list items => congrArg (fun text => (word? text).getD 0) (shown_bare (.list items))
  | .present value => congrArg (fun text => (word? text).getD 0) (shown_bare (.present value))

end Value

/-! ### Functions on values -/

def Transform.bare : Transform → Transform
  | .constant value => .constant value.bare
  | .pairedAfter before => .pairedAfter before.bare
  | transform => transform

theorem Transform.apply_bare (transform : Transform) (value : Value) :
    transform.bare.apply value.bare = (transform.apply value).bare := by
  cases transform with
  | identity | constant | pairedAfter => rfl
  | shown => exact congrArg Value.text value.shown_bare
  | word => exact congrArg Value.number value.toWord_bare
  | kind | first | second => cases value <;> rfl
  | length =>
      cases value with
      | list items =>
          rw [Value.bare, Value.bareAll_eq_map]
          show Value.number (Int64.ofNat (items.map Value.bare).length) = _
          rw [List.length_map]
          rfl
      | _ => rfl
  | sum =>
      cases value with
      | list items =>
          rw [Value.bare, Value.bareAll_eq_map]
          show Value.number ((items.map Value.bare).foldl _ 0) = _
          simp only [List.foldl_map, Value.toWord_bare]
          rfl
      | _ => exact congrArg Value.number (Value.toWord_bare _)
  | increment => exact congrArg (fun word => Value.number (word + 1)) value.toWord_bare
  | negate => exact congrArg (fun word => Value.number (-word)) value.toWord_bare
  | wrapped before after =>
      exact congrArg (fun text => Value.text (before ++ text ++ after)) value.shown_bare

theorem Fold.apply_bare (fold : Fold) (total next : Value) :
    fold.apply total.bare next.bare = (fold.apply total next).bare := by
  cases fold with
  | add | subtract | multiply => simp only [Fold.apply, Value.toWord_bare, Value.bare]
  | bracketed => simp only [Fold.apply, Value.shown_bare, Value.bare]
  | pair | keep => rfl
  | operator =>
      cases next with
      | pair sign operand =>
          simp only [Value.bare, Fold.apply, Value.shown_bare, Value.toWord_bare]
          split <;> rfl
      | _ => rfl

/-- The texts of a stretch, but not its offsets, are those of bare tokens. -/
theorem SpanView.apply_bare {view : SpanView} (hview : view ≠ .offsets) (chain : Chain)
    (start stop : Cursor) (value : Value) :
    view.apply chain.bare start stop value.bare = (view.apply chain start stop value).bare := by
  cases view with
  | offsets => exact absurd rfl hview
  | texts =>
      simp only [SpanView.apply, Value.bare, Value.bareAll_eq_map, Chain.bare, ← Array.map_extract,
        Array.toList_map, List.map_map]
      rfl

/-! ### Grammars -/

def Leaf.bare : Leaf → Leaf
  | .succeed value => .succeed value.bare
  | .fail _ => .fail ""
  | matcher => matcher

def UnaryOperator.bare : UnaryOperator → UnaryOperator
  | .mapped transform => .mapped transform.bare
  | .relabelled _ => .relabelled ""
  | .recovered _ value => .recovered "" value.bare
  | operator => operator

mutual

def Grammar.bare : Grammar → Grammar
  | .leaf matcher => .leaf matcher.bare
  | .unary operator part => .unary operator.bare part.bare
  | .binary operator first second => .binary operator first.bare second.bare
  | .bind part next => .bind part.bare next.bare
  | .traced label part => .traced label part.bare
  | .deferred part => .deferred part.bare
  | .deferredOnce part => .deferredOnce part.bare
  | .named name => .named name
  | .siblingOr name otherwise => .siblingOr name otherwise.bare
  | .shared name part => .shared name part.bare
  | .linked target => .linked target

def Selector.bare : Selector → Selector
  | .succeed => .succeed
  | .literal => .literal
  | .kind => .kind
  -- the message of this selector ends with the text of the value, which is left out as well
  | .fail _ => .constant (.leaf (.fail ""))
  | .constant grammar => .constant grammar.bare
  | .exactly part => .exactly part.bare
  | .separatedExactly part separator => .separatedExactly part.bare separator.bare
  | .whenShown text grammar otherwise => .whenShown text grammar.bare otherwise.bare
  | .keep selector => .keep selector.bare
  | .echo => .echo

end

theorem Grammar.keeps_bare : ∀ grammar : Grammar, grammar.bare.keeps = grammar.keeps
  | .leaf _ | .deferred _ | .deferredOnce _ | .named _ | .siblingOr _ _ | .linked _ => rfl
  | .unary _ part | .bind part _ | .traced _ part | .shared _ part => part.keeps_bare
  | .binary _ first second => by
      rw [Grammar.bare, Grammar.keeps, first.keeps_bare, second.keeps_bare, Grammar.keeps]

namespace Selector

theorem items_bare (value : Value) : items value.bare = (items value).map Value.bare := by
  cases value with
  | list items => exact Value.bareAll_eq_map items
  | _ => rfl

theorem select_bare (value : Value) (selector : Selector) :
    selector.bare.select value.bare = (selector.select value).bare := by
  cases selector with
  | succeed | fail | constant => rfl
  | literal => exact congrArg (fun text => Grammar.leaf (.literal text)) value.shown_bare
  | kind => exact congrArg (fun text => Grammar.leaf (.kind text)) value.shown_bare
  | exactly part => simp only [bare, select, times, Value.toWord_bare, Grammar.bare]; rfl
  | separatedExactly part separator =>
      simp only [bare, select, times, Value.toWord_bare, Grammar.bare]
  | whenShown text grammar otherwise =>
      rw [bare, select, select, value.shown_bare]
      split
      · rfl
      · exact otherwise.select_bare value
  | keep selector =>
      rw [bare, select, select, selector.select_bare value]
      rfl
  | echo =>
      have hitems (last : Leaf) : echoing ((items value).map Value.bare) last
          = echoing (items value) last := by simp [echoing, List.foldr_map, Value.shown_bare]
      rw [bare, select, select, items_bare, List.length_map, hitems]
      exact (echoing_induction (motive := fun grammar => grammar.bare = grammar) rfl
        (fun _ _ hrest => congrArg (Grammar.binary _ _) hrest) _).symm

end Selector

mutual

theorem Grammar.anchor_bare (siblings : Siblings) :
    ∀ grammar : Grammar, grammar.bare.anchor siblings = (grammar.anchor siblings).bare
  | .leaf _ | .linked _ => rfl
  | .unary _ part => congrArg (Grammar.unary _) (part.anchor_bare siblings)
  | .binary _ first second => by
      rw [Grammar.bare, Grammar.anchor, first.anchor_bare siblings, second.anchor_bare siblings]
      rfl
  | .bind part next => by
      rw [Grammar.bare, Grammar.anchor, part.anchor_bare siblings, next.anchor_bare siblings]
      rfl
  | .traced _ part => congrArg (Grammar.traced _) (part.anchor_bare siblings)
  | .deferred part => congrArg Grammar.deferred (part.anchor_bare siblings)
  | .deferredOnce part => congrArg Grammar.deferredOnce (part.anchor_bare siblings)
  | .named (.sibling name) => by
      rw [Grammar.bare, Grammar.anchor]
      cases siblings name <;> rfl
  | .named (.rule _) | .named (.handle _) | .named (.parser _) | .named (.production _ _) => rfl
  | .siblingOr name otherwise => by
      rw [Grammar.bare, Grammar.anchor, Grammar.anchor]
      cases siblings name with
      | none => exact otherwise.anchor_bare siblings
      | some target => rfl
  | .shared _ part => congrArg (Grammar.shared _) (part.anchor_bare siblings)

theorem Selector.anchor_bare (siblings : Siblings) :
    ∀ selector : Selector, selector.bare.anchor siblings = (selector.anchor siblings).bare
  | .succeed | .literal | .kind | .fail _ | .echo => rfl
  | .constant grammar => congrArg Selector.constant (grammar.anchor_bare siblings)
  | .exactly part => congrArg Selector.exactly (part.anchor_bare siblings)
  | .separatedExactly part separator => by
      rw [Selector.bare, Selector.anchor, part.anchor_bare siblings, separator.anchor_bare siblings]
      rfl
  | .whenShown _ grammar otherwise => by
      rw [Selector.bare, Selector.anchor, grammar.anchor_bare siblings,
        otherwise.anchor_bare siblings]
      rfl
  | .keep selector => congrArg Selector.keep (selector.anchor_bare siblings)

end

theorem Grammar.isSome_text?_bare {linkText? linkText'? : Link → Option String}
    (hlinks : ∀ target, (linkText'? target).isSome = (linkText? target).isSome) :
    ∀ grammar : Grammar,
      (grammar.bare.text? linkText'?).isSome = (grammar.text? linkText?).isSome
  | .leaf _ | .deferred _ | .deferredOnce _ | .named _ | .siblingOr _ _ => rfl
  | .unary _ part | .bind part _ => by
      rw [Grammar.bare, Grammar.text?, Grammar.text?, Option.isSome_map, Option.isSome_map]
      exact part.isSome_text?_bare hlinks
  | .binary _ first second => by
      have hparts : ∀ (operator : BinaryOperator) (first? second? : Option String),
          (do return operator.text (← first?) (← second?) : Option String).isSome
            = (first?.isSome && second?.isSome) := by
        intro operator first? second?
        cases first? <;> cases second? <;> rfl
      rw [Grammar.bare, Grammar.text?, Grammar.text?, hparts, hparts,
        first.isSome_text?_bare hlinks, second.isSome_text?_bare hlinks]
  | .traced _ part | .shared _ part => part.isSome_text?_bare hlinks
  | .linked target => hlinks target

/-! ### Workspaces -/

def Workspace.bare (workspace : Workspace) : Workspace :=
  (workspace.mapGrammars Grammar.bare).clearJournal

theorem Workspace.isAlive_bare (workspace : Workspace) (held : List Grammar)
    (keepable : Keepable) : workspace.bare.isAlive (held.map Grammar.bare) keepable
      = workspace.isAlive held keepable :=
  (isAlive_clearJournal _ _ _).trans
    (workspace.isAlive_mapGrammars Grammar.keeps_bare held keepable)

end TokenGrammar
