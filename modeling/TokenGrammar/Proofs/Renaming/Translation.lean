import TokenGrammar.Grammar.Text
import TokenGrammar.Proofs.Occurrences
import Mathlib.Data.List.Basic
import Mathlib.Logic.Equiv.Defs

/-!
# Translations of grammars

Links are places in a workspace, and which place something has is a matter of the order in which it
came there. A translation renumbers the cells and the productions of modules; it may also leave out
that parts are traced. All else in a grammar stays as it is, so building, selecting and printing
commute with a translation.
-/

namespace TokenGrammar

/-- A renumbering of cells and productions. From some cell on, cells keep their order and their
distance, so that two workspaces can go on to open cells side by side. -/
structure Translation where
  cell : Nat → Nat := id
  cell_injective : Function.Injective cell := by exact fun _ _ h => h
  first : Nat := 0
  shift : Nat := 0
  cell_of_le : ∀ place, first ≤ place → cell place = place + shift := by exact fun _ _ => rfl
  /-- The productions of each module in their new order. -/
  index : Nat → Equiv.Perm Nat := fun _ => Equiv.refl Nat
  /-- Whether traced parts stay traced. -/
  traces : Bool := true

namespace Translation

/-- Cells that keep their numbers keep their distance. -/
theorem id_of_le (place : Nat) (_ : 0 ≤ place) : id place = place + 0 := rfl

variable (t : Translation)

def link : Link → Link
  | .rule slot => .rule slot
  | .handle slot => .handle slot
  | .cell place => .cell (t.cell place)
  | .production module index => .production module (t.index module index)
  | .reference module index => .reference module (t.index module index)

def keepable : Keepable → Keepable
  | .slot place => .slot place
  | .cell place => .cell (t.cell place)
  | .module place => .module place

theorem keepable_injective : Function.Injective t.keepable := by
  intro a b h
  cases a <;> cases b <;> simp_all [keepable, t.cell_injective.eq_iff]

theorem kept?_link (target : Link) : (t.link target).kept? = target.kept?.map t.keepable := by
  cases target <;> rfl

/-- A part that stays traced or is left without its label. -/
def trace (label : String) (part : Grammar) : Grammar :=
  if t.traces then .traced label part else part

theorem keeps_trace (label : String) (part : Grammar) :
    (t.trace label part).keeps = part.keeps := by
  unfold trace
  split <;> rfl

theorem text?_trace (linkText? : Link → Option String) (label : String) (part : Grammar) :
    (t.trace label part).text? linkText? = part.text? linkText? := by
  unfold trace
  split <;> rfl

theorem anchor_trace (siblings : Siblings) (label : String) (part : Grammar) :
    (t.trace label part).anchor siblings = t.trace label (part.anchor siblings) := by
  unfold trace
  split <;> rfl

end Translation

mutual

def Grammar.translate (t : Translation) : Grammar → Grammar
  | .leaf matcher => .leaf matcher
  | .unary operator part => .unary operator (part.translate t)
  | .binary operator first second => .binary operator (first.translate t) (second.translate t)
  | .bind part next => .bind (part.translate t) (next.translate t)
  | .traced label part => t.trace label (part.translate t)
  | .deferred part => .deferred (part.translate t)
  | .deferredOnce part => .deferredOnce (part.translate t)
  | .named name => .named name
  | .siblingOr name otherwise => .siblingOr name (otherwise.translate t)
  | .shared name part => .shared name (part.translate t)
  | .linked target => .linked (t.link target)

def Selector.translate (t : Translation) : Selector → Selector
  | .succeed => .succeed
  | .literal => .literal
  | .kind => .kind
  | .fail message => .fail message
  | .constant grammar => .constant (grammar.translate t)
  | .exactly part => .exactly (part.translate t)
  | .separatedExactly part separator =>
      .separatedExactly (part.translate t) (separator.translate t)
  | .whenShown text grammar otherwise =>
      .whenShown text (grammar.translate t) (otherwise.translate t)
  | .keep selector => .keep (selector.translate t)
  | .echo => .echo

end

variable (t : Translation)

theorem Grammar.keeps_translate : ∀ grammar : Grammar,
    (grammar.translate t).keeps = grammar.keeps.map t.keepable
  | .leaf _ | .deferred _ | .deferredOnce _ | .named _ | .siblingOr _ _ => rfl
  | .unary _ part | .bind part _ | .shared _ part => part.keeps_translate
  | .traced label part => (t.keeps_trace label _).trans part.keeps_translate
  | .binary _ first second => by
      rw [Grammar.translate, Grammar.keeps, first.keeps_translate, second.keeps_translate,
        Grammar.keeps, List.map_append]
  | .linked target => by
      rw [Grammar.translate, Grammar.keeps, t.kept?_link, Grammar.keeps]
      cases target.kept? <;> rfl

theorem Grammar.mem_keeps_translate {keepable : Keepable} (grammar : Grammar) :
    t.keepable keepable ∈ (grammar.translate t).keeps ↔ keepable ∈ grammar.keeps := by
  rw [grammar.keeps_translate, List.mem_map_of_injective t.keepable_injective]

namespace Selector

theorem select_translate (value : Value) (selector : Selector) :
    (selector.translate t).select value = (selector.select value).translate t := by
  cases selector with
  | succeed | literal | kind | fail | constant | exactly | separatedExactly => rfl
  | whenShown text grammar otherwise =>
      rw [translate, select, select]
      split
      · rfl
      · exact otherwise.select_translate value
  | keep selector =>
      rw [translate, select, select, selector.select_translate value]
      rfl
  | echo =>
      exact (echoing_induction (motive := fun grammar => grammar.translate t = grammar) rfl
        (fun _ _ hrest => congrArg (Grammar.binary _ _) hrest) _).symm

end Selector

/-! ### Siblings -/

def Translation.siblings (siblings : Siblings) : Siblings := fun name =>
  (siblings name).map t.link

mutual

theorem Grammar.anchor_translate (siblings : Siblings) : ∀ grammar : Grammar,
    (grammar.translate t).anchor (t.siblings siblings) = (grammar.anchor siblings).translate t
  | .leaf _ | .linked _ => rfl
  | .unary _ part => congrArg (Grammar.unary _) (part.anchor_translate siblings)
  | .binary _ first second => by
      rw [Grammar.translate, Grammar.anchor, first.anchor_translate siblings,
        second.anchor_translate siblings]
      rfl
  | .bind part next => by
      rw [Grammar.translate, Grammar.anchor, part.anchor_translate siblings,
        next.anchor_translate siblings]
      rfl
  | .traced label part => by
      rw [Grammar.translate, t.anchor_trace, part.anchor_translate siblings]
      rfl
  | .deferred part => congrArg Grammar.deferred (part.anchor_translate siblings)
  | .deferredOnce part => congrArg Grammar.deferredOnce (part.anchor_translate siblings)
  | .named (.sibling name) => by
      rw [Grammar.translate, Grammar.anchor, Grammar.anchor, Translation.siblings]
      cases siblings name <;> rfl
  | .named (.rule _) | .named (.handle _) | .named (.parser _) | .named (.production _ _) => rfl
  | .siblingOr name otherwise => by
      rw [Grammar.translate, Grammar.anchor, Grammar.anchor, Translation.siblings]
      cases siblings name with
      | none => exact otherwise.anchor_translate siblings
      | some target => rfl
  | .shared _ part => congrArg (Grammar.shared _) (part.anchor_translate siblings)

theorem Selector.anchor_translate (siblings : Siblings) : ∀ selector : Selector,
    (selector.translate t).anchor (t.siblings siblings) = (selector.anchor siblings).translate t
  | .succeed | .literal | .kind | .fail _ | .echo => rfl
  | .constant grammar => congrArg Selector.constant (grammar.anchor_translate siblings)
  | .exactly part => congrArg Selector.exactly (part.anchor_translate siblings)
  | .separatedExactly part separator => by
      rw [Selector.translate, Selector.anchor, part.anchor_translate siblings,
        separator.anchor_translate siblings]
      rfl
  | .whenShown _ grammar otherwise => by
      rw [Selector.translate, Selector.anchor, grammar.anchor_translate siblings,
        otherwise.anchor_translate siblings]
      rfl
  | .keep selector => congrArg Selector.keep (selector.anchor_translate siblings)

end

/-! ### Representations -/

/-- A translated grammar is printed as the grammar is, if its links are. -/
theorem Grammar.text?_translate {linkText? linkText'? : Link → Option String}
    (hlinks : ∀ target, linkText'? (t.link target) = linkText? target) : ∀ grammar : Grammar,
      (grammar.translate t).text? linkText'? = grammar.text? linkText?
  | .leaf _ | .deferred _ | .deferredOnce _ | .named _ | .siblingOr _ _ => rfl
  | .unary operator part => congrArg (Option.map operator.text) (part.text?_translate hlinks)
  | .bind part _ => congrArg (Option.map (· ++ " => <dynamic>")) (part.text?_translate hlinks)
  | .binary _ first second => by
      rw [Grammar.translate, Grammar.text?, first.text?_translate hlinks,
        second.text?_translate hlinks, Grammar.text?]
  | .traced label part => (t.text?_trace _ label _).trans (part.text?_translate hlinks)
  | .shared _ part => part.text?_translate hlinks
  | .linked target => hlinks target

theorem Grammar.text?_imp {linkText? linkText'? : Link → Option String}
    (himp : ∀ target text, linkText? target = some text → linkText'? target = some text) :
    ∀ {grammar : Grammar} {text : String}, grammar.text? linkText? = some text →
      grammar.text? linkText'? = some text
  | .leaf _, _, h | .deferred _, _, h | .deferredOnce _, _, h | .named _, _, h
  | .siblingOr _ _, _, h => h
  | .unary _ part, _, h | .bind part _, _, h => by
      obtain ⟨text, hpart, rfl⟩ := Option.map_eq_some_iff.1 h
      exact Option.map_eq_some_iff.2 ⟨text, part.text?_imp himp hpart, rfl⟩
  | .binary _ first second, _, h => by
      obtain ⟨firstText, hfirst, h⟩ := Option.bind_eq_some_iff.1 h
      obtain ⟨secondText, hsecond, h⟩ := Option.bind_eq_some_iff.1 h
      exact Option.bind_eq_some_iff.2 ⟨firstText, first.text?_imp himp hfirst,
        Option.bind_eq_some_iff.2 ⟨secondText, second.text?_imp himp hsecond, h⟩⟩
  | .traced _ part, _, h | .shared _ part, _, h => part.text?_imp himp h
  | .linked target, _, h => himp target _ h

/-! ### What stays as it is -/

/-- Whether a grammar is left as it is by a translation, if it is a link. -/
def Translation.fixes : Grammar → Bool
  | .linked target => decide (t.link target = target)
  | _ => true

mutual

theorem Grammar.translate_eq_self (htraces : t.traces) : ∀ grammar : Grammar,
    grammar.all t.fixes → grammar.translate t = grammar
  | .leaf _, _ | .named _, _ => rfl
  | .unary _ part, h =>
      congrArg (Grammar.unary _) (part.translate_eq_self htraces (Bool.and_eq_true_iff.1 h).2)
  | .binary _ first second, h => by
      obtain ⟨hfirst, hsecond⟩ := Bool.and_eq_true_iff.1 h
      rw [Grammar.translate, second.translate_eq_self htraces hsecond,
        first.translate_eq_self htraces (Bool.and_eq_true_iff.1 hfirst).2]
  | .bind part next, h => by
      obtain ⟨hpart, hnext⟩ := Bool.and_eq_true_iff.1 h
      rw [Grammar.translate, next.translate_eq_self htraces hnext,
        part.translate_eq_self htraces (Bool.and_eq_true_iff.1 hpart).2]
  | .traced label part, h => by
      rw [Grammar.translate, part.translate_eq_self htraces (Bool.and_eq_true_iff.1 h).2,
        Translation.trace, if_pos htraces]
  | .deferred part, h =>
      congrArg Grammar.deferred (part.translate_eq_self htraces (Bool.and_eq_true_iff.1 h).2)
  | .deferredOnce part, h =>
      congrArg Grammar.deferredOnce (part.translate_eq_self htraces (Bool.and_eq_true_iff.1 h).2)
  | .siblingOr _ otherwise, h => congrArg (Grammar.siblingOr _)
      (otherwise.translate_eq_self htraces (Bool.and_eq_true_iff.1 h).2)
  | .shared _ part, h =>
      congrArg (Grammar.shared _) (part.translate_eq_self htraces (Bool.and_eq_true_iff.1 h).2)
  | .linked _, h => congrArg Grammar.linked (of_decide_eq_true h)

theorem Selector.translate_eq_self (htraces : t.traces) : ∀ selector : Selector,
    selector.all t.fixes → selector.translate t = selector
  | .succeed, _ | .literal, _ | .kind, _ | .fail _, _ | .echo, _ => rfl
  | .constant grammar, h => congrArg Selector.constant (grammar.translate_eq_self htraces h)
  | .exactly part, h => congrArg Selector.exactly (part.translate_eq_self htraces h)
  | .separatedExactly part separator, h => by
      obtain ⟨hpart, hseparator⟩ := Bool.and_eq_true_iff.1 h
      rw [Selector.translate, part.translate_eq_self htraces hpart,
        separator.translate_eq_self htraces hseparator]
  | .whenShown _ grammar otherwise, h => by
      obtain ⟨hgrammar, hotherwise⟩ := Bool.and_eq_true_iff.1 h
      rw [Selector.translate, grammar.translate_eq_self htraces hgrammar,
        otherwise.translate_eq_self htraces hotherwise]
  | .keep selector, h => congrArg Selector.keep (selector.translate_eq_self htraces h)

end

end TokenGrammar
