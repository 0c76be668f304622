import TokenGrammar.Grammar.Operators

/-!
# Leaves

A leaf looks at no more than the next token. What it matches is said twice: by the parser that runs,
and by a relation between leaves, cursors and values. `Leaf.reads_outcome` ties the two together,
and says what a leaf blames where it matches nothing. Every leaf is deterministic, so an outcome has
one candidate or none.
-/

namespace TokenGrammar

def Outcome.missed {α : Type} : Outcome α → List Diagnostic
  | .success _ _ => []
  | .failure diagnostic => [diagnostic]

def Leaf.outcome (matcher : Leaf) (chain : Chain) (start : Cursor) : Outcome Value :=
  Id.run (matcher.parser chain start)

theorem Leaf.parser_eq_pure {m : Type → Type} [Monad m] [LawfulMonad m] (matcher : Leaf)
    (chain : Chain) (start : Cursor) :
    (matcher.parser chain start : m (Outcome Value)) = pure (matcher.outcome chain start) := by
  cases matcher with
  | nothing | succeed _ | fail _ => rfl
  | literal text | kind name => exact pure_bind _ _
  | range low high =>
      simp only [Leaf.outcome, Leaf.parser, Parser.map, Parser.range]
      split <;> exact pure_bind _ _

namespace Leaf

inductive Matches (chain : Chain) (start : Cursor) : Leaf → Cursor → Value → Prop where
  | nothing : Matches chain start .nothing start .unit
  | succeed (value : Value) : Matches chain start (.succeed value) start value
  | literal {text : String} {token : Token} (hnext : chain[start]? = some token)
      (htext : token.text = text) :
      Matches chain start (.literal text) (start + 1) (.token ⟨start, token⟩)
  | kind {name : String} {token : Token} (hnext : chain[start]? = some token)
      (hkind : token.kind = name) :
      Matches chain start (.kind name) (start + 1) (.token ⟨start, token⟩)
  | range {token : Token} {low high c : Char} (hnext : chain[start]? = some token)
      (htext : token.text.toList = [c]) (hlow : low ≤ c) (hhigh : c ≤ high) :
      Matches chain start (.range low high) (start + 1) (.token ⟨start, token⟩)

/-- What a leaf blames where it fails. -/
inductive Blames (chain : Chain) (start : Cursor) : Leaf → Diagnostic → Prop where
  | next (matcher : Leaf) : Blames chain start matcher (.unconsumed chain start)
  | exchanged {low high : Char} (hexchanged : high < low) :
      Blames chain start (.range low high) (.invalidRange low high chain start)
  | message (message : String) : Blames chain start (.fail message) (.custom message chain start)

inductive Reads (chain : Chain) (start : Cursor) (matcher : Leaf) : Outcome Value → Prop where
  | matched {stop : Cursor} {value : Value} (hmatch : Matches chain start matcher stop value) :
      Reads chain start matcher (.success [⟨start, stop, value⟩] none)
  | missed {diagnostic : Diagnostic}
      (hnone : ∀ stop value, ¬ Matches chain start matcher stop value)
      (hblames : Blames chain start matcher diagnostic) :
      Reads chain start matcher (.failure diagnostic)

variable {chain : Chain} {start stop : Cursor} {value : Value} {matcher : Leaf}

theorem Matches.stop_cases (h : Matches chain start matcher stop value) :
    stop = start ∨ start < chain.size ∧ stop = start + 1 := by
  cases h with
  | nothing | succeed => exact .inl rfl
  | literal hnext | kind hnext | range hnext =>
      exact .inr ⟨(Array.getElem?_eq_some_iff.1 hnext).1, rfl⟩

theorem Matches.unique {stop' : Cursor} {value' : Value}
    (h : Matches chain start matcher stop value) (h' : Matches chain start matcher stop' value') :
    stop' = stop ∧ value' = value := by
  cases h with
  | nothing => cases h' with | nothing => exact ⟨rfl, rfl⟩
  | succeed => cases h' with | succeed => exact ⟨rfl, rfl⟩
  | literal hnext =>
      cases h' with
      | literal hnext' =>
          cases hnext.symm.trans hnext'
          exact ⟨rfl, rfl⟩
  | kind hnext =>
      cases h' with
      | kind hnext' =>
          cases hnext.symm.trans hnext'
          exact ⟨rfl, rfl⟩
  | range hnext => cases h' with | range hnext' => cases hnext.symm.trans hnext'; exact ⟨rfl, rfl⟩

theorem reads_consume {accepts : Token → Bool}
    (haccepts : ∀ token, chain[start]? = some token → (accepts token ↔
      Matches chain start matcher (start + 1) (.token ⟨start, token⟩)))
    (honly : ∀ stop value, Matches chain start matcher stop value → ∃ token,
      chain[start]? = some token ∧ stop = start + 1 ∧ value = .token ⟨start, token⟩) :
    Reads chain start matcher
      (Id.run ((Parser.consume accepts).map .token chain start)) := by
  have hmissed (hnone : ∀ token, chain[start]? = some token → ¬ accepts token) :
      ∀ stop value, ¬ Matches chain start matcher stop value := by
    intro stop value hmatch
    obtain ⟨token, hnext, rfl, rfl⟩ := honly stop value hmatch
    exact hnone token hnext ((haccepts token hnext).2 hmatch)
  have hblames : Blames chain start matcher (.unconsumed chain start) := .next matcher
  simp only [Parser.map, Parser.consume]
  cases hnext : chain[start]? with
  | none => exact .missed (hmissed fun token h => nomatch hnext.symm.trans h) hblames
  | some token =>
      by_cases haccept : accepts token
      · simp only [haccept]
        exact .matched ((haccepts token hnext).1 haccept)
      · simp only [haccept]
        refine .missed (hmissed fun token' h => ?_) hblames
        cases hnext.symm.trans h
        exact haccept

theorem isBetween_iff {low high : Char} {text : String} :
    Parser.isBetween low high text ↔ ∃ c, text.toList = [c] ∧ low ≤ c ∧ c ≤ high := by
  rw [Parser.isBetween]
  split
  · rename_i c htext
    simp [htext]
  · rename_i hother
    simp only [Bool.false_eq_true, false_iff]
    exact fun ⟨c, htext, _⟩ => hother c htext

/-- **What a leaf reads is what it matches**, and where it matches nothing it blames somebody. -/
theorem reads_outcome (matcher : Leaf) (chain : Chain) (start : Cursor) :
    Reads chain start matcher (matcher.outcome chain start) := by
  cases matcher with
  | nothing => exact .matched .nothing
  | succeed value => exact .matched (.succeed value)
  | fail message => exact .missed (fun _ _ hmatch => nomatch hmatch) (.message message)
  | literal text =>
      refine reads_consume (fun token hnext => ?_) ?_
      · exact ⟨fun htext => .literal hnext (by simpa using htext), fun h => by cases h; simp_all⟩
      · rintro _ _ ⟨⟩
        exact ⟨_, ‹_›, rfl, rfl⟩
  | kind name =>
      refine reads_consume (fun token hnext => ?_) ?_
      · exact ⟨fun hkind => .kind hnext (by simpa using hkind), fun h => by cases h; simp_all⟩
      · rintro _ _ ⟨⟩
        exact ⟨_, ‹_›, rfl, rfl⟩
  | range low high =>
      simp only [Leaf.outcome, Leaf.parser, Parser.map, Parser.range]
      split
      · rename_i hexchanged
        refine .missed (fun stop value hmatch => ?_) (.exchanged hexchanged)
        cases hmatch with
        | range _ _ hlow hhigh => exact Char.not_le.2 hexchanged (Char.le_trans hlow hhigh)
      · refine reads_consume (fun token hnext => ?_) ?_
        · rw [isBetween_iff]
          refine ⟨fun ⟨c, htext, hlow, hhigh⟩ => .range hnext htext hlow hhigh, fun h => ?_⟩
          cases h with
          | range _ htext hlow hhigh => exact ⟨_, htext, hlow, hhigh⟩
        · rintro _ _ ⟨⟩
          exact ⟨_, ‹_›, rfl, rfl⟩

end Leaf

end TokenGrammar
