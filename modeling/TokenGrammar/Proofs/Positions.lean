import TokenGrammar.Diagnostic
import TokenGrammar.Proofs.Segmentation

/-!
# Positions of tokens

Every token of a tokenized input is found in the input where its position says: at its byte offset,
and between the two places that are counted from scratch. Tokens come in order and do not overlap,
so the offsets of a chain increase strictly, and of two diagnostics that one lies beyond the other
says the same as that its cursor does.
-/

namespace TokenGrammar

/-- That a token is a stretch of an input, and stands where its position says. -/
structure Token.StandsIn (token : Token) (input : String) : Prop where
  bytes : input.toByteArray.extract token.position.index
    (token.position.index + token.text.utf8ByteSize) = token.text.toByteArray
  place : ∃ before after : String, input = before ++ token.text ++ after ∧
    token.position = .between before.toList token.text.toList

/-- That a token ends before another one begins. -/
structure Token.Precedes (earlier later : Token) : Prop where
  disjoint : earlier.position.index + earlier.text.utf8ByteSize ≤ later.position.index
  index_lt : earlier.position.index < later.position.index

/-- That offsets tell which of two diagnostics lies at the further cursor, and leave it open only if
both lie at the same. -/
def Chain.IsOrdered (chain : Chain) : Prop :=
  ∀ (a b : Diagnostic) (c d : Cursor), c ≤ chain.size → d ≤ chain.size →
    a.position? = chain.position? c → b.position? = chain.position? d →
    (a.isBeyond b ↔ d < c) ∧ (¬ a.isBeyond b ∧ ¬ b.isBeyond a ↔ c = d)

/-! ### The tokens of lexemes -/

namespace Lexeme

variable {before : List Char} {lexemes : List Lexeme}

theorem utf8ByteSize_concat_text (before : List Char) (lexeme : Lexeme) :
    (String.ofList (before ++ lexeme.text)).utf8ByteSize
      = (lexeme.token before).position.index + (lexeme.token before).text.utf8ByteSize := by
  rw [String.ofList_append, String.utf8ByteSize_append]
  rfl

theorem standsIn_token {lexeme : Lexeme} {after : List Char} {input : String}
    (hinput : input.toList = before ++ lexeme.text ++ after) :
    (lexeme.token before).StandsIn input := by
  have hsplit : input
      = String.ofList before ++ String.ofList lexeme.text ++ String.ofList after := by
    rw [← String.ofList_append, ← String.ofList_append, ← hinput, String.ofList_toList]
  refine ⟨?_, String.ofList before, String.ofList after, hsplit, ?_⟩
  · have hbegin : (lexeme.token before).position.index
        = (String.ofList before).toByteArray.size + 0 := String.size_toByteArray.symm
    have hlength : (lexeme.token before).text.utf8ByteSize
        = (String.ofList lexeme.text).toByteArray.size := String.size_toByteArray.symm
    rw [hbegin, hlength, Nat.add_zero, hsplit, String.append_assoc, String.toByteArray_append,
      String.toByteArray_append]
    refine (ByteArray.extract_append_size_add (i := 0)).trans ?_
    exact ByteArray.extract_append_eq_left rfl
  · rw [String.toList_ofList, Lexeme.token, String.toList_ofList]

theorem standsIn_of_mem_tokens {left : List Char} {input : String}
    (hinput : input.toList = before ++ covered lexemes ++ left) {token : Token}
    (hmem : token ∈ tokens before lexemes) : token.StandsIn input := by
  induction lexemes generalizing before with
  | nil => cases hmem
  | cons lexeme lexemes ih =>
      have hbehind : input.toList = before ++ lexeme.text ++ covered lexemes ++ left := by
        rw [hinput, covered_cons, ← List.append_assoc]
      have hhere : input.toList = before ++ lexeme.text ++ (covered lexemes ++ left) := by
        rw [hbehind, List.append_assoc _ (covered lexemes)]
      rw [tokens] at hmem
      split at hmem
      · rcases List.mem_cons.1 hmem with rfl | hmem
        · exact standsIn_token hhere
        · exact ih hbehind hmem
      · exact ih hbehind hmem

theorem le_index_of_mem_tokens {token : Token} (hmem : token ∈ tokens before lexemes) :
    (String.ofList before).utf8ByteSize ≤ token.position.index := by
  induction lexemes generalizing before with
  | nil => cases hmem
  | cons lexeme lexemes ih =>
      have hgrows : (String.ofList before).utf8ByteSize
          ≤ (String.ofList (before ++ lexeme.text)).utf8ByteSize := by
        rw [utf8ByteSize_concat_text]
        exact Nat.le_add_right _ _
      rw [tokens] at hmem
      split at hmem
      · rcases List.mem_cons.1 hmem with rfl | hmem
        · exact Nat.le_refl _
        · exact Nat.le_trans hgrows (ih hmem)
      · exact Nat.le_trans hgrows (ih hmem)

theorem pairwise_tokens (hnonempty : ∀ lexeme ∈ lexemes, lexeme.text ≠ []) :
    (tokens before lexemes).Pairwise Token.Precedes := by
  induction lexemes generalizing before with
  | nil => exact .nil
  | cons lexeme lexemes ih =>
      obtain ⟨htext, hrest⟩ := List.forall_mem_cons.1 hnonempty
      rw [tokens]
      split
      · refine .cons (fun later hlater => ?_) (ih hrest)
        have hbehind := le_index_of_mem_tokens hlater
        rw [utf8ByteSize_concat_text] at hbehind
        have hpos : (lexeme.token before).text.utf8ByteSize ≠ 0 := by
          rw [Ne, String.utf8ByteSize_eq_zero_iff]
          exact fun hempty => htext (String.ofList_eq_empty_iff.1 hempty)
        exact ⟨hbehind, by omega⟩
      · exact ih hrest

end Lexeme

/-! ### Comparing offsets -/

theorem Chain.position?_eq_none_iff {chain : Chain} {cursor : Cursor} :
    chain.position? cursor = none ↔ chain.size ≤ cursor := by
  rw [Chain.position?, Option.map_eq_none_iff, Array.getElem?_eq_none_iff]

/-- Where tokens precede each other, of two positions the later one has the greater offset. -/
theorem Chain.index_lt_iff {chain : Chain} (hchain : chain.toList.Pairwise Token.Precedes)
    {c d : Cursor} {p q : Position} (hp : chain.position? c = some p)
    (hq : chain.position? d = some q) : q.index < p.index ↔ d < c := by
  obtain ⟨first, hfirst, rfl⟩ := Option.map_eq_some_iff.1 hp
  obtain ⟨second, hsecond, rfl⟩ := Option.map_eq_some_iff.1 hq
  obtain ⟨hc, rfl⟩ := Array.getElem?_eq_some_iff.1 hfirst
  obtain ⟨hd, rfl⟩ := Array.getElem?_eq_some_iff.1 hsecond
  have hlt : ∀ {i j : Nat} (hi : i < chain.size) (hj : j < chain.size), i < j →
      chain[i].position.index < chain[j].position.index := fun hi hj hij =>
    (List.pairwise_iff_getElem.1 hchain _ _ hi hj hij).index_lt
  rcases Nat.lt_trichotomy d c with hdc | rfl | hcd
  · exact iff_of_true (hlt hd hc hdc) hdc
  · simp
  · exact iff_of_false (Nat.lt_asymm (hlt hc hd hcd)) (Nat.lt_asymm hcd)

theorem Chain.isOrdered_of_pairwise {chain : Chain}
    (hchain : chain.toList.Pairwise Token.Precedes) : chain.IsOrdered := by
  have hbeyond : ∀ (a b : Diagnostic) (c d : Cursor), c ≤ chain.size → d ≤ chain.size →
      a.position? = chain.position? c → b.position? = chain.position? d →
      (a.isBeyond b ↔ d < c) := by
    intro a b c d hc hd ha hb
    rw [Diagnostic.isBeyond, ha, hb]
    cases hp : chain.position? c with
    | none =>
        have hc' := Chain.position?_eq_none_iff.1 hp
        cases hq : chain.position? d with
        | none =>
            have hd' := Chain.position?_eq_none_iff.1 hq
            exact iff_of_false Bool.false_ne_true (Nat.not_lt.2 (Nat.le_trans hc hd'))
        | some q =>
            have hd' : ¬ chain.size ≤ d := fun h => by
              rw [Chain.position?_eq_none_iff.2 h] at hq
              cases hq
            exact iff_of_true rfl (Nat.lt_of_lt_of_le (Nat.not_le.1 hd') hc')
    | some p =>
        cases hq : chain.position? d with
        | none =>
            have hd' := Chain.position?_eq_none_iff.1 hq
            exact iff_of_false Bool.false_ne_true (Nat.not_lt.2 (Nat.le_trans hc hd'))
        | some q => exact decide_eq_true_iff.trans (Chain.index_lt_iff hchain hp hq)
  intro a b c d hc hd ha hb
  refine ⟨hbeyond a b c d hc hd ha hb, ?_⟩
  rw [hbeyond a b c d hc hd ha hb, hbeyond b a d c hd hc hb ha, Nat.not_lt, Nat.not_lt]
  exact ⟨fun h => Nat.le_antisymm h.1 h.2, fun h => ⟨Nat.le_of_eq h, Nat.le_of_eq h.symm⟩⟩

/-! ### Tokenized inputs -/

/-- **Positions are those counted from scratch.** The tokens of an input stand in it and come in
order, and where the rest is not tokenized the complaint is about the place behind what is. -/
theorem Lexer.positions_of_tokenize (lexer : Lexer) (input : String) :
    (∀ chain, lexer.tokenize input = .ok chain →
      (∀ token ∈ chain, token.StandsIn input) ∧ chain.toList.Pairwise Token.Precedes ∧
        chain.IsOrdered) ∧
    (∀ failure, lexer.tokenize input = .error failure →
      ∃ before : String, input = before ++ failure.rest ∧
        failure.position = .between before.toList []) := by
  obtain ⟨lexemes, left, hsegments, hends⟩ :=
    lexer.tokenizeFrom_segments [] input.toList #[]
  have hinput := hsegments.eq_covered_append
  have hnonempty : ∀ lexeme ∈ lexemes, lexeme.text ≠ [] := by
    intro lexeme hmem
    obtain ⟨rest, hrest, htakes⟩ := hsegments.exists_of_mem hmem
    exact htakes.text_ne_nil hrest
  have hpairwise : (Lexeme.tokens [] lexemes).Pairwise Token.Precedes :=
    Lexeme.pairwise_tokens hnonempty
  constructor
  · intro chain hchain
    obtain ⟨_, hok⟩ | ⟨_, _, herror⟩ := hends
    · obtain rfl := Except.ok.inj (hok.symm.trans hchain)
      have htokens : (#[] ++ (Lexeme.tokens [] lexemes).toArray).toList
          = Lexeme.tokens [] lexemes := by simp
      rw [← htokens] at hpairwise
      refine ⟨fun token hmem => ?_, hpairwise, Chain.isOrdered_of_pairwise hpairwise⟩
      rw [← Array.mem_toList_iff, htokens] at hmem
      exact Lexeme.standsIn_of_mem_tokens hinput hmem
    · cases herror.symm.trans hchain
  · intro failure hfailure
    obtain ⟨_, hok⟩ | ⟨_, _, herror⟩ := hends
    · cases hok.symm.trans hfailure
    · obtain rfl := Except.error.inj (herror.symm.trans hfailure)
      refine ⟨String.ofList (Lexeme.covered lexemes), ?_, ?_⟩
      · rw [← String.ofList_append, ← hinput, String.ofList_toList]
      · rw [String.toList_ofList, List.nil_append]

/-- Two words on two rows with a letter of two bytes, and a digit where the rest begins. -/
theorem Lexer.positions_of_tokenize_words :
    ∃ (lexer : Lexer) (chain : Chain) (failure : Untokenized),
      lexer.tokenize "aü\nb" = .ok chain ∧
        chain = #[⟨"word", "aü", ⟨0, 1, 1, 1, 3⟩⟩, ⟨"word", "b", ⟨4, 2, 1, 2, 2⟩⟩] ∧
        (∀ token ∈ chain, token.StandsIn "aü\nb") ∧ chain.IsOrdered ∧
        lexer.tokenize "ü1" = .error failure ∧ failure.position = ⟨2, 1, 2, 1, 2⟩ ∧
        ∃ before : String, "ü1" = before ++ failure.rest ∧
          failure.position = .between before.toList [] := by
  let run (accepts : Char → Bool) (rest : List Char) : Option Span :=
    if (rest.takeWhile accepts).isEmpty then none else some ⟨0, (rest.takeWhile accepts).length⟩
  let lexer : Lexer :=
    [⟨true, "word", run fun c => c.isAlpha || c == 'ü'⟩, ⟨false, "blank", run Char.isWhitespace⟩]
  have hchain : lexer.tokenize "aü\nb"
      = .ok #[⟨"word", "aü", ⟨0, 1, 1, 1, 3⟩⟩, ⟨"word", "b", ⟨4, 2, 1, 2, 2⟩⟩] := by cbv
  have hfailure : lexer.tokenize "ü1" = .error ⟨⟨2, 1, 2, 1, 2⟩, "1"⟩ := by cbv
  obtain ⟨hstands, _, hordered⟩ := (lexer.positions_of_tokenize "aü\nb").1 _ hchain
  exact ⟨lexer, _, _, hchain, rfl, hstands, hordered, hfailure, rfl,
    (lexer.positions_of_tokenize "ü1").2 _ hfailure⟩

end TokenGrammar
