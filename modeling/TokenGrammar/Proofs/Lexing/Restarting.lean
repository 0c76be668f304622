import Mathlib.Data.List.Induction
import TokenGrammar.Proofs.Positions

/-!
# Tokenizing from the middle of an input

Tokenizing an input comes from one boundary between lexemes to the next, and what it does from there
depends on nothing that lies before, except that positions are counted from the beginning. So it may
be restarted at any boundary, on what is left of the input alone. The tokens are the same, and stand
further back by what was left out: by its bytes, by its line breaks, and, where they stand in the
row in which it ends, by the columns that it takes of this row.
-/

namespace TokenGrammar

/-! ### What stands behind a text -/

theorem byteLength_pos {text : List Char} (htext : text ≠ []) : 0 < byteLength text := by
  rw [byteLength_eq_utf8ByteSize, Nat.pos_iff_ne_zero, Ne, String.utf8ByteSize_eq_zero_iff,
    String.ofList_eq_empty_iff]
  exact htext

namespace Place

/-- A place of a text that does not begin at the origin but at another place. Only the first row of
the text shares its row with what lies before. -/
def behindPlace (place first : Place) : Place where
  row := place.row + (first.row - 1)
  column := if place.row = 1 then place.column + (first.column - 1) else place.column

theorem next_behindPlace {place : Place} (hrow : 0 < place.row) (first : Place) (c : Char) :
    (place.behindPlace first).next c = (place.next c).behindPlace first := by
  by_cases hc : c = '\n'
  · simp only [next, behindPlace, hc, beq_self_eq_true, if_true, mk.injEq]
    have hlater : ¬ place.row + 1 = 1 := by omega
    rw [if_neg hlater]
    exact ⟨by omega, rfl⟩
  · simp only [next, behindPlace, beq_iff_eq, hc, if_false, mk.injEq, true_and]
    split <;> omega

theorem row_behind_pos (text : List Char) : 0 < (behind text).row := by
  simp only [behind]
  omega

/-- Counting from scratch may be interrupted. By induction on the text from its end. -/
theorem behind_append (before text : List Char) :
    behind (before ++ text) = (behind text).behindPlace (behind before) := by
  induction text using List.reverseRecOn with
  | nil =>
      rw [List.append_nil]
      simp only [behind, behindPlace, List.count_nil, List.reverse_nil, List.takeWhile_nil,
        List.length_nil, if_true, mk.injEq]
      omega
  | append_singleton text c ih =>
      rw [← List.append_assoc, behind_concat, ih, next_behindPlace (row_behind_pos text),
        ← behind_concat]

end Place

namespace Position

/-- A position in a text that begins at another place of an input, behind a number of bytes. -/
def behindPlace (position : Position) (bytes : Nat) (first : Place) : Position :=
  let start := (Place.mk position.rowBegin position.columnBegin).behindPlace first
  let stop := (Place.mk position.rowEnd position.columnEnd).behindPlace first
  ⟨position.index + bytes, start.row, start.column, stop.row, stop.column⟩

theorem between_append (before inner text : List Char) :
    between (before ++ inner) text
      = (between inner text).behindPlace (byteLength before) (.behind before) := by
  simp only [between, behindPlace, List.append_assoc, Place.behind_append before,
    String.ofList_append, String.utf8ByteSize_append, byteLength_eq_utf8ByteSize]
  rw [Nat.add_comm]

end Position

def Token.behindPlace (token : Token) (bytes : Nat) (first : Place) : Token :=
  { token with position := token.position.behindPlace bytes first }

namespace Lexeme

theorem tokens_behind (before inner : List Char) (lexemes : List Lexeme) :
    tokens (before ++ inner) lexemes
      = (tokens inner lexemes).map (·.behindPlace (byteLength before) (.behind before)) := by
  induction lexemes generalizing inner with
  | nil => rfl
  | cons lexeme lexemes ih =>
      rw [tokens, tokens, List.append_assoc, ih]
      split
      · rw [List.map_cons, token, Position.between_append]
        rfl
      · rfl

theorem covered_append (lexemes lexemes' : List Lexeme) :
    covered (lexemes ++ lexemes') = covered lexemes ++ covered lexemes' :=
  List.flatMap_append

theorem tokens_append (before : List Char) (lexemes lexemes' : List Lexeme) :
    tokens before (lexemes ++ lexemes')
      = tokens before lexemes ++ tokens (before ++ covered lexemes) lexemes' := by
  induction lexemes generalizing before with
  | nil => rw [covered_nil, List.append_nil, List.nil_append, tokens, List.nil_append]
  | cons lexeme lexemes ih =>
      rw [List.cons_append, tokens, tokens, ih, covered_cons, List.append_assoc]
      split <;> rfl

theorem index_lt_of_mem_tokens {before : List Char} {lexemes : List Lexeme}
    (hnonempty : ∀ lexeme ∈ lexemes, lexeme.text ≠ []) {token : Token}
    (hmem : token ∈ tokens before lexemes) :
    token.position.index < byteLength (before ++ covered lexemes) := by
  induction lexemes generalizing before token with
  | nil => cases hmem
  | cons lexeme lexemes ih =>
      obtain ⟨htext, hrest⟩ := List.forall_mem_cons.1 hnonempty
      have hhere : (lexeme.token before).position.index
          < byteLength (before ++ covered (lexeme :: lexemes)) := by
        have hindex : (lexeme.token before).position.index = byteLength before :=
          (byteLength_eq_utf8ByteSize before).symm
        have hbytes := byteLength_pos htext
        rw [hindex, covered_cons, byteLength_append, byteLength_append]
        omega
      have hlater : ∀ token ∈ tokens (before ++ lexeme.text) lexemes,
          token.position.index < byteLength (before ++ covered (lexeme :: lexemes)) := by
        intro token htoken
        rw [covered_cons, ← List.append_assoc]
        exact ih hrest htoken
      rw [tokens] at hmem
      split at hmem
      · rcases List.mem_cons.1 hmem with rfl | hmem
        · exact hhere
        · exact hlater token hmem
      · exact hlater token hmem

theorem push_append_tokens (before : List Char) (lexeme : Lexeme) (lexemes : List Lexeme)
    (chain : Chain) :
    (if lexeme.scanner.keep then chain.push (lexeme.token before) else chain)
        ++ (tokens (before ++ lexeme.text) lexemes).toArray
      = chain ++ (tokens before (lexeme :: lexemes)).toArray := by
  rw [tokens]
  split <;> simp

end Lexeme

/-! ### Going on from a boundary -/

theorem Segments.append {picks : List Char → Lexeme → Prop} {text between left : List Char}
    {lexemes lexemes' : List Lexeme} (h : Segments picks text lexemes between)
    (h' : Segments picks between lexemes' left) :
    Segments picks text (lexemes ++ lexemes') left := by
  induction h with
  | none => exact h'
  | next htext hpicks _ ih => exact .next htext hpicks (ih h')

namespace Lexer

variable {lexer : Lexer}

/-- The lexemes that tokenizing takes one after the other, and what is left behind them. -/
abbrev Cuts (lexer : Lexer) : List Char → List Lexeme → List Char → Prop :=
  Segments fun text lexeme => text ≠ [] ∧ lexer.Takes text lexeme

/-- Tokenizing behind a text comes to the end of the lexemes that it takes, and has their tokens. By
induction on the lexemes. -/
theorem Cuts.tokenizeFrom_eq {rest left : List Char} {lexemes : List Lexeme}
    (h : lexer.Cuts rest lexemes left) (before : List Char) (chain : Chain) :
    lexer.tokenizeFrom (byteLength before) (.behind before) chain rest
      = lexer.tokenizeFrom (byteLength (before ++ Lexeme.covered lexemes))
          (.behind (before ++ Lexeme.covered lexemes))
          (chain ++ (Lexeme.tokens before lexemes).toArray) left := by
  induction h generalizing before chain with
  | none => rw [Lexeme.covered_nil, Lexeme.tokens, List.append_nil, Array.append_empty]
  | @next lexeme text rest left lexemes htext hpicks _ ih =>
      obtain ⟨later, hlater, hstep⟩ := tokenizeFrom_behind hpicks.1 hpicks.2 before chain
      obtain rfl : rest = later := List.append_cancel_left (htext.symm.trans hlater)
      rw [hstep, ih, Lexeme.push_append_tokens, Lexeme.covered_cons, List.append_assoc]

/-- The byte offsets that tokenizing an input comes to, with the places there and what is left. -/
inductive Reaches (lexer : Lexer) (input : String) : Nat → Place → List Char → Prop
  | beginning : Reaches lexer input 0 .origin input.toList
  | next {index length : Nat} {place : Place} {rest : List Char} {scanner : Scanner}
      (h : Reaches lexer input index place rest) (hrest : rest ≠ [])
      (hlexeme : lexer.lexeme? rest = some (scanner, length)) :
      Reaches lexer input (index + byteLength (rest.take length)) (place.after (rest.take length))
        (rest.drop length)

theorem Reaches.exists_cuts {input : String} {index : Nat} {place : Place} {rest : List Char}
    (h : lexer.Reaches input index place rest) :
    ∃ lexemes, lexer.Cuts input.toList lexemes rest ∧
      index = byteLength (Lexeme.covered lexemes) ∧ place = .behind (Lexeme.covered lexemes) := by
  induction h with
  | beginning => exact ⟨[], .none _, rfl, rfl⟩
  | @next index length place rest scanner _ hrest hlexeme ih =>
      obtain ⟨lexemes, hcuts, rfl, rfl⟩ := ih
      let lexeme : Lexeme := ⟨scanner, rest.take length⟩
      have htakes : lexer.Takes rest lexeme := ⟨length, hlexeme, rfl⟩
      have hsingle : lexer.Cuts rest [lexeme] (rest.drop length) :=
        .next (List.take_append_drop length rest).symm ⟨hrest, htakes⟩ (.none _)
      have hcovered : Lexeme.covered (lexemes ++ [lexeme])
          = Lexeme.covered lexemes ++ rest.take length := by
        rw [Lexeme.covered_append, Lexeme.covered_cons, Lexeme.covered_nil, List.append_nil]
      refine ⟨lexemes ++ [lexeme], hcuts.append hsingle, ?_, ?_⟩
      · rw [hcovered, byteLength_append]
      · rw [hcovered, Place.after_behind]

theorem exists_cuts (lexer : Lexer) (rest : List Char) :
    ∃ lexemes left, lexer.Cuts rest lexemes left ∧ (left ≠ [] → lexer.lexeme? left = none) := by
  obtain ⟨lexemes, left, hcuts, hends⟩ := lexer.tokenizeFrom_segments [] rest #[]
  refine ⟨lexemes, left, hcuts, fun hleft => ?_⟩
  obtain ⟨hnil, _⟩ | ⟨_, hnone, _⟩ := hends
  · exact absurd hnil hleft
  · exact hnone

theorem tokenizeFrom_end {left : List Char} (hends : left ≠ [] → lexer.lexeme? left = none)
    (before : List Char) (chain : Chain) :
    lexer.tokenizeFrom (byteLength before) (.behind before) chain left
      = if left = [] then .ok chain else .error ⟨.between before [], String.ofList left⟩ := by
  split
  · rename_i hleft
    rw [hleft, tokenizeFrom_nil]
  · rename_i hleft
    rw [tokenizeFrom_of_lexeme?_eq_none hleft (hends hleft), Position.ofText_eq_between]

theorem Cuts.tokenize_eq {input : String} {text left : List Char} {lexemes : List Lexeme}
    (h : lexer.Cuts text lexemes left) (hinput : input.toList = text)
    (hends : left ≠ [] → lexer.lexeme? left = none) :
    lexer.tokenize input
      = if left = [] then .ok (Lexeme.tokens [] lexemes).toArray
        else .error ⟨.between (Lexeme.covered lexemes) [], String.ofList left⟩ := by
  have hbeginning : lexer.tokenize input
      = lexer.tokenizeFrom (byteLength []) (.behind []) #[] text := by rw [← hinput]; rfl
  rw [hbeginning, h.tokenizeFrom_eq, tokenizeFrom_end hends, List.nil_append, Array.empty_append]

/-- The tokens of the lexemes that are taken first are those that begin before the others. -/
theorem Cuts.filter_tokens_append {text rest : List Char} {earlier : List Lexeme}
    (h : lexer.Cuts text earlier rest) (lexemes : List Lexeme) :
    (Lexeme.tokens [] (earlier ++ lexemes)).filter
        (fun token => token.position.index < byteLength (Lexeme.covered earlier))
      = Lexeme.tokens [] earlier := by
  have hnonempty : ∀ lexeme ∈ earlier, lexeme.text ≠ [] := by
    intro lexeme hmem
    obtain ⟨_, hne, htakes⟩ := h.exists_of_mem hmem
    exact htakes.text_ne_nil hne
  have hbefore : (Lexeme.tokens [] earlier).filter
      (fun token => token.position.index < byteLength (Lexeme.covered earlier))
        = Lexeme.tokens [] earlier :=
    List.filter_eq_self.2 fun token hmem =>
      decide_eq_true (Lexeme.index_lt_of_mem_tokens hnonempty hmem)
  have hbehind : (Lexeme.tokens (Lexeme.covered earlier) lexemes).filter
      (fun token => token.position.index < byteLength (Lexeme.covered earlier)) = [] := by
    refine List.filter_eq_nil_iff.2 fun token hmem hlt => ?_
    have hle := Lexeme.le_index_of_mem_tokens hmem
    rw [← byteLength_eq_utf8ByteSize] at hle
    exact Nat.not_lt.2 hle (of_decide_eq_true hlt)
  rw [Lexeme.tokens_append, List.nil_append, List.filter_append, hbefore, hbehind,
    List.append_nil]

/-- **Tokenizing may be restarted where it has come to.** An input is tokenized if what is left of
it there is. The tokens are those that begin before, and behind them those of what is left; and if
tokenizing fails, it fails there as well. -/
theorem tokenize_restarts {input : String} {index : Nat} {place : Place} {rest : List Char}
    (h : lexer.Reaches input index place rest) :
    (∃ before : String, input = before ++ String.ofList rest ∧ before.utf8ByteSize = index) ∧
    (lexer.tokenize input).isOk = (lexer.tokenize (String.ofList rest)).isOk ∧
    (∀ chain later, lexer.tokenize input = .ok chain →
      lexer.tokenize (String.ofList rest) = .ok later →
        chain.toList = chain.toList.filter (fun token => token.position.index < index)
          ++ later.toList.map (·.behindPlace index place)) ∧
    (∀ failure later, lexer.tokenize input = .error failure →
      lexer.tokenize (String.ofList rest) = .error later →
        failure = ⟨later.position.behindPlace index place, later.rest⟩) := by
  obtain ⟨earlier, hearlier, rfl, rfl⟩ := h.exists_cuts
  obtain ⟨lexemes, left, hcuts, hends⟩ := lexer.exists_cuts rest
  rw [Cuts.tokenize_eq (hearlier.append hcuts) rfl hends,
    Cuts.tokenize_eq hcuts String.toList_ofList hends]
  refine ⟨⟨String.ofList (Lexeme.covered earlier), ?_, ?_⟩, ?_⟩
  · rw [← String.ofList_append, ← hearlier.eq_covered_append, String.ofList_toList]
  · rw [byteLength_eq_utf8ByteSize]
  · by_cases hleft : left = []
    · rw [if_pos hleft, if_pos hleft]
      refine ⟨rfl, ?_, nofun⟩
      rintro _ _ ⟨⟩ ⟨⟩
      have hlater := Lexeme.tokens_behind (Lexeme.covered earlier) [] lexemes
      rw [List.append_nil] at hlater
      rw [hearlier.filter_tokens_append, ← hlater]
      exact Lexeme.tokens_append [] earlier lexemes
    · rw [if_neg hleft, if_neg hleft]
      refine ⟨rfl, nofun, ?_⟩
      rintro _ _ ⟨⟩ ⟨⟩
      rw [Lexeme.covered_append, Position.between_append]

/-- A stretch of dots over two rows, behind a word that takes three bytes and two columns. The dots
begin two columns further right than on their own, and end in the same column. With a digit at the
end nothing is tokenized, and the complaint moves in the same way. -/
theorem tokenize_restarts_dots :
    ∃ (lexer : Lexer) (chain later : Chain) (failure other : Untokenized),
      lexer.Reaches "aü.\n.b" 3 ⟨1, 3⟩ ".\n.b".toList ∧
      lexer.tokenize "aü.\n.b" = .ok chain ∧ lexer.tokenize ".\n.b" = .ok later ∧
      later = #[⟨"dots", ".\n.", ⟨0, 1, 1, 2, 2⟩⟩, ⟨"word", "b", ⟨3, 2, 2, 2, 3⟩⟩] ∧
      chain = #[⟨"word", "aü", ⟨0, 1, 1, 1, 3⟩⟩, ⟨"dots", ".\n.", ⟨3, 1, 3, 2, 2⟩⟩,
        ⟨"word", "b", ⟨6, 2, 2, 2, 3⟩⟩] ∧
      chain.toList = chain.toList.filter (fun token => token.position.index < 3)
        ++ later.toList.map (·.behindPlace 3 ⟨1, 3⟩) ∧
      lexer.Reaches "aü7" 3 ⟨1, 3⟩ ['7'] ∧ lexer.tokenize "aü7" = .error failure ∧
      lexer.tokenize "7" = .error other ∧ other.position = ⟨0, 1, 1, 1, 1⟩ ∧
      failure = ⟨other.position.behindPlace 3 ⟨1, 3⟩, other.rest⟩ := by
  let run (accepts : Char → Bool) (rest : List Char) : Option Span :=
    if (rest.takeWhile accepts).isEmpty then none else some ⟨0, (rest.takeWhile accepts).length⟩
  let isLetter (c : Char) : Bool := c.isAlpha || c == 'ü'
  let lexer : Lexer := [⟨true, "word", run isLetter⟩,
    ⟨true, "dots", run fun c => c == '.' || c == '\n'⟩]
  have hreaches : lexer.Reaches "aü.\n.b" 3 ⟨1, 3⟩ ".\n.b".toList := by
    have hlexeme : lexer.lexeme? "aü.\n.b".toList = some (⟨true, "word", run isLetter⟩, 2) := by cbv
    convert Reaches.next .beginning (by simp) hlexeme using 1 <;> cbv
  have hreaches' : lexer.Reaches "aü7" 3 ⟨1, 3⟩ ['7'] := by
    have hlexeme : lexer.lexeme? "aü7".toList = some (⟨true, "word", run isLetter⟩, 2) := by cbv
    convert Reaches.next .beginning (by simp) hlexeme using 1 <;> cbv
  have hchain : lexer.tokenize "aü.\n.b" = .ok #[⟨"word", "aü", ⟨0, 1, 1, 1, 3⟩⟩,
      ⟨"dots", ".\n.", ⟨3, 1, 3, 2, 2⟩⟩, ⟨"word", "b", ⟨6, 2, 2, 2, 3⟩⟩] := by cbv
  have hlater : lexer.tokenize ".\n.b"
      = .ok #[⟨"dots", ".\n.", ⟨0, 1, 1, 2, 2⟩⟩, ⟨"word", "b", ⟨3, 2, 2, 2, 3⟩⟩] := by cbv
  have hfailure : lexer.tokenize "aü7" = .error ⟨⟨3, 1, 3, 1, 3⟩, "7"⟩ := by cbv
  have hother : lexer.tokenize "7" = .error ⟨⟨0, 1, 1, 1, 1⟩, "7"⟩ := by cbv
  exact ⟨lexer, _, _, _, _, hreaches, hchain, hlater, rfl, rfl,
    (tokenize_restarts hreaches).2.2.1 _ _ hchain hlater, hreaches', hfailure, hother, rfl,
    (tokenize_restarts hreaches').2.2.2 _ _ hfailure hother⟩

end Lexer

end TokenGrammar
