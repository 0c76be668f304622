import TokenGrammar.Proofs.Lexing.RuleLists
import TokenGrammar.Proofs.Pattern.Compiling
import TokenGrammar.Proofs.Pattern.Enclosing

/-!
# Where lexemes begin

A rule looks for its pattern between `^(?:` and a parenthesis. Unless the pattern closes this group
by itself, this means what it should: a text that is no pattern is refused, whatever the rule finds
begins where it looks, and the pattern describes all of it. A pattern that closes the group may
leave a branch of itself without the anchor, and a lexeme takes in what stands before the text that
was found.
-/

namespace TokenGrammar

namespace Pattern

variable {input : List Char}

theorem holdsAt_textStart {position : Nat} (hposition : position ≤ input.length) :
    Look.textStart.holdsAt input position = true ↔ position = 0 := by
  cases position with
  | zero => simp [Look.holdsAt, Look.holds]
  | succ position =>
      have hbefore : input[position]?.isNone = false := by
        rw [List.getElem?_eq_getElem hposition]
        rfl
      simp [Look.holdsAt, Look.holds, hbefore]

theorem describes_anchored (pattern : Pattern) {start stop : Nat} (hstart : start ≤ input.length) :
    pattern.anchored.Describes input start stop ↔
      start = 0 ∧ pattern.Describes input start stop := by
  rw [anchored, describes_concat]
  simp only [DescribesAll, Describes, holdsAt_textStart hstart]
  constructor
  · rintro ⟨_, ⟨hzero, rfl⟩, _, hpattern, rfl⟩
    exact ⟨hzero, hpattern⟩
  · rintro ⟨hzero, hpattern⟩
    exact ⟨start, ⟨hzero, rfl⟩, stop, hpattern, rfl⟩

theorem find?_anchored (pattern : Pattern) {span : Span}
    (hfind : (Program.ofPattern pattern.anchored).find? input = some span) :
    span.start = 0 ∧ pattern.Describes input 0 span.stop := by
  have hfits := Program.fits_of_find? hfind
  obtain ⟨hzero, hpattern⟩ :=
    (describes_anchored pattern (Nat.le_trans hfits.start_le_stop hfits.stop_le_length)).1
      (Program.describes_of_find? hfind)
  exact ⟨hzero, hzero ▸ hpattern⟩

end Pattern

namespace LexicalRule

/-- That the pattern of a rule is read as a part that may stand inside a group. No comment at its
end swallows the parenthesis that closes the group, so it is no pattern with that parenthesis behind
it; and with the group around it, it nests neither too deep nor is it too big. -/
structure IsEnclosable (rule : LexicalRule) (part : Pattern.Part) : Prop where
  readable : Pattern.part? rule.pattern = some part
  open_ended : Pattern.part? (rule.pattern ++ ")") = none
  shallow : part.depth + 2 ≤ Pattern.nestingLimit
  bearable : part.pattern.anchored.isBearable

/-- What is read between `^(?:` and a parenthesis, if the text between them does not close the
group. -/
theorem read?_anchoredSource {rule : LexicalRule} {anchored : Pattern}
    (hcloses : Pattern.overcloses rule.pattern = false) :
    Pattern.read? (anchoredSource rule.pattern) = some anchored ↔
      ∃ part, rule.IsEnclosable part ∧ part.pattern.anchored = anchored := by
  rw [Pattern.read?_eq_some_iff, anchoredSource]
  simp only [Pattern.part?_anchored_eq_some_iff hcloses]
  constructor
  · rintro ⟨_, ⟨part, hread, hopen, rfl⟩, ⟨hdepth, hbearable⟩, rfl⟩
    exact ⟨part, ⟨hread, hopen, hdepth, hbearable⟩, rfl⟩
  · rintro ⟨part, henclosable, rfl⟩
    exact ⟨_, ⟨part, henclosable.readable, henclosable.open_ended, rfl⟩,
      ⟨henclosable.shallow, henclosable.bearable⟩, rfl⟩

/-- A rule whose pattern does not close the group is valid if the pattern may stand inside it, and
looks for the pattern at the beginning. -/
theorem compile?_eq_some_iff {rule : LexicalRule} {scanner : Scanner}
    (hcloses : Pattern.overcloses rule.pattern = false) :
    rule.compile? = some scanner ↔ ∃ part, rule.IsEnclosable part ∧
      ⟨rule.keep, rule.kind, (Program.ofPattern part.pattern.anchored).find?⟩ = scanner := by
  simp only [compile?, Option.bind_eq_bind, Option.bind_eq_some_iff, read?_anchoredSource hcloses,
    Option.pure_def, Option.some_inj]
  constructor
  · rintro ⟨_, ⟨part, henclosable, rfl⟩, rfl⟩
    exact ⟨part, henclosable, rfl⟩
  · rintro ⟨part, henclosable, rfl⟩
    exact ⟨_, ⟨part, henclosable, rfl⟩, rfl⟩

theorem isSome_compile?_iff {rule : LexicalRule}
    (hcloses : Pattern.overcloses rule.pattern = false) :
    rule.compile?.isSome ↔ ∃ part, rule.IsEnclosable part := by
  simp [Option.isSome_iff_exists, compile?_eq_some_iff hcloses]

/-- That what a rule finds in front of a text begins where the text does, and is described by the
pattern of the rule alone. -/
structure Anchors (rule : LexicalRule) (scanner : Scanner) (rest : List Char) (length : Nat) :
    Prop where
  compiled : rule.compile? = some scanner
  found : scanner.find? rest = some ⟨0, length⟩
  described : ∃ part, Pattern.part? rule.pattern = some part ∧ part.pattern.Describes rest 0 length

theorem kind_of_compile? {rule : LexicalRule} {scanner : Scanner}
    (hcompile : rule.compile? = some scanner) : scanner.kind = rule.kind := by
  obtain ⟨pattern, -, hscanner⟩ := Option.bind_eq_some_iff.1 hcompile
  cases hscanner
  rfl

theorem anchors_of_lexemeLength? {rule : LexicalRule} {scanner : Scanner} {rest : List Char}
    {length : Nat} (hcloses : Pattern.overcloses rule.pattern = false)
    (hcompile : rule.compile? = some scanner)
    (hlength : Lexer.lexemeLength? scanner rest = some length) :
    rule.Anchors scanner rest length := by
  obtain ⟨part, henclosable, rfl⟩ := (compile?_eq_some_iff hcloses).1 hcompile
  obtain ⟨⟨start, stop⟩, hfind, hspan⟩ := Option.bind_eq_some_iff.1 hlength
  obtain ⟨-, hstop⟩ := Option.ite_none_right_eq_some.1 hspan
  cases hstop
  obtain ⟨hstart, hdescribes⟩ := Pattern.find?_anchored part.pattern hfind
  cases hstart
  exact ⟨hcompile, hfind, part, henclosable.readable, hdescribes⟩

/-- That a token stands in an input where a lexer chooses the rule for the rest of the input, and is
all that the rule finds there. -/
structure Owns (rule : LexicalRule) (lexer : Lexer) (input : String) (token : Token) : Prop where
  kind_eq : token.kind = rule.kind
  anchored : ∃ before rest scanner, input.toList = before ++ token.text.toList ++ rest ∧
    token.position.index = byteLength before ∧
    lexer.lexeme? (token.text.toList ++ rest) = some (scanner, token.text.length) ∧
    rule.Anchors scanner (token.text.toList ++ rest) token.text.length

end LexicalRule

theorem Segments.exists_of_mem_tokens {picks : List Char → Lexeme → Prop}
    {before text left : List Char} {lexemes : List Lexeme} (h : Segments picks text lexemes left)
    {token : Token} (hmem : token ∈ Lexeme.tokens before lexemes) :
    ∃ lexeme earlier rest, before ++ text = earlier ++ lexeme.text ++ rest ∧
      picks (lexeme.text ++ rest) lexeme ∧ token = lexeme.token earlier := by
  induction h generalizing before with
  | none => cases hmem
  | @next lexeme text rest left lexemes htext hpicks _ ih =>
      rw [htext, ← List.append_assoc]
      rw [Lexeme.tokens] at hmem
      split at hmem
      · rcases List.mem_cons.1 hmem with rfl | hmem
        · exact ⟨lexeme, before, rest, rfl, htext ▸ hpicks, rfl⟩
        · exact ih hmem
      · exact ih hmem

namespace Lexer

variable {rules : List LexicalRule} {lexer : Lexer}

theorem exists_anchors_of_lexeme?
    (hcloses : ∀ rule ∈ rules, Pattern.overcloses rule.pattern = false)
    (hlexer : ofRules rules = .ok lexer) {rest : List Char} {scanner : Scanner} {length : Nat}
    (hlexeme : lexer.lexeme? rest = some (scanner, length)) :
    ∃ rule ∈ rules, rule.Anchors scanner rest length := by
  obtain ⟨scanner', hmem, hmap⟩ := List.exists_of_findSome?_eq_some hlexeme
  obtain ⟨length', hlength, heq⟩ := Option.map_eq_some_iff.1 hmap
  cases heq
  obtain ⟨rule, hrule, hcompile⟩ := exists_rule_of_mem hlexer hmem
  exact ⟨rule, hrule, LexicalRule.anchors_of_lexemeLength? (hcloses rule hrule) hcompile hlength⟩

theorem exists_owns_of_mem
    (hcloses : ∀ rule ∈ rules, Pattern.overcloses rule.pattern = false)
    (hlexer : ofRules rules = .ok lexer) {input : String} {chain : Chain}
    (hchain : lexer.tokenize input = .ok chain) {token : Token} (hmem : token ∈ chain) :
    ∃ rule ∈ rules, rule.Owns lexer input token := by
  obtain ⟨lexemes, left, hcuts, hends⟩ := lexer.exists_cuts input.toList
  rw [hcuts.tokenize_eq rfl hends] at hchain
  obtain ⟨-, hchain⟩ := ite_eq_iff.1 hchain |>.resolve_right (by simp)
  cases hchain
  obtain ⟨lexeme, before, rest, hinput, ⟨-, htakes⟩, rfl⟩ :=
    hcuts.exists_of_mem_tokens (List.mem_toArray.1 hmem)
  have hsound := isSound_of_ofRules hlexer
  have hlexeme := (picks_iff hsound).1 (htakes.picks hsound)
  obtain ⟨rule, hrule, hanchors⟩ := exists_anchors_of_lexeme? hcloses hlexer hlexeme
  refine ⟨rule, hrule, LexicalRule.kind_of_compile? hanchors.compiled, before, rest,
    lexeme.scanner, ?_⟩
  have htext : (lexeme.token before).text = String.ofList lexeme.text := rfl
  rw [htext, String.toList_ofList, String.length_ofList]
  exact ⟨hinput, (byteLength_eq_utf8ByteSize before).symm, hlexeme, hanchors⟩

/-- **Patterns are anchored unless they close the group around them.** Rules whose patterns do not
do so are accepted if the patterns are read on their own and may stand inside a group, and refused
for the first that is not or may not; where there is no sign of a comment, only depth and size can
be to blame for the latter. Whatever a lexer of such rules finds begins where it looks, and is
described by the pattern of the rule; and so is every token, from its first character to its last.
-/
theorem ofRules_anchored
    (hcloses : ∀ rule ∈ rules, Pattern.overcloses rule.pattern = false) :
    ((∃ lexer, ofRules rules = .ok lexer) ↔ ∀ rule ∈ rules, ∃ part, rule.IsEnclosable part) ∧
    (∀ invalid, ofRules rules = .error invalid ↔
      ∃ before rule after, rules = before ++ rule :: after ∧
        (∀ earlier ∈ before, ∃ part, earlier.IsEnclosable part) ∧
        (¬ ∃ part, rule.IsEnclosable part) ∧ invalid = ⟨before.length, rule.pattern⟩) ∧
    (∀ rule ∈ rules, '#' ∉ rule.pattern.toList →
      ∀ part, Pattern.part? rule.pattern = some part →
        Pattern.part? (rule.pattern ++ ")") = none) ∧
    ∀ lexer, ofRules rules = .ok lexer →
      (∀ rest scanner length, lexer.lexeme? rest = some (scanner, length) →
        ∃ rule ∈ rules, rule.Anchors scanner rest length) ∧
      ∀ input chain, lexer.tokenize input = .ok chain →
        ∀ token ∈ chain, ∃ rule ∈ rules, rule.Owns lexer input token := by
  refine ⟨?_, ?_, ?_, ?_⟩
  · rw [exists_ofRules_eq_ok_iff]
    exact forall₂_congr fun rule hrule => LexicalRule.isSome_compile?_iff (hcloses rule hrule)
  · intro invalid
    rw [ofRules_eq_error_iff]
    refine exists_congr fun before => exists_congr fun rule => exists_congr fun after =>
      and_congr_right fun hrules => ?_
    subst hrules
    obtain ⟨hbefore, hhere⟩ := List.forall_mem_append.1 hcloses
    have hrule := (List.forall_mem_cons.1 hhere).1
    refine and_congr ?_ (and_congr_left' ?_)
    · exact forall₂_congr fun earlier hearlier =>
        LexicalRule.isSome_compile?_iff (hbefore earlier hearlier)
    · rw [← LexicalRule.isSome_compile?_iff hrule, Option.not_isSome_iff_eq_none]
  · exact fun rule _ hcomment part hread => Pattern.part?_behind_of_notMem hread hcomment
  · intro lexer hlexer
    exact ⟨fun rest scanner length => exists_anchors_of_lexeme? hcloses hlexer,
      fun input chain hchain token => exists_owns_of_mem hcloses hlexer hchain⟩

/-- Letters with blanks between them, which are left out. The letter behind the bar is anchored as
well as the run before it. A rule with a comment at the end is refused, for it swallows the
parenthesis; and so is one with a group that stays open, which the parenthesis only seems to
close. -/
theorem ofRules_anchored_letters :
    ∃ (rules : List LexicalRule) (commented opened : LexicalRule) (lexer : Lexer) (chain : Chain),
      (∀ rule ∈ rules ++ [commented, opened], Pattern.overcloses rule.pattern = false) ∧
      ofRules rules = .ok lexer ∧ (∀ rule ∈ rules, ∃ part, rule.IsEnclosable part) ∧
      lexer.tokenize "b aa" = .ok chain ∧ chain.toList.map (·.text) = ["b", "aa"] ∧
      (∀ token ∈ chain, ∃ rule ∈ rules, rule.Owns lexer "b aa" token) ∧
      ofRules (rules ++ [commented]) = .error ⟨2, commented.pattern⟩ ∧
      ofRules (rules ++ [opened]) = .error ⟨2, opened.pattern⟩ := by
  let rules : List LexicalRule := [⟨true, "a+|b", "letters"⟩, ⟨false, " ", "blank"⟩]
  let commented : LexicalRule := ⟨true, "(?x) a # once", "letters"⟩
  let opened : LexicalRule := ⟨true, "(a", "letters"⟩
  have hall : ∀ rule ∈ rules ++ [commented, opened], Pattern.overcloses rule.pattern = false := by
    simp only [rules, commented, opened, List.cons_append, List.nil_append, List.forall_mem_cons]
    exact ⟨by decide +kernel, by decide +kernel, by decide +kernel, by decide +kernel,
      List.forall_mem_nil _⟩
  obtain ⟨hcloses, hrefusable⟩ := List.forall_mem_append.1 hall
  let letters : Pattern := .choice (.repeated (.literal ['a']) 1 none true) (.literal ['b'])
  let scanner (keep : Bool) (kind : String) (pattern : Pattern) : Scanner :=
    ⟨keep, kind, (Program.ofPattern (.seq (.look .textStart) pattern)).find?⟩
  let letter (text : List Char) : Lexeme := ⟨scanner true "letters" letters, text⟩
  let blank : Lexeme := ⟨scanner false "blank" (.literal [' ']), [' ']⟩
  let lexer : Lexer := [(letter []).scanner, blank.scanner]
  have hlexer : ofRules rules = .ok lexer := rfl
  have henclosable := (ofRules_anchored hcloses).1.1 ⟨lexer, hlexer⟩
  have hrefused : ∀ rule ∈ [commented, opened], (¬ ∃ part, rule.IsEnclosable part) →
      ofRules (rules ++ [rule]) = .error ⟨2, rule.pattern⟩ := by
    intro rule hmem hnot
    have hboth := List.forall_mem_append.2
      ⟨hcloses, List.forall_mem_singleton.2 (hrefusable rule hmem)⟩
    exact ((ofRules_anchored hboth).2.1 _).2 ⟨rules, rule, [], rfl, henclosable, hnot, rfl⟩
  have hcommented := hrefused commented (by simp) fun ⟨_, h⟩ =>
    absurd h.open_ended (by decide +kernel)
  have hopened := hrefused opened (by simp) fun ⟨_, h⟩ => by
    have hread : Pattern.part? opened.pattern = none := by decide +kernel
    rw [h.readable] at hread
    cases hread
  have hcuts : lexer.Cuts "b aa".toList [letter ['b'], blank, letter ['a', 'a']] [] :=
    .next rfl ⟨by simp, 1, by cbv, rfl⟩ (.next rfl ⟨by simp, 1, by cbv, rfl⟩
      (.next rfl ⟨by simp, 2, by cbv, rfl⟩ (.none _)))
  have hchain := hcuts.tokenize_eq rfl (absurd rfl)
  rw [if_pos rfl] at hchain
  exact ⟨rules, commented, opened, lexer, _, hall, hlexer, henclosable, hchain, by cbv,
    ((ofRules_anchored hcloses).2.2.2 lexer hlexer).2 _ _ hchain, hcommented, hopened⟩

/-- A pattern may close the group. This one opens another, so that only what is before the bar is
anchored. What is found then begins behind a letter, which the token takes in. -/
theorem ofRules_unanchored :
    ∃ (rule : LexicalRule) (scanner : Scanner), rule = ⟨true, "a)|(?:b", "letter"⟩ ∧
      Pattern.overcloses rule.pattern ∧ Pattern.read? rule.pattern = none ∧
      ofRules [rule] = .ok [scanner] ∧
      lexeme? [scanner] "xb".toList = some (scanner, 2) ∧
      scanner.find? "xb".toList = some ⟨1, 2⟩ ∧
      tokenize [scanner] "xb" = .ok #[⟨"letter", "xb", ⟨0, 1, 1, 1, 3⟩⟩] := by
  let unanchored : Pattern := .choice (.seq (.look .textStart) (.literal ['a'])) (.literal ['b'])
  let scanner : Scanner := ⟨true, "letter", (Program.ofPattern unanchored).find?⟩
  have hlexeme : lexeme? [scanner] "xb".toList = some (scanner, 2) := by cbv
  have hcuts : Cuts [scanner] "xb".toList [⟨scanner, ['x', 'b']⟩] [] :=
    .next rfl ⟨by simp, 2, hlexeme, rfl⟩ (.none _)
  have hchain := hcuts.tokenize_eq rfl (absurd rfl)
  rw [if_pos rfl] at hchain
  exact ⟨_, scanner, rfl, by decide +kernel, by decide +kernel, rfl, hlexeme, by cbv, hchain⟩

end Lexer

end TokenGrammar
