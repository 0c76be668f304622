import TokenGrammar.Proofs.Lexing.Restarting

/-!
# Changing a list of rules

A list of rules may grow at its end: rules of less precedence are asked only where none of the
others finds anything. So an input that was tokenized keeps its tokens, and one that was not keeps
those before the rest, where the new rules may go on. And whether the lexemes of a rule are kept or
left out changes nothing but that: the input is cut as if all of them were kept, and the tokens of
the rules that are not kept are left out of the chain.
-/

namespace TokenGrammar

/-! ### Rules of less precedence -/

namespace Lexer

theorem ofRules_eq_error_iff {rules : List LexicalRule} {invalid : InvalidRule} :
    ofRules rules = .error invalid ↔ ∃ before rule after, rules = before ++ rule :: after ∧
      (∀ earlier ∈ before, earlier.compile?.isSome) ∧ rule.compile? = none ∧
        invalid = ⟨before.length, rule.pattern⟩ := by
  suffices hfrom : ∀ index, ofRulesFrom index rules = .error invalid ↔
      ∃ before rule after, rules = before ++ rule :: after ∧
        (∀ earlier ∈ before, earlier.compile?.isSome) ∧ rule.compile? = none ∧
          invalid = ⟨index + before.length, rule.pattern⟩ by
    rw [ofRules, hfrom 0]
    simp only [Nat.zero_add]
  induction rules with
  | nil => simp [ofRulesFrom]
  | cons first rules ih =>
      intro index
      rw [ofRulesFrom]
      cases hcompile : first.compile? with
      | none =>
          simp only [Except.error.injEq]
          constructor
          · rintro rfl
            exact ⟨[], first, rules, rfl, List.forall_mem_nil _, hcompile, rfl⟩
          · rintro ⟨before, rule, after, hrules, hbefore, hrule, rfl⟩
            cases before with
            | nil =>
                cases hrules
                rfl
            | cons earlier before =>
                cases hrules
                have hvalid := hbefore first List.mem_cons_self
                rw [hcompile] at hvalid
                cases hvalid
      | some scanner =>
          have hmap : (ofRulesFrom (index + 1) rules).map (scanner :: ·) = .error invalid ↔
              ofRulesFrom (index + 1) rules = .error invalid := by
            cases ofRulesFrom (index + 1) rules <;> simp [Except.map]
          rw [hmap, ih]
          constructor
          · rintro ⟨before, rule, after, rfl, hbefore, hrule, rfl⟩
            refine ⟨first :: before, rule, after, rfl, ?_, hrule, ?_⟩
            · exact List.forall_mem_cons.2 ⟨by rw [hcompile]; rfl, hbefore⟩
            · rw [List.length_cons, Nat.add_right_comm, Nat.add_assoc]
          · rintro ⟨before, rule, after, hrules, hbefore, hrule, rfl⟩
            cases before with
            | nil =>
                cases hrules
                rw [hcompile] at hrule
                cases hrule
            | cons earlier before =>
                cases hrules
                refine ⟨before, rule, after, rfl, (List.forall_mem_cons.1 hbefore).2, hrule, ?_⟩
                rw [List.length_cons, Nat.add_right_comm, Nat.add_assoc]

theorem ofRules_append {rules more : List LexicalRule} {lexer scanners : Lexer}
    (hlexer : ofRules rules = .ok lexer) (hmore : ofRules more = .ok scanners) :
    ofRules (rules ++ more) = .ok (lexer ++ scanners) := by
  rw [ofRules_eq_ok_iff] at hlexer hmore ⊢
  exact List.rel_append hlexer hmore

variable {lexer : Lexer}

theorem Takes.append {rest : List Char} {lexeme : Lexeme} (h : lexer.Takes rest lexeme)
    (scanners : Lexer) : Takes (lexer ++ scanners) rest lexeme := by
  obtain ⟨length, hlexeme, htext⟩ := h
  refine ⟨length, ?_, htext⟩
  rw [lexeme?] at hlexeme
  rw [lexeme?, List.findSome?_append, hlexeme]
  rfl

theorem Cuts.append_scanners {text left : List Char} {lexemes : List Lexeme}
    (h : lexer.Cuts text lexemes left) (scanners : Lexer) :
    Cuts (lexer ++ scanners) text lexemes left :=
  h.imp fun _ _ htakes => ⟨htakes.1, htakes.2.append scanners⟩

end Lexer

/-- That tokenizing with more rules keeps the tokens of the lexemes that are taken with fewer, and
fails no earlier. -/
structure Lexer.GoesOn (lexer extended : Lexer) (input : String) (lexemes : List Lexeme) :
    Prop where
  stops : ∀ failure, lexer.tokenize input = .error failure →
    failure.position.index = byteLength (Lexeme.covered lexemes)
  unchanged : ∀ chain, lexer.tokenize input = .ok chain → extended.tokenize input = .ok chain
  begins : ∀ failure chain, lexer.tokenize input = .error failure →
    extended.tokenize input = .ok chain → Lexeme.tokens [] lexemes <+: chain.toList ∧
      chain.toList.filter (fun token => token.position.index < failure.position.index)
        = Lexeme.tokens [] lexemes
  further : ∀ failure later, lexer.tokenize input = .error failure →
    extended.tokenize input = .error later → failure.position.index ≤ later.position.index

theorem Lexer.Cuts.goesOn {lexer : Lexer} {input : String} {lexemes : List Lexeme}
    {left : List Char} (h : lexer.Cuts input.toList lexemes left)
    (hends : left ≠ [] → lexer.lexeme? left = none) (scanners : Lexer) :
    lexer.GoesOn (lexer ++ scanners) input lexemes := by
  have hlexer := h.tokenize_eq rfl hends
  have hcuts := h.append_scanners scanners
  by_cases hleft : left = []
  · -- nothing is left for the other rules
    have hextended := hcuts.tokenize_eq rfl fun hne => absurd hleft hne
    have hsame : Lexer.tokenize (lexer ++ scanners) input = lexer.tokenize input :=
      hextended.trans hlexer.symm
    rw [if_pos hleft] at hlexer
    constructor
    · intro failure hfailure
      rw [hlexer] at hfailure
      cases hfailure
    · intro chain hchain
      rw [hsame, hchain]
    · intro failure chain hfailure
      rw [hlexer] at hfailure
      cases hfailure
    · intro failure later hfailure
      rw [hlexer] at hfailure
      cases hfailure
  · -- more lexemes may follow where the first rules find nothing
    obtain ⟨more, left', hmore, hends'⟩ := Lexer.exists_cuts (lexer ++ scanners) left
    have hextended := Lexer.Cuts.tokenize_eq (hcuts.append hmore) rfl hends'
    have hfailure : lexer.tokenize input
        = .error ⟨.between (Lexeme.covered lexemes) [], String.ofList left⟩ := by
      rw [hlexer, if_neg hleft]
    have hindex : (Position.between (Lexeme.covered lexemes) []).index
        = byteLength (Lexeme.covered lexemes) := (byteLength_eq_utf8ByteSize _).symm
    constructor
    · intro failure hfailure'
      obtain rfl := Except.error.inj (hfailure.symm.trans hfailure')
      exact hindex
    · intro chain hchain
      rw [hfailure] at hchain
      cases hchain
    · intro failure chain hfailure' hchain
      obtain rfl := Except.error.inj (hfailure.symm.trans hfailure')
      rw [hextended] at hchain
      split at hchain
      · cases hchain
        rw [hindex, hcuts.filter_tokens_append, Lexeme.tokens_append]
        exact ⟨List.prefix_append _ _, rfl⟩
      · cases hchain
    · intro failure later hfailure' hlater
      obtain rfl := Except.error.inj (hfailure.symm.trans hfailure')
      rw [hextended] at hlater
      split at hlater
      · cases hlater
      · cases hlater
        have hbehind : (Position.between (Lexeme.covered (lexemes ++ more)) []).index
            = byteLength (Lexeme.covered (lexemes ++ more)) :=
          (byteLength_eq_utf8ByteSize _).symm
        rw [hindex, hbehind, Lexeme.covered_append, byteLength_append]
        omega

/-! ### Rules that are kept -/

def LexicalRule.kept (rule : LexicalRule) : LexicalRule := { rule with keep := true }

def Scanner.kept (scanner : Scanner) : Scanner := { scanner with keep := true }

namespace Lexeme

/-- Consecutive lexemes behind a text, each with the token that it is if it is kept. -/
def placed (before : List Char) : List Lexeme → List (Lexeme × Token)
  | [] => []
  | lexeme :: lexemes => (lexeme, lexeme.token before) :: placed (before ++ lexeme.text) lexemes

theorem tokens_eq_map_placed (before : List Char) (lexemes : List Lexeme) :
    tokens before lexemes
      = ((placed before lexemes).filter (·.1.scanner.keep)).map (·.2) := by
  induction lexemes generalizing before with
  | nil => rfl
  | cons lexeme lexemes ih =>
      rw [tokens, placed, List.filter_cons, ih]
      split <;> rfl

def byKept (lexeme : Lexeme) : Lexeme := { lexeme with scanner := lexeme.scanner.kept }

theorem covered_map_byKept (lexemes : List Lexeme) :
    covered (lexemes.map byKept) = covered lexemes :=
  List.flatMap_map byKept (·.text) lexemes

theorem tokens_map_byKept (before : List Char) (lexemes : List Lexeme) :
    tokens before (lexemes.map byKept) = (placed before lexemes).map (·.2) := by
  induction lexemes generalizing before with
  | nil => rfl
  | cons lexeme lexemes ih =>
      have hkept : (byKept lexeme).scanner.keep = true := rfl
      rw [List.map_cons, tokens, if_pos hkept, placed, List.map_cons]
      exact congrArg _ (ih _)

end Lexeme

namespace Lexer

theorem compile?_kept (rule : LexicalRule) :
    rule.kept.compile? = rule.compile?.map Scanner.kept := by
  simp only [LexicalRule.compile?, LexicalRule.kept]
  cases Pattern.read? (LexicalRule.anchoredSource rule.pattern) <;> rfl

theorem ofRules_map_kept {rules : List LexicalRule} {lexer : Lexer}
    (hlexer : ofRules rules = .ok lexer) :
    ofRules (rules.map (·.kept)) = .ok (lexer.map (·.kept)) := by
  rw [ofRules_eq_ok_iff] at hlexer ⊢
  rw [List.forall₂_map_left_iff, List.forall₂_map_right_iff]
  apply hlexer.imp
  intro rule scanner hcompile
  rw [compile?_kept, hcompile]
  rfl

variable {lexer : Lexer}

/-- Which rule finds a lexeme does not depend on which are kept. -/
theorem lexeme?_map_kept (lexer : Lexer) (rest : List Char) :
    lexeme? (lexer.map (·.kept)) rest
      = (lexer.lexeme? rest).map fun (scanner, length) => (scanner.kept, length) := by
  rw [lexeme?, lexeme?, List.findSome?_map, List.map_findSome?]
  congr 1
  funext scanner
  show (lexemeLength? scanner rest).map _ = ((lexemeLength? scanner rest).map _).map _
  rw [Option.map_map]
  rfl

theorem Cuts.map_kept {text left : List Char} {lexemes : List Lexeme}
    (h : lexer.Cuts text lexemes left) :
    Cuts (lexer.map (·.kept)) text (lexemes.map (·.byKept)) left := by
  induction h with
  | none => exact .none _
  | @next lexeme text rest left lexemes htext hpicks _ ih =>
      obtain ⟨hne, length, hlexeme, htake⟩ := hpicks
      refine .next htext ⟨hne, length, ?_, htake⟩ ih
      rw [lexeme?_map_kept, hlexeme]
      rfl

theorem Cuts.longest {text left : List Char} {lexemes : List Lexeme}
    (h : lexer.Cuts text lexemes left) (hends : left ≠ [] → lexer.lexeme? left = none)
    (hsound : ∀ scanner ∈ lexer, scanner.IsSound) : lexer.Longest text lexemes left := by
  apply Longest.of_ends hsound
  · exact h.imp fun _ _ htakes => htakes.2.picks hsound
  · intro lexeme hpicks
    by_cases hleft : left = []
    · exact not_picks_nil hsound lexeme (hleft ▸ hpicks)
    · rw [picks_iff hsound, hends hleft] at hpicks
      cases hpicks

end Lexer

/-- That tokenizing leaves out the tokens of the rules that are not kept, of all that there are with
every rule kept, and fails alike. -/
structure Lexer.LeavesOut (lexer keeping : Lexer) (input : String) (lexemes : List Lexeme) :
    Prop where
  filters : ∀ all, keeping.tokenize input = .ok all →
    all.toList = (Lexeme.placed [] lexemes).map (·.2) ∧
      ∃ chain, lexer.tokenize input = .ok chain ∧ chain.toList
        = ((Lexeme.placed [] lexemes).filter (·.1.scanner.keep)).map (·.2)
  failure_iff : ∀ failure,
    keeping.tokenize input = .error failure ↔ lexer.tokenize input = .error failure

theorem Lexer.Cuts.leavesOut {lexer : Lexer} {input : String} {lexemes : List Lexeme}
    {left : List Char} (h : lexer.Cuts input.toList lexemes left)
    (hends : left ≠ [] → lexer.lexeme? left = none) :
    lexer.LeavesOut (lexer.map (·.kept)) input lexemes := by
  have hlexer := h.tokenize_eq rfl hends
  have hkeeping := h.map_kept.tokenize_eq rfl fun hleft => by
    rw [lexeme?_map_kept, hends hleft]
    rfl
  rw [Lexeme.tokens_map_byKept, Lexeme.covered_map_byKept] at hkeeping
  rw [Lexeme.tokens_eq_map_placed] at hlexer
  by_cases hleft : left = []
  · rw [if_pos hleft] at hlexer hkeeping
    constructor
    · intro all hall
      obtain rfl := Except.ok.inj (hkeeping.symm.trans hall)
      exact ⟨rfl, _, hlexer, rfl⟩
    · simp [hlexer, hkeeping]
  · rw [if_neg hleft] at hlexer hkeeping
    constructor
    · intro all hall
      rw [hkeeping] at hall
      cases hall
    · intro failure
      rw [hlexer, hkeeping]

/-! ### Both -/

/-- **Lists of rules may be changed.** Rules that are added at the end go on where the others come
to a rest, and the rules that are not kept are those whose tokens are left out of all. -/
theorem Lexer.ofRules_evolves {rules more : List LexicalRule} {lexer scanners : Lexer}
    (hlexer : ofRules rules = .ok lexer) (hmore : ofRules more = .ok scanners) (input : String) :
    ∃ extended keeping lexemes left, ofRules (rules ++ more) = .ok extended ∧
      ofRules (rules.map (·.kept)) = .ok keeping ∧ lexer.Longest input.toList lexemes left ∧
      lexer.GoesOn extended input lexemes ∧ lexer.LeavesOut keeping input lexemes := by
  obtain ⟨lexemes, left, hcuts, hends⟩ := lexer.exists_cuts input.toList
  exact ⟨lexer ++ scanners, lexer.map (·.kept), lexemes, left, ofRules_append hlexer hmore,
    ofRules_map_kept hlexer, hcuts.longest hends (isSound_of_ofRules hlexer),
    hcuts.goesOn hends scanners, hcuts.leavesOut hends⟩

/-- Pairs of letters with blanks between them, which are left out. A letter that stands alone is
where the input comes to a rest, and another rule goes on from there. With the blanks kept there are
three tokens of two pairs. -/
theorem Lexer.ofRules_evolves_pairs :
    ∃ (rules more : List LexicalRule) (lexer scanners extended keeping : Lexer)
      (failure : Untokenized) (longer chain all : Chain) (lexemes pairs : List Lexeme),
      (ofRules rules = .ok lexer ∧ ofRules more = .ok scanners ∧
        ofRules (rules ++ more) = .ok extended ∧ ofRules (rules.map (·.kept)) = .ok keeping) ∧
      (lexer.tokenize "ab a" = .error failure ∧ failure.position.index = 3 ∧
        extended.tokenize "ab a" = .ok longer ∧ lexer.GoesOn extended "ab a" lexemes ∧
        longer.toList.map (·.text) = ["ab", "a"] ∧ Lexeme.tokens [] lexemes <+: longer.toList) ∧
      (lexer.tokenize "ab ab" = .ok chain ∧ keeping.tokenize "ab ab" = .ok all ∧
        lexer.LeavesOut keeping "ab ab" pairs ∧
        all.toList = (Lexeme.placed [] pairs).map (·.2) ∧
        all.toList.map (·.text) = ["ab", " ", "ab"] ∧
        chain.toList.map (·.text) = ["ab", "ab"]) := by
  let scanner (keep : Bool) (kind : String) (text : List Char) : Scanner :=
    ⟨keep, kind, (Program.ofPattern (.seq (.look .textStart) (.literal text))).find?⟩
  let pair (keep : Bool) : Lexeme := ⟨scanner keep "pair" ['a', 'b'], ['a', 'b']⟩
  let blank (keep : Bool) : Lexeme := ⟨scanner keep "blank" [' '], [' ']⟩
  let single : Lexeme := ⟨scanner true "single" ['a'], ['a']⟩
  let rules : List LexicalRule := [⟨true, "ab", "pair"⟩, ⟨false, " ", "blank"⟩]
  let lexer : Lexer := [(pair true).scanner, (blank false).scanner]
  have hlexer : ofRules rules = .ok lexer := rfl
  have hmore : ofRules [⟨true, "a", "single"⟩] = .ok [single.scanner] := rfl
  obtain ⟨extended, keeping, lexemes, left, hextended, hkeeping, -, hgoes, -⟩ :=
    ofRules_evolves hlexer hmore "ab a"
  obtain ⟨extended', keeping', pairs, left', hextended', hkeeping', -, -, hleaves⟩ :=
    ofRules_evolves hlexer hmore "ab ab"
  obtain rfl := Except.ok.inj (hextended.symm.trans (ofRules_append hlexer hmore))
  obtain rfl := Except.ok.inj (hkeeping.symm.trans (ofRules_map_kept hlexer))
  obtain rfl := Except.ok.inj (hkeeping'.symm.trans (ofRules_map_kept hlexer))
  -- the letter that stands alone
  have hstops : lexer.Cuts "ab a".toList [pair true, blank false] ['a'] :=
    .next rfl ⟨by simp, 2, by cbv, rfl⟩ (.next rfl ⟨by simp, 1, by cbv, rfl⟩ (.none _))
  have hfailure : lexer.tokenize "ab a" = .error ⟨⟨3, 1, 4, 1, 4⟩, "a"⟩ := by
    rw [hstops.tokenize_eq rfl fun _ => by cbv]
    cbv
  have hsingle : Cuts (lexer ++ [single.scanner]) ['a'] [single] [] :=
    .next rfl ⟨by simp, 1, by cbv, rfl⟩ (.none _)
  have hlonger := Cuts.tokenize_eq ((hstops.append_scanners _).append hsingle) rfl
    (absurd rfl)
  rw [if_pos rfl] at hlonger
  -- two pairs
  have hpairs : lexer.Cuts "ab ab".toList [pair true, blank false, pair true] [] :=
    .next rfl ⟨by simp, 2, by cbv, rfl⟩ (.next rfl ⟨by simp, 1, by cbv, rfl⟩
      (.next rfl ⟨by simp, 2, by cbv, rfl⟩ (.none _)))
  have hchain := hpairs.tokenize_eq rfl (absurd rfl)
  have hall := hpairs.map_kept.tokenize_eq rfl (absurd rfl)
  rw [if_pos rfl] at hchain hall
  exact ⟨rules, [⟨true, "a", "single"⟩], lexer, [single.scanner], _, _, _, _, _, _, lexemes, pairs,
    ⟨hlexer, hmore, hextended, hkeeping⟩,
    ⟨hfailure, rfl, hlonger, hgoes, by cbv, (hgoes.begins _ _ hfailure hlonger).1⟩,
    ⟨hchain, hall, hleaves, (hleaves.filters _ hall).1, by cbv, by cbv⟩⟩

end TokenGrammar
