import Mathlib
import TokenGrammar.Proofs.Searching

/-!
# How an input is cut into lexemes

A lexer picks, at the beginning of a text, the first of its rules that finds something which is not
empty, and takes everything up to its end. Lexemes that are picked one after the other segment the
text, up to a rest. There is one longest segmentation, and it decides what tokenizing yields: the
tokens of its kept lexemes if nothing is left, and otherwise a complaint about the rest, where no
rule finds anything.

The byte offset and the place that tokenizing carries along are those of the text behind it, counted
from scratch.
-/

namespace TokenGrammar

/-- A stretch of the input and the rule that found it. -/
structure Lexeme where
  scanner : Scanner
  text : List Char

/-- That a rule finds something which is not empty, and where it ends. -/
def Scanner.Finds (scanner : Scanner) (rest : List Char) (length : Nat) : Prop :=
  ∃ span, scanner.find? rest = some span ∧ span.start ≠ span.stop ∧ span.stop = length

/-- That a lexeme belongs to the first rule that finds anything. -/
def Lexer.Picks (lexer : Lexer) (rest : List Char) (lexeme : Lexeme) : Prop :=
  ∃ earlier later, lexer = earlier ++ lexeme.scanner :: later ∧
    (∀ scanner ∈ earlier, ∀ length, ¬ scanner.Finds rest length) ∧
    lexeme.scanner.Finds rest lexeme.text.length

/-- Consecutive lexemes from the beginning of a text, and what they leave of it. -/
inductive Segments (picks : List Char → Lexeme → Prop) :
    List Char → List Lexeme → List Char → Prop
  | none (text : List Char) : Segments picks text [] text
  | next {lexeme : Lexeme} {text rest left : List Char} {lexemes : List Lexeme}
      (htext : text = lexeme.text ++ rest) (hpicks : picks text lexeme)
      (hrest : Segments picks rest lexemes left) : Segments picks text (lexeme :: lexemes) left

/-- The consecutive lexemes of which there are the most. -/
structure Lexer.Longest (lexer : Lexer) (text : List Char) (lexemes : List Lexeme)
    (left : List Char) : Prop where
  segments : Segments lexer.Picks text lexemes left
  longest : ∀ lexemes' left', Segments lexer.Picks text lexemes' left' →
    lexemes'.length ≤ lexemes.length

namespace Lexeme

def covered (lexemes : List Lexeme) : List Char := lexemes.flatMap (·.text)

def kept (lexemes : List Lexeme) : List (String × String) :=
  (lexemes.filter (·.scanner.keep)).map fun lexeme =>
    (lexeme.scanner.kind, String.ofList lexeme.text)

@[simp] theorem covered_nil : covered [] = [] := rfl

@[simp] theorem covered_cons (lexeme : Lexeme) (lexemes : List Lexeme) :
    covered (lexeme :: lexemes) = lexeme.text ++ covered lexemes := rfl

end Lexeme

/-! ### Counting from scratch -/

/-- The place behind a text: its line breaks and what comes after the last one are counted. -/
def Place.behind (text : List Char) : Place :=
  ⟨1 + text.count '\n', 1 + (text.reverse.takeWhile (· ≠ '\n')).length⟩

def Position.between (before text : List Char) : Position where
  index := (String.ofList before).utf8ByteSize
  rowBegin := (Place.behind before).row
  columnBegin := (Place.behind before).column
  rowEnd := (Place.behind (before ++ text)).row
  columnEnd := (Place.behind (before ++ text)).column

theorem Place.behind_concat (text : List Char) (c : Char) :
    Place.behind (text ++ [c]) = (Place.behind text).next c := by
  by_cases hc : c = '\n' <;> simp [Place.behind, Place.next, hc, Nat.add_comm]

/-- Stepping from place to place gives the same as counting. -/
theorem Place.after_behind (before text : List Char) :
    (Place.behind before).after text = Place.behind (before ++ text) := by
  induction text generalizing before with
  | nil => rw [List.append_nil]; rfl
  | cons c text ih =>
      have hsplit : before ++ c :: text = before ++ [c] ++ text := by simp
      rw [hsplit, ← ih (before ++ [c]), Place.behind_concat]
      rfl

theorem byteLength_eq_utf8ByteSize (text : List Char) :
    byteLength text = (String.ofList text).utf8ByteSize := by
  suffices hfrom : ∀ bytes, text.foldl (fun bytes c => bytes + c.utf8Size) bytes
      = bytes + (String.ofList text).utf8ByteSize by
    rw [byteLength, hfrom, Nat.zero_add]
  induction text with
  | nil => exact fun _ => rfl
  | cons c text ih =>
      intro bytes
      rw [List.foldl_cons, ih, String.ofList_cons, String.utf8ByteSize_append,
        String.utf8ByteSize_singleton, Nat.add_assoc]

theorem byteLength_append (before text : List Char) :
    byteLength (before ++ text) = byteLength before + byteLength text := by
  simp only [byteLength_eq_utf8ByteSize, String.ofList_append, String.utf8ByteSize_append]

theorem Position.ofText_eq_between (before text : List Char) :
    Position.ofText (byteLength before) (Place.behind before) text = .between before text := by
  rw [Position.ofText, Place.after_behind, byteLength_eq_utf8ByteSize]
  rfl

/-! ### What tokenizing does -/

def Lexeme.token (before : List Char) (lexeme : Lexeme) : Token :=
  ⟨lexeme.scanner.kind, String.ofList lexeme.text, .between before lexeme.text⟩

def Lexeme.tokens (before : List Char) : List Lexeme → List Token
  | [] => []
  | lexeme :: lexemes =>
      if lexeme.scanner.keep then lexeme.token before :: tokens (before ++ lexeme.text) lexemes
      else tokens (before ++ lexeme.text) lexemes

def Lexer.Takes (lexer : Lexer) (rest : List Char) (lexeme : Lexeme) : Prop :=
  ∃ length, lexer.lexeme? rest = some (lexeme.scanner, length) ∧ lexeme.text = rest.take length

theorem Lexer.Takes.text_ne_nil {lexer : Lexer} {rest : List Char} {lexeme : Lexeme}
    (h : lexer.Takes rest lexeme) (hrest : rest ≠ []) : lexeme.text ≠ [] := by
  obtain ⟨length, hlexeme, htext⟩ := h
  have hpos := Lexer.pos_of_lexeme? hlexeme
  rw [htext, Ne, List.take_eq_nil_iff]
  rintro (hzero | hnil)
  · omega
  · exact hrest hnil

namespace Lexer

variable {lexer : Lexer} {rest : List Char}

theorem tokenizeFrom_nil (index : Nat) (place : Place) (tokens : Chain) :
    lexer.tokenizeFrom index place tokens [] = .ok tokens := by
  rw [tokenizeFrom, dif_pos rfl]

theorem tokenizeFrom_of_lexeme?_eq_none (hrest : rest ≠ []) (hnone : lexer.lexeme? rest = none)
    (index : Nat) (place : Place) (tokens : Chain) :
    lexer.tokenizeFrom index place tokens rest
      = .error ⟨.ofText index place [], String.ofList rest⟩ := by
  rw [tokenizeFrom, dif_neg hrest]
  split
  · rfl
  · rename_i hsome
    rw [hnone] at hsome
    cases hsome

theorem tokenizeFrom_of_lexeme?_eq_some {scanner : Scanner} {length : Nat} (hrest : rest ≠ [])
    (hsome : lexer.lexeme? rest = some (scanner, length)) (index : Nat) (place : Place)
    (tokens : Chain) :
    lexer.tokenizeFrom index place tokens rest
      = lexer.tokenizeFrom (index + byteLength (rest.take length))
          (place.after (rest.take length))
          (if scanner.keep then
            tokens.push ⟨scanner.kind, String.ofList (rest.take length),
              .ofText index place (rest.take length)⟩
          else tokens)
          (rest.drop length) := by
  rw [tokenizeFrom, dif_neg hrest]
  split
  · rename_i hnone
    rw [hsome] at hnone
    cases hnone
  · rename_i hsome'
    rw [hsome] at hsome'
    cases hsome'
    rfl

theorem tokenizeFrom_behind {lexeme : Lexeme} (hrest : rest ≠ []) (htakes : lexer.Takes rest lexeme)
    (before : List Char) (tokens : Chain) :
    ∃ later, rest = lexeme.text ++ later ∧
      lexer.tokenizeFrom (byteLength before) (.behind before) tokens rest
        = lexer.tokenizeFrom (byteLength (before ++ lexeme.text)) (.behind (before ++ lexeme.text))
            (if lexeme.scanner.keep then tokens.push (lexeme.token before) else tokens) later := by
  obtain ⟨length, hsome, htext⟩ := htakes
  refine ⟨rest.drop length, by rw [htext, List.take_append_drop], ?_⟩
  rw [tokenizeFrom_of_lexeme?_eq_some hrest hsome, ← htext, ← byteLength_append,
    Place.after_behind, Position.ofText_eq_between]
  rfl

/-- Tokenizing behind a text goes through consecutive lexemes, until nothing is left or no rule
finds anything in what is left. The induction is on the length of the text that is left. -/
theorem tokenizeFrom_segments (lexer : Lexer) (before rest : List Char) (tokens : Chain) :
    ∃ lexemes left,
      Segments (fun text lexeme => text ≠ [] ∧ lexer.Takes text lexeme) rest lexemes left ∧
      (left = [] ∧ lexer.tokenizeFrom (byteLength before) (.behind before) tokens rest
          = .ok (tokens ++ (Lexeme.tokens before lexemes).toArray) ∨
        left ≠ [] ∧ lexer.lexeme? left = none ∧
          lexer.tokenizeFrom (byteLength before) (.behind before) tokens rest
            = .error ⟨.between (before ++ Lexeme.covered lexemes) [], String.ofList left⟩) := by
  induction hsize : rest.length using Nat.strongRecOn generalizing before rest tokens with
  | _ size ih =>
      by_cases hempty : rest = []
      · subst hempty
        refine ⟨[], [], .none [], .inl ⟨rfl, ?_⟩⟩
        rw [tokenizeFrom_nil, Lexeme.tokens, Array.append_empty]
      · cases hlexeme : lexer.lexeme? rest with
        | none =>
            refine ⟨[], rest, .none rest, .inr ⟨hempty, hlexeme, ?_⟩⟩
            rw [tokenizeFrom_of_lexeme?_eq_none hempty hlexeme, Position.ofText_eq_between,
              Lexeme.covered_nil, List.append_nil]
        | some found =>
            obtain ⟨scanner, length⟩ := found
            let lexeme : Lexeme := ⟨scanner, rest.take length⟩
            have htakes : lexer.Takes rest lexeme := ⟨length, hlexeme, rfl⟩
            obtain ⟨later, hrest, hstep⟩ := tokenizeFrom_behind hempty htakes before tokens
            have hshorter : later.length < size := by
              have hpos := List.length_pos_iff.2 (htakes.text_ne_nil hempty)
              rw [← hsize, hrest, List.length_append]
              omega
            obtain ⟨lexemes, left, hsegments, hends⟩ :=
              ih later.length hshorter (before ++ lexeme.text) later
                (if scanner.keep then tokens.push (lexeme.token before) else tokens) rfl
            refine ⟨lexeme :: lexemes, left, .next hrest ⟨hempty, htakes⟩ hsegments, ?_⟩
            have htokens :
                (if scanner.keep then tokens.push (lexeme.token before) else tokens)
                  ++ (Lexeme.tokens (before ++ lexeme.text) lexemes).toArray
                  = tokens ++ (Lexeme.tokens before (lexeme :: lexemes)).toArray := by
              rw [Lexeme.tokens]
              by_cases hkeep : scanner.keep <;> simp [hkeep, lexeme]
            rw [hstep, Lexeme.covered_cons, ← List.append_assoc, ← htokens]
            exact hends

end Lexer

/-! ### Segmentations -/

namespace Segments

variable {picks : List Char → Lexeme → Prop} {text left : List Char} {lexemes : List Lexeme}

theorem imp {weaker : List Char → Lexeme → Prop} (h : Segments picks text lexemes left)
    (himp : ∀ text lexeme, picks text lexeme → weaker text lexeme) :
    Segments weaker text lexemes left := by
  induction h with
  | none text => exact .none text
  | next htext hpicks _ ih => exact .next htext (himp _ _ hpicks) ih

/-- Nothing is lost: the text is what the lexemes cover, and what they leave. -/
theorem eq_covered_append (h : Segments picks text lexemes left) :
    text = Lexeme.covered lexemes ++ left := by
  induction h with
  | none text => rfl
  | next htext _ _ ih => rw [htext, ih, Lexeme.covered_cons, List.append_assoc]

theorem exists_of_mem (h : Segments picks text lexemes left) {lexeme : Lexeme}
    (hmem : lexeme ∈ lexemes) : ∃ rest, picks rest lexeme := by
  induction h with
  | none => cases hmem
  | next _ hpicks _ ih =>
      rcases List.mem_cons.1 hmem with rfl | hmem
      · exact ⟨_, hpicks⟩
      · exact ih hmem

theorem of_append {lexemes' : List Lexeme} (h : Segments picks text (lexemes ++ lexemes') left) :
    ∃ between, Segments picks text lexemes between := by
  induction lexemes generalizing text with
  | nil => exact ⟨text, .none text⟩
  | cons lexeme lexemes ih =>
      cases h with
      | next htext hpicks hrest =>
          obtain ⟨between, hbetween⟩ := ih hrest
          exact ⟨between, .next htext hpicks hbetween⟩

/-- Where at most one lexeme is picked at a time, a segmentation behind which none is picked goes on
from every other one. -/
theorem isPrefix (h : Segments picks text lexemes left)
    (hunique : ∀ text lexeme lexeme', picks text lexeme → picks text lexeme' →
      lexeme.scanner = lexeme'.scanner ∧ lexeme.text.length = lexeme'.text.length)
    (hends : ∀ lexeme, ¬ picks left lexeme) {lexemes' : List Lexeme} {left' : List Char}
    (h' : Segments picks text lexemes' left') : lexemes' <+: lexemes := by
  induction h' generalizing lexemes with
  | none => exact List.nil_prefix
  | @next lexeme' text rest' left' lexemes' htext' hpicks' _ ih =>
      cases h with
      | none => exact absurd hpicks' (hends lexeme')
      | @next lexeme _ rest _ lexemes htext hpicks hrest =>
          obtain ⟨hscanner, hlength⟩ := hunique text lexeme lexeme' hpicks hpicks'
          obtain ⟨hsame, rfl⟩ := List.append_inj (htext.symm.trans htext') hlength
          obtain rfl : lexeme = lexeme' := by
            cases lexeme
            cases lexeme'
            cases hscanner
            cases hsame
            rfl
          exact List.prefix_cons_inj lexeme |>.2 (ih hrest)

end Segments

/-! ### The longest segmentation -/

section Sound

variable {lexer : Lexer} (hsound : ∀ scanner ∈ lexer, scanner.IsSound)

theorem Scanner.IsSound.finds_iff {scanner : Scanner} (hscanner : scanner.IsSound)
    {rest : List Char} {length : Nat} :
    scanner.Finds rest length ↔ Lexer.lexemeLength? scanner rest = some length := by
  rw [Lexer.lexemeLength?, Option.bind_eq_some_iff]
  refine exists_congr fun span => and_congr_right fun hfind => ?_
  have hfits := (hscanner rest span hfind).start_le_stop
  rw [Option.ite_none_right_eq_some, Option.some_inj]
  refine and_congr_left fun _ => ?_
  omega

include hsound

theorem Lexer.picks_iff {rest : List Char} {lexeme : Lexeme} :
    lexer.Picks rest lexeme ↔ lexer.lexeme? rest = some (lexeme.scanner, lexeme.text.length) := by
  rw [Lexer.lexeme?, List.findSome?_eq_some_iff]
  constructor
  · rintro ⟨earlier, later, hlexer, hearlier, hfinds⟩
    have hmem : lexeme.scanner ∈ lexer := by simp [hlexer]
    refine ⟨earlier, lexeme.scanner, later, hlexer, ?_, fun scanner hscanner => ?_⟩
    · rw [(hsound _ hmem).finds_iff.1 hfinds]
      rfl
    · have hmem : scanner ∈ lexer := by simp [hlexer, hscanner]
      refine Option.map_eq_none_iff.2 (Option.eq_none_iff_forall_not_mem.2 fun length hlength => ?_)
      exact hearlier scanner hscanner length ((hsound _ hmem).finds_iff.2 hlength)
  · rintro ⟨earlier, scanner, later, hlexer, hfound, hearlier⟩
    obtain ⟨_, hlength, heq⟩ := Option.map_eq_some_iff.1 hfound
    cases heq
    have hmem : lexeme.scanner ∈ lexer := by simp [hlexer]
    refine ⟨earlier, later, hlexer, fun scanner hscanner length hfinds => ?_,
      (hsound _ hmem).finds_iff.2 hlength⟩
    have hmem : scanner ∈ lexer := by simp [hlexer, hscanner]
    have hnone := hearlier scanner hscanner
    rw [(hsound _ hmem).finds_iff.1 hfinds] at hnone
    cases hnone

theorem Lexer.Picks.unique {rest : List Char} {lexeme lexeme' : Lexeme}
    (h : lexer.Picks rest lexeme) (h' : lexer.Picks rest lexeme') :
    lexeme.scanner = lexeme'.scanner ∧ lexeme.text.length = lexeme'.text.length := by
  rw [Lexer.picks_iff hsound] at h h'
  exact Prod.mk.inj (Option.some.inj (h.symm.trans h'))

theorem Lexer.Takes.picks {rest : List Char} {lexeme : Lexeme} (h : lexer.Takes rest lexeme) :
    lexer.Picks rest lexeme := by
  obtain ⟨length, hlexeme, htext⟩ := h
  have hle : length ≤ rest.length := by
    obtain ⟨scanner, hscanner, hmap⟩ := List.exists_of_findSome?_eq_some hlexeme
    obtain ⟨_, hlength, heq⟩ := Option.map_eq_some_iff.1 hmap
    cases heq
    obtain ⟨span, hfind, _, rfl⟩ := (hsound _ hscanner).finds_iff.2 hlength
    exact (hsound _ hscanner rest span hfind).stop_le_length
  rw [Lexer.picks_iff hsound, htext, List.length_take_of_le hle]
  exact hlexeme

theorem Lexer.not_finds_of_lexeme?_eq_none {rest : List Char} (hnone : lexer.lexeme? rest = none)
    {scanner : Scanner} (hscanner : scanner ∈ lexer) (length : Nat) :
    ¬ scanner.Finds rest length := by
  intro hfinds
  have hlexeme := List.findSome?_eq_none_iff.1 hnone scanner hscanner
  rw [(hsound _ hscanner).finds_iff.1 hfinds] at hlexeme
  cases hlexeme

theorem Lexer.not_picks_nil (lexeme : Lexeme) : ¬ lexer.Picks [] lexeme := by
  rintro ⟨earlier, later, hlexer, _, span, hfind, hne, _⟩
  have hmem : lexeme.scanner ∈ lexer := by simp [hlexer]
  obtain ⟨hle, hstop⟩ := hsound _ hmem [] span hfind
  rw [List.length_nil] at hstop
  omega

theorem Lexer.Longest.of_ends {text left : List Char} {lexemes : List Lexeme}
    (hsegments : Segments lexer.Picks text lexemes left)
    (hends : ∀ lexeme, ¬ lexer.Picks left lexeme) : lexer.Longest text lexemes left :=
  ⟨hsegments, fun _ _ h =>
    (hsegments.isPrefix (fun _ _ _ => Lexer.Picks.unique hsound) hends h).length_le⟩

theorem Lexer.Longest.unique {text left left' : List Char} {lexemes lexemes' : List Lexeme}
    (hsegments : Segments lexer.Picks text lexemes left)
    (hends : ∀ lexeme, ¬ lexer.Picks left lexeme) (h' : lexer.Longest text lexemes' left') :
    lexemes' = lexemes ∧ left' = left := by
  have hprefix := hsegments.isPrefix (fun _ _ _ => Lexer.Picks.unique hsound) hends h'.segments
  have hsame := hprefix.eq_of_length_le (h'.longest _ _ hsegments)
  subst hsame
  have htext := hsegments.eq_covered_append.symm.trans h'.segments.eq_covered_append
  exact ⟨rfl, (List.append_cancel_left htext).symm⟩

end Sound

theorem Lexeme.map_tokens (before : List Char) (lexemes : List Lexeme) :
    (Lexeme.tokens before lexemes).map (fun token => (token.kind, token.text))
      = Lexeme.kept lexemes := by
  induction lexemes generalizing before with
  | nil => rfl
  | cons lexeme lexemes ih =>
      rw [Lexeme.tokens, Lexeme.kept, List.filter_cons]
      split
      · rw [List.map_cons, ih, List.map_cons]
        rfl
      · exact ih _

theorem Segments.isValid_covered {picks : List Char → Lexeme → Prop} {input : String}
    {lexemes : List Lexeme} {left : List Char} (h : Segments picks input.toList lexemes left) :
    (String.Pos.Raw.mk (String.ofList (Lexeme.covered lexemes)).utf8ByteSize).IsValid input := by
  refine String.Pos.Raw.isValid_iff_exists_append.2 ⟨_, String.ofList left, ?_, rfl⟩
  rw [← String.ofList_append, ← h.eq_covered_append, String.ofList_toList]

/-- **Tokenizing yields the longest segmentation.** It always comes to an end, and never between two
bytes of one character. -/
theorem Lexer.tokenize_longest {lexer : Lexer} (hsound : ∀ scanner ∈ lexer, scanner.IsSound)
    (input : String) :
    ∃ lexemes left, lexer.Longest input.toList lexemes left ∧
      (∀ lexemes' left', lexer.Longest input.toList lexemes' left' →
        lexemes' = lexemes ∧ left' = left) ∧
      (∀ lexeme ∈ lexemes, lexeme.text ≠ []) ∧
      (∀ reached, reached <+: lexemes →
        (String.Pos.Raw.mk (String.ofList (Lexeme.covered reached)).utf8ByteSize).IsValid input) ∧
      (left = [] → ∃ chain, lexer.tokenize input = .ok chain ∧
        chain.toList.map (fun token => (token.kind, token.text)) = Lexeme.kept lexemes) ∧
      (left ≠ [] → ∃ failure, lexer.tokenize input = .error failure ∧
        failure.position.index = (String.ofList (Lexeme.covered lexemes)).utf8ByteSize ∧
        failure.rest = String.ofList left ∧
        ∀ scanner ∈ lexer, ∀ length, ¬ scanner.Finds left length) := by
  obtain ⟨lexemes, left, hsegments, hends⟩ :=
    lexer.tokenizeFrom_segments [] input.toList #[]
  have hpicked : Segments lexer.Picks input.toList lexemes left :=
    hsegments.imp fun _ _ htakes => htakes.2.picks hsound
  have hnone : ∀ lexeme, ¬ lexer.Picks left lexeme := by
    obtain ⟨rfl, _⟩ | ⟨_, hleft, _⟩ := hends
    · exact Lexer.not_picks_nil hsound
    · intro lexeme hpicks
      rw [Lexer.picks_iff hsound, hleft] at hpicks
      cases hpicks
  refine ⟨lexemes, left, .of_ends hsound hpicked hnone,
    fun _ _ => Lexer.Longest.unique hsound hpicked hnone, fun lexeme hmem => ?_,
    fun reached hprefix => ?_, fun hleft => ?_, fun hleft => ?_⟩
  · obtain ⟨rest, hrest, htakes⟩ := hsegments.exists_of_mem hmem
    exact htakes.text_ne_nil hrest
  · obtain ⟨more, rfl⟩ := hprefix
    obtain ⟨between, hreached⟩ := hsegments.of_append
    exact hreached.isValid_covered
  · obtain ⟨_, hok⟩ | ⟨hne, _⟩ := hends
    · refine ⟨_, hok, ?_⟩
      rw [Array.toList_append]
      exact Lexeme.map_tokens [] lexemes
    · exact absurd hleft hne
  · obtain ⟨hnil, _⟩ | ⟨_, hlexeme, herror⟩ := hends
    · exact absurd hnil hleft
    · refine ⟨_, herror, rfl, rfl, fun scanner hscanner length => ?_⟩
      exact Lexer.not_finds_of_lexeme?_eq_none hsound hlexeme hscanner length

/-- Runs of letters, of which the blanks between them are no part, up to a digit. -/
theorem Lexer.tokenize_longest_letters :
    ∃ (lexer : Lexer) (lexemes : List Lexeme) (failure : Untokenized),
      (∀ scanner ∈ lexer, scanner.IsSound) ∧
        lexer.Longest "ab\nü7".toList lexemes ['7'] ∧
        lexer.tokenize "ab\nü7" = .error failure ∧
        failure.position.index = (String.ofList (Lexeme.covered lexemes)).utf8ByteSize ∧
        failure = ⟨⟨5, 2, 2, 2, 2⟩, "7"⟩ := by
  let run (accepts : Char → Bool) (rest : List Char) : Option Span :=
    if (rest.takeWhile accepts).isEmpty then none else some ⟨0, (rest.takeWhile accepts).length⟩
  let isLetter (c : Char) : Bool := c.isAlpha || c == 'ü'
  let lexer : Lexer := [⟨true, "word", run isLetter⟩, ⟨false, "blank", run Char.isWhitespace⟩]
  have hrun : ∀ accepts rest span, run accepts rest = some span → span.Fits rest := by
    intro accepts rest span hspan
    simp only [run, Option.ite_none_left_eq_some, Option.some_inj] at hspan
    obtain ⟨_, rfl⟩ := hspan
    exact ⟨Nat.zero_le _, (List.takeWhile_prefix _).length_le⟩
  have hsound : ∀ scanner ∈ lexer, scanner.IsSound := by
    simp only [lexer, List.forall_mem_cons]
    exact ⟨hrun isLetter, hrun Char.isWhitespace, List.forall_mem_nil _⟩
  have htokenize : lexer.tokenize "ab\nü7" = .error ⟨⟨5, 2, 2, 2, 2⟩, "7"⟩ := by cbv
  obtain ⟨lexemes, left, hlongest, _, _, _, hcovers, hfails⟩ :=
    Lexer.tokenize_longest hsound "ab\nü7"
  have hleft : left ≠ [] := by
    rintro rfl
    obtain ⟨chain, hchain, _⟩ := hcovers rfl
    rw [htokenize] at hchain
    cases hchain
  obtain ⟨failure, hfailure, hindex, hrest, _⟩ := hfails hleft
  obtain rfl : _ = failure := Except.error.inj (htokenize.symm.trans hfailure)
  obtain rfl : ['7'] = left := String.ofList_injective hrest
  exact ⟨lexer, lexemes, _, hsound, hlongest, htokenize, hindex, rfl⟩

end TokenGrammar
