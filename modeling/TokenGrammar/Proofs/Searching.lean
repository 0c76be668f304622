import Mathlib.Data.List.Forall2
import TokenGrammar.Lexer
import TokenGrammar.Proofs.Pattern.Texts

/-!
# Searches stay within their input

What a search finds begins before it ends, and ends within the input. Threads carry the position
where they started, which never lies behind the position that the search has come to. This is an
invariant: it holds of a thread that begins, and a thread that goes on keeps it. So every rule that
is compiled from a pattern is sound, and a lexer may cut its input wherever one of its rules says
so.
-/

namespace TokenGrammar

/-- A stretch that lies within a text. -/
structure Span.Fits (span : Span) (text : List Char) : Prop where
  start_le_stop : span.start ≤ span.stop
  stop_le_length : span.stop ≤ text.length

/-- That whatever a rule finds lies within the text it looks at. -/
def Scanner.IsSound (scanner : Scanner) : Prop :=
  ∀ rest span, scanner.find? rest = some span → span.Fits rest

namespace Program

/-- What holds of every thread that a search comes to, at a position of the input: it holds of the
threads that begin, and still holds when a thread goes on. -/
structure Invariant (program : Program) (input : List Char) (Holds : Nat → Thread → Prop) :
    Prop where
  begins : ∀ position, position ≤ input.length → Holds position ⟨program.entry, position⟩
  reads : ∀ position place start members next c, Holds position ⟨place, start⟩ →
    program.code.getD place .accept = .consume members next → input[position]? = some c →
      members.contains c = true → Holds (position + 1) ⟨next, start⟩
  looks : ∀ position place start condition next, Holds position ⟨place, start⟩ →
    program.code.getD place .accept = .look condition next →
      condition.holdsAt input position = true → Holds position ⟨next, start⟩
  forks : ∀ position place start preferred other, Holds position ⟨place, start⟩ →
    program.code.getD place .accept = .fork preferred other →
      Holds position ⟨preferred, start⟩ ∧ Holds position ⟨other, start⟩

variable {program : Program} {input : List Char} {Holds : Nat → Thread → Prop}

/-- That a stretch ends where a thread accepts that began with it. -/
def IsFound (program : Program) (input : List Char) (Holds : Nat → Thread → Prop) (span : Span) :
    Prop :=
  span.stop ≤ input.length ∧ ∃ place, Holds span.stop ⟨place, span.start⟩ ∧
    program.code.getD place .accept = .accept

namespace Invariant

theorem of_mem_follow (h : program.Invariant input Holds) (position fuel : Nat) :
    ∀ {threads : List Thread} {followed : Std.HashSet Nat} {reached : List Thread},
      (∀ thread ∈ threads, Holds position thread) → (∀ thread ∈ reached, Holds position thread) →
      ∀ thread ∈ follow program.code (·.holdsAt input position) fuel threads followed reached,
        Holds position thread := by
  induction fuel with
  | zero => exact fun _ hreached => hreached
  | succ fuel ih =>
      intro threads followed reached hthreads hreached
      cases threads with
      | nil => exact hreached
      | cons thread threads =>
          obtain ⟨place, start⟩ := thread
          obtain ⟨hthread, hrest⟩ := List.forall_mem_cons.1 hthreads
          rw [follow]
          split
          · exact ih hrest hreached
          · dsimp only
            split
            · exact ih hrest (List.forall_mem_cons.2 ⟨hthread, hreached⟩)
            · exact ih hrest (List.forall_mem_cons.2 ⟨hthread, hreached⟩)
            · rename_i condition next hinstruction
              split
              · rename_i hcondition
                have hnext := h.looks _ _ _ _ _ hthread hinstruction hcondition
                exact ih (List.forall_mem_cons.2 ⟨hnext, hrest⟩) hreached
              · exact ih hrest hreached
            · rename_i preferred other hinstruction
              obtain ⟨hpreferred, hother⟩ := h.forks _ _ _ _ _ hthread hinstruction
              exact ih (List.forall_mem_cons.2
                ⟨hpreferred, List.forall_mem_cons.2 ⟨hother, hrest⟩⟩) hreached

theorem of_mem_threadsFrom (h : program.Invariant input Holds) (position : Nat)
    {threads : List Thread} (hthreads : ∀ thread ∈ threads, Holds position thread) :
    ∀ thread ∈ program.threadsFrom (·.holdsAt input position) threads, Holds position thread := by
  intro thread hthread
  rw [threadsFrom, List.mem_reverse] at hthread
  exact h.of_mem_follow _ _ hthreads (List.forall_mem_nil _) thread hthread

theorem of_step? (h : program.Invariant input Holds) {position : Nat} {c : Char}
    {thread next : Thread} (hthread : Holds position thread) (hc : input[position]? = some c)
    (hstep : program.step? c thread = some next) : Holds (position + 1) next := by
  obtain ⟨place, start⟩ := thread
  rw [step?] at hstep
  split at hstep
  · rename_i hinstruction
    split at hstep
    · rename_i hmember
      cases hstep
      exact h.reads _ _ _ _ _ _ hthread hinstruction hc hmember
    · cases hstep
  · cases hstep

end Invariant

theorem isFound_of_accepting {threads : List Thread} {position : Nat} {found? : Option Span}
    (hposition : position ≤ input.length) (hthreads : ∀ thread ∈ threads, Holds position thread)
    (hfound : ∀ span, found? = some span → program.IsFound input Holds span) (span : Span)
    (hspan : (((threads.find? program.accepts).map fun thread => Span.mk thread.start position)
      <|> found?) = some span) : program.IsFound input Holds span := by
  cases haccepting : threads.find? program.accepts with
  | none =>
      rw [haccepting] at hspan
      exact hfound span hspan
  | some thread =>
      rw [haccepting] at hspan
      cases hspan
      refine ⟨hposition, thread.place, hthreads thread (List.mem_of_find?_eq_some haccepting), ?_⟩
      have haccepts := List.find?_some haccepting
      rw [accepts] at haccepts
      split at haccepts
      · assumption
      · cases haccepts

theorem holdsAt_zero (input : List Char) :
    Look.holds none input.head? = fun condition => condition.holdsAt input 0 := by
  funext condition
  rw [Look.holdsAt, if_pos rfl, List.head?_eq_getElem?]

theorem holdsAt_succ {position : Nat} {c : Char} {rest : List Char}
    (hrest : input.drop position = c :: rest) :
    Look.holds (some c) rest.head? = fun condition => condition.holdsAt input (position + 1) := by
  funext condition
  have hbefore : input[position]? = some c := by
    rw [← List.head?_drop, hrest, List.head?_cons]
  have hbehind : input[position + 1]? = rest.head? := by
    rw [← List.head?_drop, ← List.tail_drop, hrest, List.tail_cons]
  rw [Look.holdsAt, if_neg (Nat.succ_ne_zero position), Nat.add_sub_cancel, hbefore, hbehind]

/-- A run keeps what holds of its threads, by induction on the rest that it has not read. -/
theorem Invariant.of_run (h : program.Invariant input Holds) :
    ∀ (rest : List Char) {position : Nat} {threads : List Thread} {found? : Option Span},
      input.drop position = rest → position ≤ input.length →
      (∀ thread ∈ threads, Holds position thread) →
      (∀ span, found? = some span → program.IsFound input Holds span) →
      ∀ span, program.run position threads found? rest = some span →
        program.IsFound input Holds span := by
  intro rest
  induction rest with
  | nil =>
      intro position threads found? _ hposition hthreads hfound span hrun
      exact isFound_of_accepting hposition hthreads hfound span hrun
  | cons c rest ih =>
      intro position threads found? hrest hposition hthreads hfound span hrun
      have hnow := isFound_of_accepting hposition hthreads hfound
      have hc : input[position]? = some c := by
        rw [← List.head?_drop, hrest, List.head?_cons]
      have hlt : position < input.length := (List.getElem?_eq_some_iff.1 hc).1
      have hlater : input.drop (position + 1) = rest := by
        rw [← List.tail_drop, hrest, List.tail_cons]
      have hkept : ∀ thread ∈
          (threads.takeWhile (!program.accepts ·)).filterMap (program.step? c),
          Holds (position + 1) thread := by
        intro thread hthread
        obtain ⟨before, hbefore, hstep⟩ := List.mem_filterMap.1 hthread
        exact h.of_step? (hthreads before ((List.takeWhile_prefix _).subset hbefore)) hc hstep
      have hstarted : ∀ thread ∈
          (threads.takeWhile (!program.accepts ·)).filterMap (program.step? c)
            ++ [⟨program.entry, position + 1⟩], Holds (position + 1) thread := by
        intro thread hthread
        rcases List.mem_append.1 hthread with hold | hnew
        · exact hkept thread hold
        · obtain rfl := List.mem_singleton.1 hnew
          exact h.begins _ hlt
      rw [run, holdsAt_succ hrest] at hrun
      split at hrun
      · split at hrun
        · exact hnow span hrun
        · exact ih hlater hlt (h.of_mem_threadsFrom _ hkept) hnow span hrun
      · split at hrun
        · exact hnow span hrun
        · exact ih hlater hlt (h.of_mem_threadsFrom _ hstarted) hnow span hrun

theorem Invariant.of_find? (h : program.Invariant input Holds) {span : Span}
    (hfind : program.find? input = some span) : program.IsFound input Holds span := by
  rw [find?, holdsAt_zero] at hfind
  refine h.of_run input List.drop_zero (Nat.zero_le _) (h.of_mem_threadsFrom 0 ?_)
    (fun _ hnone => by cases hnone) span hfind
  intro thread hthread
  obtain rfl := List.mem_singleton.1 hthread
  exact h.begins 0 (Nat.zero_le _)

theorem invariant_start_le (program : Program) (input : List Char) :
    program.Invariant input fun position thread => thread.start ≤ position where
  begins _ _ := Nat.le_refl _
  reads _ _ _ _ _ _ hstart _ _ _ := Nat.le_succ_of_le hstart
  looks _ _ _ _ _ hstart _ _ := hstart
  forks _ _ _ _ _ hstart _ := ⟨hstart, hstart⟩

/-- **Whatever a search finds lies within its input.** -/
theorem fits_of_find? {program : Program} {input : List Char} {span : Span}
    (hfind : program.find? input = some span) : span.Fits input := by
  obtain ⟨hstop, _, hstart, _⟩ := (invariant_start_le program input).of_find? hfind
  exact ⟨hstart, hstop⟩

end Program

theorem LexicalRule.isSound_of_compile? {rule : LexicalRule} {scanner : Scanner}
    (hcompile : rule.compile? = some scanner) : scanner.IsSound := by
  obtain ⟨pattern, _, hscanner⟩ := Option.bind_eq_some_iff.1 hcompile
  cases hscanner
  exact fun rest span hfind => Program.fits_of_find? hfind

namespace Lexer

theorem ofRules_eq_ok_iff {rules : List LexicalRule} {lexer : Lexer} :
    ofRules rules = .ok lexer ↔
      List.Forall₂ (fun rule scanner => rule.compile? = some scanner) rules lexer := by
  suffices hfrom : ∀ index, ofRulesFrom index rules = .ok lexer ↔
      List.Forall₂ (fun rule scanner => rule.compile? = some scanner) rules lexer from hfrom 0
  induction rules generalizing lexer with
  | nil =>
      intro index
      rw [ofRulesFrom, List.forall₂_nil_left_iff, Except.ok.injEq]
      exact eq_comm
  | cons rule rules ih =>
      intro index
      rw [ofRulesFrom, List.forall₂_cons_left_iff]
      cases hcompile : rule.compile? with
      | none => simp
      | some scanner =>
          simp only [Option.some.injEq]
          cases hrest : ofRulesFrom (index + 1) rules with
          | error invalid =>
              simp only [Except.map, reduceCtorEq, false_iff]
              rintro ⟨_, scanners, -, hscanners, -⟩
              rw [(ih (index + 1)).2 hscanners] at hrest
              cases hrest
          | ok scanners =>
              have hscanners := (ih (index + 1)).1 hrest
              simp only [Except.map, Except.ok.injEq]
              constructor
              · rintro rfl
                exact ⟨scanner, scanners, rfl, hscanners, rfl⟩
              · rintro ⟨_, scanners', rfl, hscanners', rfl⟩
                rw [(ih (index + 1)).2 hscanners'] at hrest
                rw [Except.ok.inj hrest]

theorem exists_ofRules_eq_ok_iff {rules : List LexicalRule} :
    (∃ lexer, ofRules rules = .ok lexer) ↔ ∀ rule ∈ rules, rule.compile?.isSome := by
  simp only [ofRules_eq_ok_iff]
  induction rules with
  | nil => simp
  | cons rule rules ih =>
      rw [List.forall_mem_cons, ← ih, Option.isSome_iff_exists]
      simp only [List.forall₂_cons_left_iff]
      constructor
      · rintro ⟨_, scanner, lexer, hrule, hrules, rfl⟩
        exact ⟨⟨scanner, hrule⟩, lexer, hrules⟩
      · rintro ⟨⟨scanner, hrule⟩, lexer, hrules⟩
        exact ⟨scanner :: lexer, scanner, lexer, hrule, hrules, rfl⟩

theorem exists_rule_of_mem {rules : List LexicalRule} {lexer : Lexer}
    (hlexer : ofRules rules = .ok lexer) {scanner : Scanner} (hmem : scanner ∈ lexer) :
    ∃ rule ∈ rules, rule.compile? = some scanner := by
  rw [ofRules_eq_ok_iff] at hlexer
  induction hlexer with
  | nil => cases hmem
  | cons hrule _ ih =>
      rcases List.mem_cons.1 hmem with rfl | hmem
      · exact ⟨_, List.mem_cons_self, hrule⟩
      · obtain ⟨rule, hrule, hcompile⟩ := ih hmem
        exact ⟨rule, List.mem_cons_of_mem _ hrule, hcompile⟩

theorem isSound_of_ofRules {rules : List LexicalRule} {lexer : Lexer}
    (hlexer : ofRules rules = .ok lexer) : ∀ scanner ∈ lexer, scanner.IsSound := by
  intro scanner hscanner
  obtain ⟨rule, -, hcompile⟩ := exists_rule_of_mem hlexer hscanner
  exact rule.isSound_of_compile? hcompile

end Lexer

end TokenGrammar
