import TokenGrammar.Pattern.Basic

/-!
# The texts that a pattern describes

A pattern describes stretches of an input, from one position to another. It does so within the whole
input, because a condition asks for the characters on both sides of a position. Which of the
stretches is preferred is left out here: that is what programs are for.
-/

namespace TokenGrammar

def Look.holdsAt (condition : Look) (input : List Char) (position : Nat) : Bool :=
  condition.holds (if position = 0 then none else input[position - 1]?) input[position]?

namespace Pattern

/-- Stretches of some kind, a number of them, one behind the other. -/
def Iterates (describes : Nat → Nat → Prop) : Nat → Nat → Nat → Prop
  | 0, start, stop => start = stop
  | count + 1, start, stop =>
      ∃ middle, Iterates describes count start middle ∧ describes middle stop

/-- The stretches of an input that a pattern describes. Of two bounds of a repetition, the second
only counts where it is not below the first. -/
def Describes (input : List Char) : Pattern → Nat → Nat → Prop
  | empty, start, stop => start = stop
  | literal text, start, stop => text <+: input.drop start ∧ stop = start + text.length
  | char members, start, stop =>
      (∃ c, input[start]? = some c ∧ members.contains c = true) ∧ stop = start + 1
  | look condition, start, stop => condition.holdsAt input start = true ∧ stop = start
  | seq first rest, start, stop =>
      ∃ middle, first.Describes input start middle ∧ rest.Describes input middle stop
  | choice first rest, start, stop =>
      first.Describes input start stop ∨ rest.Describes input start stop
  | repeated body least most? _, start, stop =>
      ∃ count, least ≤ count ∧ (∀ most, most? = some most → count ≤ max least most) ∧
        Iterates (body.Describes input) count start stop
  | capture _ _ body, start, stop => body.Describes input start stop

variable {input : List Char}

/-! ### Numbers of stretches -/

section

variable {describes : Nat → Nat → Prop}

theorem Iterates.append {count more start middle stop : Nat}
    (h : Iterates describes count start middle) (h' : Iterates describes more middle stop) :
    Iterates describes (count + more) start stop := by
  induction more generalizing stop with
  | zero =>
      obtain rfl : middle = stop := h'
      exact h
  | succ more ih =>
      obtain ⟨last, hmore, hlast⟩ := h'
      exact ⟨last, ih hmore, hlast⟩

theorem Iterates.one {start stop : Nat} (h : describes start stop) :
    Iterates describes 1 start stop := ⟨start, rfl, h⟩

end

/-! ### Sequences of patterns -/

/-- The stretches that some patterns describe, one behind the other. -/
def DescribesAll (input : List Char) : List Pattern → Nat → Nat → Prop
  | [], start, stop => start = stop
  | part :: parts, start, stop =>
      ∃ middle, part.Describes input start middle ∧ DescribesAll input parts middle stop

theorem describesAll_append {patterns more : List Pattern} {start stop : Nat} :
    DescribesAll input (patterns ++ more) start stop ↔
      ∃ middle, DescribesAll input patterns start middle ∧
        DescribesAll input more middle stop := by
  induction patterns generalizing start with
  | nil => simp [DescribesAll]
  | cons pattern patterns ih =>
      simp only [List.cons_append, DescribesAll, ih]
      constructor
      · rintro ⟨middle, hfirst, later, hrest, hmore⟩
        exact ⟨later, ⟨middle, hfirst, hrest⟩, hmore⟩
      · rintro ⟨later, ⟨middle, hfirst, hrest⟩, hmore⟩
        exact ⟨middle, hfirst, later, hrest, hmore⟩

theorem describesAll_singleton {pattern : Pattern} {start stop : Nat} :
    DescribesAll input [pattern] start stop ↔ pattern.Describes input start stop := by
  simp [DescribesAll]

theorem describes_ofParts (parts : List Pattern) {start stop : Nat} :
    (ofParts parts).Describes input start stop ↔ DescribesAll input parts start stop := by
  induction parts generalizing start with
  | nil => rfl
  | cons part parts ih =>
      cases parts with
      | nil => exact describesAll_singleton.symm
      | cons next parts =>
          rw [ofParts, Describes, DescribesAll]
          · exact exists_congr fun middle => and_congr_right fun _ => ih
          · exact fun h => by cases h

/-- The parts of a sequence describe what it does. By induction on the second. -/
theorem describesAll_parts (pattern : Pattern) {start stop : Nat} :
    DescribesAll input pattern.parts start stop ↔ pattern.Describes input start stop := by
  induction pattern generalizing start with
  | empty => rfl
  | seq first rest _ ih =>
      rw [parts, DescribesAll, Describes]
      exact exists_congr fun middle => and_congr_right fun _ => ih
  | literal | char | look | choice | repeated | capture => exact describesAll_singleton

theorem describes_literal_append (text next : List Char) {start stop : Nat} :
    (literal (text ++ next)).Describes input start stop ↔
      ∃ middle, (literal text).Describes input start middle ∧
        (literal next).Describes input middle stop := by
  simp only [Describes, List.length_append]
  constructor
  · rintro ⟨⟨rest, hrest⟩, rfl⟩
    refine ⟨_, ⟨⟨next ++ rest, ?_⟩, rfl⟩, ⟨rest, ?_⟩, by omega⟩
    · rw [← hrest, List.append_assoc]
    · rw [← List.drop_drop, ← hrest, List.append_assoc, List.drop_left]
  · rintro ⟨_, ⟨⟨rest, hrest⟩, rfl⟩, ⟨rest', hrest'⟩, rfl⟩
    rw [← List.drop_drop, ← hrest, List.drop_left] at hrest'
    exact ⟨⟨rest', by rw [← hrest, ← hrest', List.append_assoc]⟩, by omega⟩

theorem joinLiterals_cons (part : Pattern) (parts : List Pattern) :
    joinLiterals (part :: parts) = match part, joinLiterals parts with
      | literal text, literal next :: rest => literal (text ++ next) :: rest
      | part, rest => part :: rest := rfl

theorem describesAll_joinLiterals (parts : List Pattern) {start stop : Nat} :
    DescribesAll input (joinLiterals parts) start stop ↔ DescribesAll input parts start stop := by
  induction parts generalizing start with
  | nil => rfl
  | cons part parts ih =>
      have hnext : DescribesAll input (part :: joinLiterals parts) start stop
          ↔ DescribesAll input (part :: parts) start stop :=
        exists_congr fun middle => and_congr_right fun _ => ih
      rw [← hnext, joinLiterals_cons]
      split
      · rename_i text next rest hjoined
        rw [hjoined, DescribesAll, DescribesAll]
        simp only [describes_literal_append, DescribesAll]
        constructor
        · rintro ⟨later, ⟨middle, htext, hnext⟩, hrest⟩
          exact ⟨middle, htext, later, hnext, hrest⟩
        · rintro ⟨middle, htext, later, hnext, hrest⟩
          exact ⟨later, ⟨middle, htext, hnext⟩, hrest⟩
      · exact Iff.rfl

theorem describes_concat (patterns : List Pattern) {start stop : Nat} :
    (concat patterns).Describes input start stop ↔ DescribesAll input patterns start stop := by
  rw [concat, describes_ofParts, describesAll_joinLiterals]
  induction patterns generalizing start with
  | nil => rfl
  | cons pattern patterns ih =>
      rw [List.flatMap_cons, describesAll_append, DescribesAll]
      exact exists_congr fun middle => and_congr (describesAll_parts pattern) ih

end Pattern

end TokenGrammar
