import Mathlib.Data.List.TakeDrop
import TokenGrammar.Pattern.Reader

/-!
# What is left of a text

A reader never leaves more of a text than it was given, and a step reads a character at least. So a
text as long as the fuel allows is read as with any fuel that is larger. Readers are put together
from others, and so are the bounds on what they leave.
-/

namespace TokenGrammar.Pattern

theorem length_skipBlanks_le (inComment : Bool) (rest : List Char) :
    (skipBlanks inComment rest).length ≤ rest.length := by
  induction rest generalizing inComment with
  | nil => exact Nat.le_refl _
  | cons c rest ih =>
      rw [skipBlanks]
      split
      · exact Nat.le_succ_of_le (ih _)
      · split
        · exact Nat.le_succ_of_le (ih _)
        · split
          · exact Nat.le_succ_of_le (ih _)
          · exact Nat.le_refl _

theorem length_skip_le (flags : Flags) (rest : List Char) :
    (flags.skip rest).length ≤ rest.length := by
  rw [Flags.skip]
  split
  · exact length_skipBlanks_le false rest
  · exact Nat.le_refl _

theorem length_dropWhile_le (accepts : Char → Bool) (rest : List Char) :
    (rest.dropWhile accepts).length ≤ rest.length :=
  (List.dropWhile_suffix accepts).length_le

/-- That no more than so many characters are left behind what was read. -/
inductive Leaves (bound : Nat) {α : Type} : Option (α × List Char) → Prop
  | nothing : Leaves bound none
  | found {value : α} {left : List Char} (h : left.length ≤ bound) :
      Leaves bound (some (value, left))

namespace Leaves

variable {bound bound' : Nat} {α β : Type} {found? : Option (α × List Char)}

theorem length_le (h : Leaves bound found?) {value : α} {left : List Char}
    (hfound : found? = some (value, left)) : left.length ≤ bound := by
  cases h with
  | nothing => cases hfound
  | found h =>
      cases hfound
      exact h

theorem mono (h : Leaves bound found?) (hle : bound ≤ bound') : Leaves bound' found? := by
  cases h with
  | nothing => exact .nothing
  | found h => exact .found (Nat.le_trans h hle)

theorem bind {next : α × List Char → Option (β × List Char)} (h : Leaves bound found?)
    (hnext : ∀ value left, left.length ≤ bound → Leaves bound' (next (value, left))) :
    Leaves bound' (found? >>= next) := by
  cases h with
  | nothing => exact .nothing
  | found h => exact hnext _ _ h

theorem ite_none (h : Leaves bound found?) (skipped : Bool) :
    Leaves bound (if skipped then none else found?) := by
  cases skipped with
  | true => exact .nothing
  | false => exact h

theorem map {change : α × List Char → β × List Char} (h : Leaves bound found?)
    (hchange : ∀ value rest, (change (value, rest)).2 = rest) :
    Leaves bound (found?.map change) := by
  cases h with
  | nothing => exact .nothing
  | found h => exact .found (hchange _ _ ▸ h)

theorem given {value? : Option α} {next : α → Option (β × List Char)}
    (hnext : ∀ value, Leaves bound (next value)) : Leaves bound (value? >>= next) := by
  cases value? with
  | none => exact .nothing
  | some value => exact hnext value

end Leaves

/-! ### Escapes -/

theorem leaves_readHexDigits (flags : Flags) (count value : Nat) (rest : List Char) :
    Leaves rest.length (readHexDigits flags count value rest) := by
  induction count generalizing value rest with
  | zero => exact .found (Nat.le_refl _)
  | succ count ih =>
      cases rest with
      | nil => exact .nothing
      | cons c rest =>
          exact .given fun digit =>
            (ih _ _).mono (Nat.le_succ_of_le (length_skip_le flags rest))

theorem leaves_readBraced (flags : Flags) (fuel : Nat) (taken rest : List Char) :
    Leaves rest.length (readBraced flags fuel taken rest) := by
  induction fuel generalizing taken rest with
  | zero => exact .nothing
  | succ fuel ih =>
      have hskip := length_skip_le flags rest
      rw [readBraced]
      split
      · exact .nothing
      · rename_i heq
        rw [heq] at hskip
        exact .found (Nat.le_of_succ_le hskip)
      · rename_i heq
        rw [heq] at hskip
        exact (ih _ _).mono (Nat.le_of_succ_le hskip)

theorem leaves_readCodePoint (flags : Flags) (digits : Nat) (rest : List Char) :
    Leaves rest.length (readCodePoint flags digits rest) := by
  have hskip := length_skip_le flags rest
  rw [readCodePoint]
  split
  · rename_i heq
    rw [heq] at hskip
    refine (leaves_readBraced flags _ _ _).bind fun digits left hleft => ?_
    exact .given fun _ => .given fun _ => .found (by grind)
  · refine (leaves_readHexDigits flags _ _ _).bind fun value left hleft => ?_
    exact .given fun _ => .found (Nat.le_trans hleft hskip)

theorem leaves_readProperty (flags : Flags) (negate : Bool) (rest : List Char) :
    Leaves rest.length (readProperty flags negate rest) := by
  have hskip := length_skip_le flags rest
  rw [readProperty]
  split
  · exact .nothing
  · exact .nothing
  · rename_i heq
    rw [heq] at hskip
    refine (leaves_readBraced flags _ _ _).bind fun name left hleft => ?_
    exact .given fun _ => .found (by grind)
  · rename_i heq
    rw [heq] at hskip
    exact .given fun _ => .found (Nat.le_of_succ_le hskip)

theorem leaves_readBoundary (flags : Flags) (rest : List Char) :
    Leaves rest.length (readBoundary flags rest) := by
  rw [readBoundary.eq_def]
  split
  · split
    · exact .nothing
    · split
      · refine (leaves_readBraced flags _ _ _).bind fun name left hleft => ?_
        dsimp only
        split
        · exact .given fun _ => .found (Nat.le_succ_of_le hleft)
        · exact .nothing
      · exact .found (Nat.le_refl _)
  · exact .found (Nat.le_refl _)

theorem leaves_readEscape (flags : Flags) (rest : List Char) :
    Leaves (rest.length - 1) (readEscape flags rest) := by
  cases rest with
  | nil => exact .nothing
  | cons c rest =>
      simp only [readEscape, List.length_cons, Nat.add_sub_cancel]
      split
      case h_1 | h_2 | h_3 => exact (leaves_readCodePoint flags _ _).map fun _ _ => rfl
      case h_4 | h_5 => exact leaves_readProperty flags _ _
      case h_20 => exact (leaves_readBoundary flags _).map fun _ _ => rfl
      case h_24 =>
        split
        · exact .found (Nat.le_refl _)
        · exact .nothing
      all_goals exact .found (Nat.le_refl _)

/-! ### Brackets -/

def namedClass? (flags : Flags) (negate : Bool) (rest : List Char) :
    Option (CharSet × List Char) :=
  match rest.span (· != ':') with
  | (name, ':' :: ']' :: rest) =>
      (CharSet.bracketed? (String.ofList name)).map fun members =>
        ((members.foldedIf flags.caseless).complementIf negate, rest)
  | _ => none

theorem leaves_namedClass? (flags : Flags) (negate : Bool) (rest : List Char) :
    Leaves rest.length (namedClass? flags negate rest) := by
  rw [namedClass?]
  split
  · rename_i name left heq
    rw [List.span_eq_takeWhile_dropWhile, Prod.mk.injEq] at heq
    have hdrop := length_dropWhile_le (· != ':') rest
    rw [heq.2] at hdrop
    cases CharSet.bracketed? (String.ofList name) with
    | none => exact .nothing
    | some members => exact .found (Nat.le_of_succ_le (Nat.le_of_succ_le hdrop))
  · exact .nothing

theorem leaves_readNamed (flags : Flags) (rest : List Char) :
    Leaves rest.length (readNamed flags rest) := by
  rw [readNamed.eq_def]
  split
  · rename_i rest
    by_cases hcaret : ∃ rest', rest = '^' :: rest'
    · obtain ⟨rest', rfl⟩ := hcaret
      exact (leaves_namedClass? flags true rest').mono (by simp only [List.length_cons]; omega)
    · simp only [not_exists] at hcaret
      simp only
      exact (leaves_namedClass? flags false rest).mono (Nat.le_succ _)
  · exact .nothing

theorem length_readHyphens_le (flags : Flags) (fuel : Nat) (items : Items) (rest : List Char) :
    (readHyphens flags fuel items rest).2.length ≤ rest.length := by
  fun_induction readHyphens flags fuel items rest with
  | case1 items fuel rest ih =>
      exact Nat.le_succ_of_le (Nat.le_trans ih (length_skip_le flags _))
  | case2 => exact Nat.le_refl _

/-- What stands for itself at the beginning of a bracket, behind the sign that negates it. -/
def readSelves (flags : Flags) (negate : Bool) (rest : List Char) : Bool × Items × List Char :=
  match readHyphens flags rest.length {} rest with
  | (items, ']' :: rest) =>
      if items.count = 0 then (negate, items.add (.single ']') 0, flags.skip rest)
      else (negate, items, ']' :: rest)
  | (items, rest) => (negate, items, rest)

theorem length_readSelves_le (flags : Flags) (negate : Bool) (rest : List Char) :
    (readSelves flags negate rest).2.2.length ≤ rest.length := by
  have hhyphens := length_readHyphens_le flags rest.length {} rest
  rw [readSelves]
  split
  · rename_i left heq
    rw [heq] at hhyphens
    split
    · exact Nat.le_trans (length_skip_le flags left) (Nat.le_of_succ_le hhyphens)
    · exact hhyphens
  · rename_i heq
    rw [heq] at hhyphens
    exact hhyphens

theorem length_readOpening_le (flags : Flags) (rest : List Char) :
    (readOpening flags rest).2.2.length ≤ rest.length := by
  have hskip := length_skip_le flags rest
  by_cases hcaret : ∃ rest', flags.skip rest = '^' :: rest'
  · obtain ⟨rest', hcaret⟩ := hcaret
    have hselves := length_readSelves_le flags true (flags.skip rest')
    have hskip' := length_skip_le flags rest'
    rw [hcaret] at hskip
    simp only [readOpening, hcaret]
    exact Nat.le_trans hselves (Nat.le_trans hskip' (Nat.le_of_succ_le hskip))
  · simp only [not_exists] at hcaret
    simp only [readOpening]
    exact Nat.le_trans (length_readSelves_le flags false (flags.skip rest)) hskip

theorem leaves_readAtom (flags : Flags) (rest : List Char) :
    Leaves (rest.length - 1) (readAtom flags rest) := by
  rw [readAtom.eq_def]
  split
  · exact .nothing
  · exact (leaves_readEscape flags _).mono (Nat.sub_le _ _)
  · exact .found (Nat.le_refl _)

theorem leaves_readMember (flags : Flags) (rest : List Char) :
    Leaves (rest.length - 1) (readMember flags rest) := by
  refine (leaves_readAtom flags rest).bind fun atom left hleft => ?_
  have hskip := length_skip_le flags left
  dsimp only
  split
  · exact .nothing
  · rename_i after heq
    rw [heq] at hskip
    split
    · exact .given fun _ => .found (Nat.le_trans hskip hleft)
    · have hskip' := length_skip_le flags after
      refine (leaves_readAtom flags _).bind fun second more hmore => ?_
      cases atom with
      | literal first =>
          cases second with
          | literal last =>
              dsimp only
              split
              · exact .found (by simp only [List.length_cons] at hskip; omega)
              · exact .nothing
          | members | look => exact .nothing
      | members | look => exact .nothing
  · exact .given fun _ => .found (Nat.le_trans hskip hleft)

theorem leaves_readBracket (flags : Flags) (fuel : Nat) (stack : List BracketFrame) (items : Items)
    (rest : List Char) : Leaves (rest.length - 1) (readBracket flags fuel stack items rest) := by
  induction fuel generalizing stack items rest with
  | zero => exact .nothing
  | succ fuel ih =>
      have hskip := length_skip_le flags rest
      rw [readBracket.eq_def]
      dsimp only
      split
      · exact .nothing
      case h_2 left heq =>
        rw [heq] at hskip
        have hnamed := (leaves_readNamed flags left).ite_none stack.isEmpty
        have hopening := length_readOpening_le flags left
        generalize readOpening flags left = opening at hopening
        obtain ⟨negate, inner, more⟩ := opening
        simp only [List.length_cons] at hskip hopening
        split
        · have hleft := hnamed.length_le ‹_›
          exact (ih _ _ _).mono (by omega)
        · exact (ih _ _ more).mono (by omega)
      case h_3 left heq =>
        rw [heq] at hskip
        simp only [List.length_cons] at hskip
        split
        · split
          · exact .found (by omega)
          · exact (ih _ _ _).mono (by omega)
        · exact .nothing
      case h_4 left heq | h_5 left heq | h_6 left heq =>
        rw [heq] at hskip
        simp only [List.length_cons] at hskip
        exact (ih _ _ _).mono (by omega)
      case h_7 =>
        refine (leaves_readMember flags _).bind fun member left hleft => ?_
        exact (ih _ _ left).mono (by omega)

/-! ### Quantifiers -/

theorem length_readDigits_le (flags : Flags) (fuel : Nat) (taken rest : List Char) :
    (readDigits flags fuel taken rest).2.length ≤ rest.length := by
  fun_induction readDigits flags fuel taken rest with
  | case1 taken fuel c rest hdigit ih =>
      exact Nat.le_succ_of_le (Nat.le_trans ih (length_skip_le flags _))
  | case2 => exact Nat.le_refl _
  | case3 => exact Nat.le_refl _

theorem length_readLazy_le (rest : List Char) : (readLazy rest).2.length ≤ rest.length := by
  rw [readLazy.eq_def]
  split
  · exact Nat.le_succ _
  · exact Nat.le_refl _

theorem leaves_readCount (flags : Flags) (rest : List Char) :
    Leaves rest.length (readCount flags rest) := by
  have hblanks := length_dropWhile_le Text.isWhiteSpace rest
  rw [readCount]
  generalize rest.dropWhile Text.isWhiteSpace = text at hblanks
  have hdigits := length_readDigits_le flags text.length [] text
  dsimp only
  split
  · exact .nothing
  · refine .found (Nat.le_trans (length_skip_le flags _) ?_)
    exact Nat.le_trans (length_dropWhile_le _ _) (Nat.le_trans hdigits hblanks)

theorem length_le_of_readBounds {flags : Flags} {rest left : List Char} {least : Nat}
    {most? : Option Nat} (hbounds : readBounds flags rest = some (least, most?, left)) :
    left.length ≤ rest.length := by
  have hskip := length_skip_le flags rest
  obtain ⟨⟨count, more⟩, hcount, hbounds⟩ := Option.bind_eq_some_iff.1 hbounds
  have hmore := (leaves_readCount flags (flags.skip rest)).length_le hcount
  dsimp only at hbounds
  split at hbounds
  · cases hbounds
    exact Nat.le_of_succ_le (Nat.le_trans hmore hskip)
  · rename_i rest'
    have hskip' := length_skip_le flags rest'
    simp only [List.length_cons] at hmore
    split at hbounds
    · rename_i heq
      rw [heq] at hskip'
      cases hbounds
      simp only [List.length_cons] at hskip'
      omega
    · obtain ⟨⟨most, last⟩, hmost, hbounds⟩ := Option.bind_eq_some_iff.1 hbounds
      have hlast := (leaves_readCount flags (flags.skip rest')).length_le hmost
      dsimp only at hbounds
      split at hbounds
      · obtain ⟨-, hbounds⟩ := Option.ite_none_right_eq_some.1 hbounds
        cases hbounds
        simp only [List.length_cons] at hlast
        omega
      · cases hbounds
  · cases hbounds

/-! ### Groups -/

theorem leaves_readName (taken rest : List Char) : Leaves rest.length (readName taken rest) := by
  fun_induction readName taken rest with
  | case1 | case2 | case5 => exact .nothing
  | case3 => exact .found (Nat.le_succ _)
  | case4 _ _ _ _ _ ih => exact ih.mono (Nat.le_succ _)

theorem leaves_readFlags (flags : Flags) (seen : List Char) (clearing dangling : Bool)
    (rest : List Char) : Leaves rest.length (readFlags flags seen clearing dangling rest) := by
  induction rest generalizing flags seen clearing dangling with
  | nil => exact .nothing
  | cons c rest ih =>
      rw [readFlags.eq_def]
      split
      case h_1 heq => cases heq
      case h_2 heq | h_3 heq =>
        cases heq
        split
        · exact .nothing
        · exact .found (Nat.le_succ _)
      case h_4 heq =>
        cases heq
        split
        · exact .nothing
        · exact (ih _ _ _ _).mono (Nat.le_succ _)
      case h_5 heq =>
        cases heq
        split
        · exact .nothing
        · split
          · exact (ih _ _ _ _).mono (Nat.le_succ _)
          · exact .nothing

theorem leaves_readGroupOpening (flags : Flags) (rest : List Char) :
    Leaves rest.length (readGroupOpening flags rest) := by
  have hskip := length_skip_le flags rest
  rw [readGroupOpening]
  split
  case h_1 | h_2 | h_3 | h_4 => exact .nothing
  case h_5 left heq | h_6 left _ _ heq =>
    rw [heq] at hskip
    simp only [List.length_cons] at hskip
    exact ((leaves_readName [] left).map fun _ _ => rfl).mono (by omega)
  case h_7 left _ _ _ _ _ _ heq =>
    rw [heq] at hskip
    exact (leaves_readFlags _ _ _ _ left).mono (Nat.le_of_succ_le hskip)
  case h_8 => exact .found hskip

/-! ### Whole patterns -/

theorem leaves_readPrimitive (flags : Flags) (text : List Char) :
    Leaves (text.length - 1) (readPrimitive flags text) := by
  rw [readPrimitive.eq_def]
  split
  case h_1 => exact .nothing
  case h_2 => exact (leaves_readBracket _ _ _ _ _).bind fun _ _ hleft => .found hleft
  case h_6 rest =>
    refine (leaves_readEscape flags rest).bind fun atom left hleft => ?_
    have hle := Nat.le_trans hleft (Nat.sub_le rest.length 1)
    cases atom with
    | literal | members | look => exact .found hle
  all_goals exact .found (Nat.le_refl _)

def Progress.quantified (progress : Progress) (least : Nat) (most? : Option Nat)
    (rest : List Char) : Option (Progress × List Char) := do
  let (reluctant, rest) := readLazy rest
  return (← progress.quantify? least most? reluctant, rest)

theorem leaves_quantified (progress : Progress) (least : Nat) (most? : Option Nat)
    (rest : List Char) : Leaves rest.length (progress.quantified least most? rest) :=
  .given fun _ => .found (length_readLazy_le rest)

/-- A step reads a character at least. By the sign that is read. -/
theorem leaves_readStep (progress : Progress) (text : List Char) :
    Leaves (text.length - 1) (readStep progress text) := by
  rw [readStep.eq_def]
  dsimp only
  split
  case h_1 rest =>
    refine (leaves_readGroupOpening progress.flags rest).bind fun opening left hleft => ?_
    cases opening with
    | setting | plain => exact .found hleft
    | counted => exact .given fun _ => .found hleft
  case h_2 => exact .given fun _ => .found (Nat.le_refl _)
  case h_3 => exact .found (Nat.le_refl _)
  case h_4 | h_5 | h_6 => exact leaves_quantified progress _ _ _
  case h_7 rest =>
    cases hbounds : readBounds progress.flags rest with
    | none => exact .nothing
    | some bounds =>
        obtain ⟨least, most?, left⟩ := bounds
        refine (leaves_quantified progress least most? _).mono ?_
        exact Nat.le_trans (length_skip_le _ left) (length_le_of_readBounds hbounds)
  case h_8 => exact (leaves_readPrimitive _ _).bind fun _ _ hleft => .found hleft

end TokenGrammar.Pattern
