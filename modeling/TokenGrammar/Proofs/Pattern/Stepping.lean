import TokenGrammar.Proofs.Pattern.Bracketing

/-!
# Steps before a closing parenthesis

A step that is taken in a text is also taken with a closing parenthesis behind the text, and what is
left differs by the parenthesis. A step that is taken only because of the parenthesis escapes it, or
ends flags or a group with it, or leaves a brace that the parenthesis makes part of no escape. No
step follows.
-/

namespace TokenGrammar.Pattern

namespace Closed

variable {comments : Bool} {rest closed : List Char}

/-! ### Quantifiers -/

theorem readDigits_alike (h : Closed comments rest closed) (flags : Flags) {fuel fuel' : Nat}
    (hfuel : rest.length ≤ fuel) (hfuel' : closed.length ≤ fuel') (taken : List Char) :
    ∃ digits left left', readDigits flags fuel taken rest = (digits, left) ∧
      readDigits flags fuel' taken closed = (digits, left') ∧ Closed comments left left' := by
  induction fuel generalizing fuel' taken rest closed with
  | zero =>
      obtain rfl : rest = [] := List.length_eq_zero_iff.1 (Nat.le_zero.1 hfuel)
      refine ⟨taken.reverse, [], closed, rfl, ?_, h⟩
      cases h with
      | parenthesis | swallowed => cases fuel' <;> rfl
  | succ fuel ih =>
      cases h with
      | parenthesis => exact ⟨taken.reverse, [], [')'], rfl, by cases fuel' <;> rfl, .parenthesis⟩
      | swallowed h => exact ⟨taken.reverse, [], [], rfl, by cases fuel' <;> rfl, .swallowed h⟩
      | @cons c rest closed hc h =>
          obtain ⟨fuel', rfl⟩ := Nat.exists_eq_add_of_lt (Nat.zero_lt_of_lt hfuel')
          rw [List.length_cons] at hfuel hfuel'
          simp only [readDigits]
          split
          · have hrest := length_skip_le flags rest
            have hclosed := length_skip_le flags closed
            exact ih (h.skip flags) (by omega) (by omega) _
          · exact ⟨taken.reverse, c :: rest, c :: closed, rfl, rfl, .cons hc h⟩

theorem readLazy_alike (h : Closed comments rest closed) :
    ∃ reluctant left left', readLazy rest = (reluctant, left) ∧
      readLazy closed = (reluctant, left') ∧ Closed comments left left' := by
  obtain ⟨rest', closed', rfl, rfl, h'⟩ | ⟨hrest, hclosed⟩ :=
    h.begins_or_not (by decide : ')' ≠ '?')
  · exact ⟨true, rest', closed', rfl, rfl, h'⟩
  · simp only [readLazy]
    exact ⟨false, rest, closed, rfl, rfl, h⟩

theorem readCount_same (h : Closed comments rest closed) (flags : Flags) :
    Same comments (readCount flags rest) (readCount flags closed) := by
  have hdigits := h.dropWhile isWhiteSpace_parenthesis
  obtain ⟨digits, left, left', hleft, hleft', h'⟩ :=
    hdigits.readDigits_alike flags (Nat.le_refl _) (Nat.le_refl _) []
  simp only [readCount, hleft, hleft']
  split
  · exact .nothing
  · exact .found ((h'.dropWhile isWhiteSpace_parenthesis).skip flags)

theorem readBounds_alike (h : Closed comments rest closed) (flags : Flags) :
    (readBounds flags rest = none ∧ readBounds flags closed = none) ∨
      ∃ least most? left left', readBounds flags rest = some (least, most?, left) ∧
        readBounds flags closed = some (least, most?, left') ∧ Closed comments left left' := by
  have hcount := (h.skip flags).readCount_same flags
  simp only [readBounds]
  generalize readCount flags (flags.skip rest) = count? at hcount ⊢
  generalize readCount flags (flags.skip closed) = count?' at hcount ⊢
  cases hcount with
  | nothing => exact .inl ⟨rfl, rfl⟩
  | spent h => exact h.elim
  | @found count more more' hmore =>
      simp only [Option.bind_eq_bind, Option.bind_some]
      obtain ⟨rest, closed, rfl, rfl, hbrace⟩ | ⟨hrest, hclosed⟩ :=
        hmore.begins_or_not (by decide : ')' ≠ '}')
      · exact .inr ⟨count, some count, rest, closed, rfl, rfl, hbrace⟩
      obtain ⟨rest, closed, rfl, rfl, hcomma⟩ | ⟨hrest, hclosed⟩ :=
        hmore.begins_or_not (by decide : ')' ≠ ',')
      · have hsecond := hcomma.skip flags
        obtain ⟨rest', closed', hrest', hclosed', hbrace⟩ | ⟨hrest', hclosed'⟩ :=
          hsecond.begins_or_not (by decide : ')' ≠ '}')
        · simp only [hrest', hclosed']
          exact .inr ⟨count, none, rest', closed', rfl, rfl, hbrace⟩
        · have hmost := hsecond.readCount_same flags
          simp only
          generalize readCount flags (flags.skip rest) = most?' at hmost ⊢
          generalize readCount flags (flags.skip closed) = most?'' at hmost ⊢
          cases hmost with
          | nothing => exact .inl ⟨rfl, rfl⟩
          | spent h => exact h.elim
          | @found most last last' hlast =>
              simp only [Option.bind_some]
              obtain ⟨rest, closed, rfl, rfl, hbrace⟩ | ⟨hrest, hclosed⟩ :=
                hlast.begins_or_not (by decide : ')' ≠ '}')
              · by_cases hle : count ≤ most
                · exact .inr ⟨count, some most, rest, closed, if_pos hle, if_pos hle, hbrace⟩
                · exact .inl ⟨if_neg hle, if_neg hle⟩
              · exact .inl ⟨by simp only, by simp only⟩
      · exact .inl ⟨by simp only, by simp only⟩

/-! ### Groups -/

theorem readName_same (h : Closed comments rest closed) (taken : List Char) :
    Same comments (readName taken rest) (readName taken closed) := by
  induction h generalizing taken with
  | parenthesis =>
      have hclosed : readName taken [')'] = none := by
        rw [readName.eq_def]
        exact ite_eq_right_iff.2 fun _ => rfl
      rw [hclosed]
      exact .nothing
  | swallowed => exact .nothing
  | @cons c rest closed _ h ih =>
      by_cases hend : c = '>'
      · subst hend
        simp only [readName]
        split
        · exact .nothing
        · exact .found h
      · simp only [readName]
        generalize (if taken.isEmpty then isNameStart c else isNameChar c) = isPart
        cases isPart with
        | true => exact ih _
        | false => exact .nothing

theorem readFlags_alike (h : Closed comments rest closed) (flags : Flags) (seen : List Char)
    (clearing dangling : Bool) :
    Alike comments (fun _ left' => left' = []) (readFlags flags seen clearing dangling rest)
      (readFlags flags seen clearing dangling closed) := by
  induction h generalizing flags seen clearing dangling with
  | parenthesis =>
      simp only [readFlags]
      split
      · exact .nothing
      · exact .spent rfl
  | swallowed => exact .nothing
  | @cons c rest closed _ h ih =>
      by_cases hplain : c = ':'
      · subst hplain
        simp only [readFlags]
        split
        · exact .nothing
        · exact .found h
      by_cases hsetting : c = ')'
      · subst hsetting
        simp only [readFlags]
        split
        · exact .nothing
        · exact .found h
      by_cases hclear : c = '-'
      · subst hclear
        simp only [readFlags]
        split
        · exact .nothing
        · exact ih _ _ _ _
      simp only [readFlags]
      split
      · exact .nothing
      · split
        · exact ih _ _ _ _
        · exact .nothing

theorem readGroupOpening_of_ne (flags : Flags)
    (hrest : ∀ rest', flags.skip rest = '?' :: rest' → False) :
    readGroupOpening flags rest = some (.counted none, flags.skip rest) := by
  rw [readGroupOpening]
  split
  case h_8 => rfl
  all_goals exact (hrest _ ‹_›).elim

theorem readGroupOpening_named {rest' : List Char} (flags : Flags)
    (hrest : flags.skip rest = '?' :: '<' :: rest') (hequal : ∀ more, rest' = '=' :: more → False)
    (hnot : ∀ more, rest' = '!' :: more → False) :
    readGroupOpening flags rest
      = (readName [] rest').map fun (name, rest) => (.counted (some name), rest) := by
  rw [readGroupOpening, hrest]
  simp only

theorem readGroupOpening_lettered {rest' : List Char} (flags : Flags)
    (hrest : flags.skip rest = '?' :: 'P' :: '<' :: rest') :
    readGroupOpening flags rest
      = (readName [] rest').map fun (name, rest) => (.counted (some name), rest) := by
  rw [readGroupOpening, hrest]
  rfl

theorem readGroupOpening_flags {rest' : List Char} (flags : Flags)
    (hrest : flags.skip rest = '?' :: rest') (hequal : ∀ more, rest' = '=' :: more → False)
    (hnot : ∀ more, rest' = '!' :: more → False) (hangle : ∀ more, rest' = '<' :: more → False)
    (hletter : ∀ more, rest' = 'P' :: '<' :: more → False) :
    readGroupOpening flags rest = readFlags flags [] false false rest' := by
  rw [readGroupOpening, hrest]
  split
  case h_1 => exact (hequal _ (List.cons.inj ‹_›).2).elim
  case h_2 => exact (hnot _ (List.cons.inj ‹_›).2).elim
  case h_3 | h_4 | h_6 => exact (hangle _ (List.cons.inj ‹_›).2).elim
  case h_5 => exact (hletter _ (List.cons.inj ‹_›).2).elim
  case h_7 heq =>
    cases heq
    rfl
  case h_8 => exact (‹∀ more, '?' :: rest' = '?' :: more → False› _ rfl).elim

theorem readGroupOpening_alike (h : Closed comments rest closed) (flags : Flags) :
    Alike comments (fun _ left' => left' = []) (readGroupOpening flags rest)
      (readGroupOpening flags closed) := by
  have hskipped := h.skip flags
  obtain ⟨rest', closed', hrest, hclosed, h'⟩ | ⟨hrest, hclosed⟩ :=
    hskipped.begins_or_not (by decide : ')' ≠ '?')
  · obtain ⟨_, _, rfl, rfl, _⟩ | ⟨hequal, hequal'⟩ := h'.begins_or_not (by decide : ')' ≠ '=')
    · simp only [readGroupOpening, hrest, hclosed]
      exact .nothing
    obtain ⟨_, _, rfl, rfl, _⟩ | ⟨hnot, hnot'⟩ := h'.begins_or_not (by decide : ')' ≠ '!')
    · simp only [readGroupOpening, hrest, hclosed]
      exact .nothing
    obtain ⟨name, name', rfl, rfl, hname⟩ | ⟨hangle, hangle'⟩ :=
      h'.begins_or_not (by decide : ')' ≠ '<')
    · obtain ⟨_, _, rfl, rfl, _⟩ | ⟨hequal, hequal'⟩ := hname.begins_or_not (by decide : ')' ≠ '=')
      · simp only [readGroupOpening, hrest, hclosed]
        exact .nothing
      obtain ⟨_, _, rfl, rfl, _⟩ | ⟨hnot, hnot'⟩ := hname.begins_or_not (by decide : ')' ≠ '!')
      · simp only [readGroupOpening, hrest, hclosed]
        exact .nothing
      rw [readGroupOpening_named flags hrest hequal hnot,
        readGroupOpening_named flags hclosed hequal' hnot']
      exact Same.map (hname.readName_same []) fun _ _ => rfl
    have hflags := h'.readFlags_alike flags [] false false
    obtain ⟨letter, letter', rfl, rfl, hletter⟩ | ⟨hletter, hletter'⟩ :=
      h'.begins_or_not (by decide : ')' ≠ 'P')
    · obtain ⟨name, name', rfl, rfl, hname⟩ | ⟨hunnamed, hunnamed'⟩ :=
        hletter.begins_or_not (by decide : ')' ≠ '<')
      · rw [readGroupOpening_lettered flags hrest, readGroupOpening_lettered flags hclosed]
        exact Same.map (hname.readName_same []) fun _ _ => rfl
      · rw [readGroupOpening_flags flags hrest hequal hnot hangle
            fun _ h => hunnamed _ (List.cons.inj h).2,
          readGroupOpening_flags flags hclosed hequal' hnot' hangle'
            fun _ h => hunnamed' _ (List.cons.inj h).2]
        exact hflags
    · rw [readGroupOpening_flags flags hrest hequal hnot hangle fun _ => hletter _,
        readGroupOpening_flags flags hclosed hequal' hnot' hangle' fun _ => hletter' _]
      exact hflags
  · rw [readGroupOpening_of_ne flags hrest, readGroupOpening_of_ne flags hclosed]
    exact .found hskipped

/-! ### Whole patterns -/

theorem readPrimitive_alike {c : Char} (hc : c = '#' → comments = true)
    (h : Closed comments rest closed) (flags : Flags) :
    Alike comments (fun _ => Stuck flags) (readPrimitive flags (c :: rest))
      (readPrimitive flags (c :: closed)) := by
  by_cases hbracket : c = '['
  · subst hbracket
    simp only [readPrimitive]
    refine Same.bind ((Closed.cons hc h).readBracket_same flags (Nat.lt_succ_self _)
      (Nat.add_le_add_right h.length_le 2) [] {}) ?_
    exact fun _ _ _ hleft => .found hleft
  by_cases hbackslash : c = '\\'
  · subst hbackslash
    simp only [readPrimitive]
    refine (h.readEscape_alike flags).bind ?_ ?_
    · intro atom left' hstuck
      cases atom with
      | literal | members | look => exact .spent hstuck
    · intro atom left left' hleft
      cases atom with
      | literal | members | look => exact .found hleft
  by_cases hdot : c = '.'
  · subst hdot
    exact .found h
  by_cases hstart : c = '^'
  · subst hstart
    exact .found h
  by_cases hend : c = '$'
  · subst hend
    exact .found h
  simp only [readPrimitive]
  exact .found h

end Closed

/-! ### Steps -/

namespace Progress

theorem readStep_primitive {c : Char} (hc : c ∉ ['(', ')', '|', '?', '*', '+', '{'])
    (progress : Progress) (rest : List Char) :
    readStep progress (c :: rest) = readPrimitive progress.flags (c :: rest) >>=
      fun (part, rest) => some (progress.push part, rest) := by
  simp only [List.mem_cons, List.not_mem_nil, or_false, not_or] at hc
  obtain ⟨hopen, hclose, hbranch, hoption, hstar, hplus, hbrace⟩ := hc
  simp only [readStep, List.cons.injEq, hopen, hclose, hbranch, hoption, hstar, hplus, hbrace,
    false_and, imp_self, implies_true]
  rfl

variable {comments : Bool} {rest closed : List Char}

theorem quantified_alike (h : Closed comments rest closed) (progress : Progress) (least : Nat)
    (most? : Option Nat) :
    Alike comments (fun next => Stuck next.flags) (progress.quantified least most? rest)
      (progress.quantified least most? closed) := by
  obtain ⟨reluctant, left, left', hleft, hleft', hlazy⟩ := h.readLazy_alike
  simp only [quantified, hleft, hleft']
  exact .given fun _ => .found hlazy

/-- The same step is taken before a parenthesis. By the sign that is read. -/
theorem readStep_alike {c : Char} (hc : c = '#' → comments = true)
    (h : Closed comments rest closed) (progress : Progress) :
    Alike comments (fun next => Stuck next.flags) (readStep progress (c :: rest))
      (readStep progress (c :: closed)) := by
  by_cases hsign : c ∈ ['(', ')', '|', '?', '*', '+', '{']
  · simp only [List.mem_cons, List.not_mem_nil, or_false] at hsign
    obtain rfl | rfl | rfl | rfl | rfl | rfl | rfl := hsign
    · refine (h.readGroupOpening_alike progress.flags).bind ?_ ?_
      · rintro opening _ rfl
        cases opening with
        | setting | plain => exact .spent .nil
        | counted => exact .given_spent fun _ => .spent .nil
      · intro opening left left' hleft
        cases opening with
        | setting | plain => exact .found hleft
        | counted => exact .given fun _ => .found hleft
    · exact .given fun _ => .found h
    · exact .found h
    · exact quantified_alike h progress 0 (some 1)
    · exact quantified_alike h progress 0 none
    · exact quantified_alike h progress 1 none
    · simp only [readStep]
      obtain ⟨hrest, hclosed⟩ | ⟨least, most?, left, left', hrest, hclosed, hleft⟩ :=
        h.readBounds_alike progress.flags
      · rw [hrest, hclosed]
        exact .nothing
      · rw [hrest, hclosed]
        exact quantified_alike (hleft.skip progress.flags) progress least most?
  · rw [readStep_primitive hsign, readStep_primitive hsign]
    exact (h.readPrimitive_alike hc progress.flags).bind (fun _ _ hstuck => .spent hstuck)
      fun _ _ _ hleft => .found hleft

end Progress

end TokenGrammar.Pattern
