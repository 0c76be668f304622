import TokenGrammar.Proofs.Pattern.Closing

/-!
# Brackets before a closing parenthesis

A bracketed class ends with a bracket. So it is read from a text just if it is read with a closing
parenthesis behind the text: what a member takes in because of the parenthesis leaves no bracket to
end the class.
-/

namespace TokenGrammar.Pattern

namespace Closed

variable {comments : Bool} {rest closed : List Char}

/-- What stands before the first character that is not accepted, if the parenthesis is accepted. -/
theorem span_alike (h : Closed comments rest closed) (accepts : Char → Bool)
    (hparenthesis : accepts ')' = true) :
    (∃ taken taken', rest.span accepts = (taken, []) ∧ closed.span accepts = (taken', [])) ∨
      ∃ taken c left left', rest.span accepts = (taken, c :: left) ∧
        closed.span accepts = (taken, c :: left') ∧ Closed comments left left' := by
  simp only [List.span_eq_takeWhile_dropWhile, Prod.mk.injEq]
  induction h with
  | parenthesis =>
      rw [List.dropWhile_cons, if_pos hparenthesis]
      exact .inl ⟨_, _, ⟨rfl, rfl⟩, rfl, rfl⟩
  | swallowed => exact .inl ⟨_, _, ⟨rfl, rfl⟩, rfl, rfl⟩
  | @cons c rest closed _ h ih =>
      simp only [List.takeWhile_cons, List.dropWhile_cons]
      cases accepts c with
      | false => exact .inr ⟨[], c, rest, closed, ⟨rfl, rfl⟩, ⟨rfl, rfl⟩, h⟩
      | true =>
          obtain ⟨taken, taken', hrest, hclosed⟩ |
            ⟨taken, d, left, left', hrest, hclosed, hleft⟩ := ih
          · exact .inl ⟨c :: taken, c :: taken', by simp [hrest], by simp [hclosed]⟩
          · exact .inr ⟨c :: taken, d, left, left', by simp [hrest], by simp [hclosed], hleft⟩

theorem namedClass?_eq_none {name left : List Char} (flags : Flags) (negate : Bool)
    (hspan : rest.span (· != ':') = (name, left)) (hleft : ∀ left', left ≠ ':' :: ']' :: left') :
    namedClass? flags negate rest = none := by
  rw [namedClass?, hspan]
  split
  · rename_i heq
    cases heq
    exact absurd rfl (hleft _)
  · rfl

theorem namedClass?_same (h : Closed comments rest closed) (flags : Flags) (negate : Bool) :
    Same comments (namedClass? flags negate rest) (namedClass? flags negate closed) := by
  have hunnamed : ∀ {name name' left left' : List Char}, rest.span (· != ':') = (name, left) →
      closed.span (· != ':') = (name', left') → (∀ more, left ≠ ':' :: ']' :: more) →
      (∀ more, left' ≠ ':' :: ']' :: more) →
        Same comments (namedClass? flags negate rest) (namedClass? flags negate closed) := by
    intro name name' left left' hrest hclosed hleft hleft'
    rw [namedClass?_eq_none flags negate hrest hleft,
      namedClass?_eq_none flags negate hclosed hleft']
    exact .nothing
  obtain ⟨taken, taken', hrest, hclosed⟩ | ⟨name, c, left, left', hrest, hclosed, h'⟩ :=
    h.span_alike (· != ':') (by decide)
  · exact hunnamed hrest hclosed nofun nofun
  · cases h' with
    | parenthesis | swallowed => exact hunnamed hrest hclosed (by simp) (by simp)
    | @cons d left left' _ h' =>
        by_cases hc : c = ':' ∧ d = ']'
        · obtain ⟨rfl, rfl⟩ := hc
          simp only [namedClass?, hrest, hclosed]
          cases CharSet.bracketed? (String.ofList name) with
          | none => exact .nothing
          | some members => exact .found h'
        · have hsigns : ∀ left more, c :: d :: left ≠ ':' :: ']' :: more := by
            intro left more heq
            cases heq
            exact hc ⟨rfl, rfl⟩
          exact hunnamed hrest hclosed (hsigns _) (hsigns _)

theorem readNamed_same (h : Closed comments rest closed) (flags : Flags) :
    Same comments (readNamed flags rest) (readNamed flags closed) := by
  obtain ⟨rest, closed, rfl, rfl, h'⟩ | ⟨hrest, hclosed⟩ :=
    h.begins_or_not (by decide : ')' ≠ ':')
  · obtain ⟨rest, closed, rfl, rfl, h''⟩ | ⟨hrest, hclosed⟩ :=
      h'.begins_or_not (by decide : ')' ≠ '^')
    · exact h''.namedClass?_same flags true
    · simp only [readNamed]
      exact h'.namedClass?_same flags false
  · simp only [readNamed]
    exact .nothing

theorem readHyphens_alike (h : Closed comments rest closed) (flags : Flags) {fuel fuel' : Nat}
    (hfuel : rest.length ≤ fuel) (hfuel' : closed.length ≤ fuel') (items : Items) :
    ∃ items' left left', readHyphens flags fuel items rest = (items', left) ∧
      readHyphens flags fuel' items closed = (items', left') ∧ Closed comments left left' := by
  induction fuel generalizing fuel' items rest closed with
  | zero =>
      obtain rfl : rest = [] := List.length_eq_zero_iff.1 (Nat.le_zero.1 hfuel)
      refine ⟨items, [], closed, rfl, ?_, h⟩
      cases h with
      | parenthesis | swallowed => cases fuel' <;> rfl
  | succ fuel ih =>
      cases h with
      | parenthesis => exact ⟨items, [], [')'], rfl, by cases fuel' <;> rfl, .parenthesis⟩
      | swallowed h => exact ⟨items, [], [], rfl, by cases fuel' <;> rfl, .swallowed h⟩
      | @cons c rest closed hc h =>
          obtain ⟨fuel', rfl⟩ := Nat.exists_eq_add_of_lt (Nat.zero_lt_of_lt hfuel')
          rw [List.length_cons] at hfuel hfuel'
          by_cases hhyphen : c = '-'
          · subst hhyphen
            have hrest := length_skip_le flags rest
            have hclosed := length_skip_le flags closed
            exact ih (h.skip flags) (by omega) (by omega) _
          · refine ⟨items, c :: rest, c :: closed, ?_, ?_, .cons hc h⟩
            · simp only [readHyphens, List.cons.injEq, hhyphen, false_and, imp_self, implies_true]
            · simp only [readHyphens, List.cons.injEq, hhyphen, false_and, imp_self, implies_true]

theorem readSelves_alike (h : Closed comments rest closed) (flags : Flags) (negate : Bool) :
    ∃ items left left', readSelves flags negate rest = (negate, items, left) ∧
      readSelves flags negate closed = (negate, items, left') ∧ Closed comments left left' := by
  obtain ⟨items, left, left', hrest, hclosed, h'⟩ :=
    h.readHyphens_alike flags (Nat.le_refl _) (Nat.le_refl _) {}
  obtain ⟨more, more', rfl, rfl, hmore⟩ | ⟨hleft, hleft'⟩ :=
    h'.begins_or_not (by decide : ')' ≠ ']')
  · simp only [readSelves, hrest, hclosed]
    split
    · exact ⟨_, _, _, rfl, rfl, hmore.skip flags⟩
    · exact ⟨_, _, _, rfl, rfl, h'⟩
  · simp only [readSelves, hrest, hclosed]
    exact ⟨_, _, _, rfl, rfl, h'⟩

theorem readOpening_alike (h : Closed comments rest closed) (flags : Flags) :
    ∃ negate items left left', readOpening flags rest = (negate, items, left) ∧
      readOpening flags closed = (negate, items, left') ∧ Closed comments left left' := by
  obtain ⟨rest', closed', hrest, hclosed, h'⟩ | ⟨hrest, hclosed⟩ :=
    (h.skip flags).begins_or_not (by decide : ')' ≠ '^')
  · simp only [readOpening, hrest, hclosed]
    exact ⟨true, (h'.skip flags).readSelves_alike flags true⟩
  · simp only [readOpening]
    exact ⟨false, (h.skip flags).readSelves_alike flags false⟩

theorem readAtom_alike (h : Closed comments rest closed) (flags : Flags) :
    Alike comments (fun _ => Stuck flags) (readAtom flags rest) (readAtom flags closed) := by
  obtain ⟨rfl, rfl⟩ | ⟨rfl, rfl⟩ | ⟨c, rest, closed, rfl, rfl, h'⟩ := h.ends_or_cons
  · exact .spent .nil
  · exact .nothing
  · by_cases hbackslash : c = '\\'
    · subst hbackslash
      exact h'.readEscape_alike flags
    · simp only [readAtom]
      exact .found h'

theorem head?_beq (h : Closed comments rest closed) {sign : Char} (hsign : ')' ≠ sign) :
    (rest.head? == some sign) = (closed.head? == some sign) := by
  cases h with
  | parenthesis => simp [hsign]
  | swallowed | cons => rfl

theorem peekAfter_beq (h : Closed comments rest closed) (flags : Flags) {sign : Char}
    (hsign : ')' ≠ sign) :
    (peekAfter flags rest == some sign) = (peekAfter flags closed == some sign) := by
  rw [peekAfter, peekAfter]
  split
  · have h' := h.dropWhile isWhiteSpace_parenthesis
    obtain ⟨rest', closed', hrest, hclosed, hhash⟩ | ⟨hrest, hclosed⟩ :=
      h'.begins_or_not (by decide : ')' ≠ '#')
    · simp only [hrest, hclosed]
      exact (hhash.dropWhile isWhiteSpace_parenthesis).head?_beq hsign
    · split
      · exact absurd ‹_› (hrest _)
      · exact h'.head?_beq hsign
  · exact h.head?_beq hsign

/-- Behind a character at the end, the parenthesis may be left. -/
theorem readMember_alike (h : Closed comments rest closed) (flags : Flags) :
    Alike comments (fun _ left' => left' = [')'] ∨ Stuck flags left') (readMember flags rest)
      (readMember flags closed) := by
  refine (h.readAtom_alike flags).bind ?_ ?_
  · intro atom left' hstuck
    dsimp only
    rw [hstuck.skip_eq]
    cases hstuck with
    | nil => exact .nothing
    | brace h => exact .given_spent fun _ => .spent (.inr (.brace h))
  intro atom left left' hleft
  dsimp only
  have hskipped := hleft.skip flags
  obtain ⟨hrest, hclosed⟩ | ⟨hrest, hclosed⟩ | ⟨c, after, after', hafter, hafter', h'⟩ :=
    hskipped.ends_or_cons
  · rw [hrest, hclosed]
    exact .given_spent fun _ => .spent (.inl rfl)
  · rw [hrest, hclosed]
    exact .nothing
  · rw [hafter, hafter'] at hskipped
    by_cases hhyphen : c = '-'
    · subst hhyphen
      simp only [hafter, hafter']
      rw [h'.peekAfter_beq flags (by decide : ')' ≠ ']'),
        h'.peekAfter_beq flags (by decide : ')' ≠ '-')]
      split
      · exact .given fun _ => .found hskipped
      · refine ((h'.skip flags).readAtom_alike flags).bind ?_ ?_
        · intro second left' hstuck
          cases atom with
          | literal first =>
              cases second with
              | literal last =>
                  dsimp only
                  split
                  · exact .spent (.inr hstuck)
                  · exact .nothing
              | members | look => exact .nothing
          | members | look => exact .nothing
        intro second more more' hmore
        cases atom with
        | literal first =>
            cases second with
            | literal last =>
                dsimp only
                split
                · exact .found hmore
                · exact .nothing
            | members | look => exact .nothing
        | members | look => exact .nothing
    · simp only [hafter, hafter', List.cons.injEq, hhyphen, false_and, imp_self, implies_true]
      exact .given fun _ => .found hskipped

theorem readBracket_end {flags : Flags} (hrest : flags.skip rest = []) (fuel : Nat)
    (stack : List BracketFrame) (items : Items) :
    readBracket flags fuel stack items rest = none := by
  cases fuel with
  | zero => rfl
  | succ fuel => simp only [readBracket, hrest]

theorem readAtom_cons {c : Char} (hc : c ≠ '\\') (flags : Flags) (rest : List Char) :
    readAtom flags (c :: rest) = some (.literal c, rest) := by
  simp only [readAtom]

theorem readBracket_parenthesis {flags : Flags} (hclosed : flags.skip closed = [')']) (fuel : Nat)
    (stack : List BracketFrame) (items : Items) :
    readBracket flags fuel stack items closed = none := by
  have hmember : readMember flags [')'] = none := by
    rw [readMember, readAtom_cons (by decide)]
    simp only [Option.bind_eq_bind, Option.bind_some, flags.skip_nil]
  cases fuel with
  | zero => rfl
  | succ fuel =>
      rw [readBracket, hclosed]
      exact Option.bind_eq_none_iff.2 fun _ h => by
        rw [hmember] at h
        cases h

/-- What a member leaves that is read only because of the parenthesis ends no bracket. -/
theorem readBracket_spent {flags : Flags} {left' : List Char}
    (hspent : left' = [')'] ∨ Stuck flags left') (fuel : Nat) (stack : List BracketFrame)
    (items : Items) : readBracket flags fuel stack items left' = none := by
  obtain rfl | hstuck := hspent
  · exact readBracket_parenthesis (flags.skip_cons isWhiteSpace_parenthesis (by decide) _) _ _ _
  · have hskip := hstuck.skip_eq
    cases hstuck with
    | nil => exact readBracket_end flags.skip_nil _ _ _
    | @brace inner hinner =>
        have hmember : readMember flags ('{' :: inner) = some (.single '{', [')']) := by
          rw [readMember, readAtom_cons (by decide)]
          simp only [Option.bind_eq_bind, Option.bind_some, hinner]
          rfl
        cases fuel with
        | zero => rfl
        | succ fuel =>
            rw [readBracket, hskip]
            refine Option.bind_eq_none_iff.2 fun found hfound => ?_
            rw [hmember] at hfound
            cases hfound
            exact readBracket_parenthesis
              (flags.skip_cons isWhiteSpace_parenthesis (by decide) _) _ _ _

theorem readBracket_same_of_nil (h : Closed comments rest closed) {flags : Flags}
    (hrest : flags.skip rest = []) (fuel fuel' : Nat) (stack : List BracketFrame) (items : Items) :
    Same comments (readBracket flags fuel stack items rest)
      (readBracket flags fuel' stack items closed) := by
  rw [readBracket_end hrest]
  have hskipped := h.skip flags
  rw [hrest] at hskipped
  generalize hclosed : flags.skip closed = text at hskipped
  cases hskipped with
  | parenthesis =>
      rw [readBracket_parenthesis hclosed]
      exact .nothing
  | swallowed =>
      rw [readBracket_end hclosed]
      exact .nothing

/-- A bracketed class ends with a bracket, so it does not depend on the parenthesis behind it. By
induction on the fuel; the cases are the signs that may stand in a bracket. -/
theorem readBracket_same (h : Closed comments rest closed) (flags : Flags) {fuel fuel' : Nat}
    (hfuel : rest.length < fuel) (hle : fuel ≤ fuel') (stack : List BracketFrame) (items : Items) :
    Same comments (readBracket flags fuel stack items rest)
      (readBracket flags fuel' stack items closed) := by
  induction fuel generalizing fuel' stack items rest closed with
  | zero => cases hfuel
  | succ fuel ih =>
      obtain ⟨fuel', rfl⟩ := Nat.exists_eq_add_of_lt hle
      have hle : fuel ≤ fuel + fuel' := Nat.le_add_right _ _
      have hskip := length_skip_le flags rest
      have hskipped := h.skip flags
      obtain ⟨rest', closed', hrest, hclosed, h'⟩ | ⟨hopen, hopen'⟩ :=
        hskipped.begins_or_not (by decide : ')' ≠ '[')
      · rw [hrest, List.length_cons] at hskip
        simp only [readBracket, hrest, hclosed]
        have hnamed := Alike.ite_none (h'.readNamed_same flags) stack.isEmpty
        have hleaves := (leaves_readNamed flags rest').ite_none stack.isEmpty
        have hopened := length_readOpening_le flags rest'
        obtain ⟨negate, inner, left, left', hleft, hleft', hopening⟩ := h'.readOpening_alike flags
        rw [hleft] at hopened
        dsimp only at hopened
        rw [hleft, hleft']
        generalize (if stack.isEmpty then none else readNamed flags rest') = named?
          at hnamed hleaves ⊢
        generalize (if stack.isEmpty then none else readNamed flags closed') = named?' at hnamed ⊢
        cases hnamed with
        | nothing => exact ih hopening (by omega) hle _ _
        | spent h => exact h.elim
        | found hnamed =>
            have hle' := hleaves.length_le rfl
            exact ih hnamed (by omega) hle _ _
      obtain ⟨rest', closed', hrest, hclosed, h'⟩ | ⟨hclose, hclose'⟩ :=
        hskipped.begins_or_not (by decide : ')' ≠ ']')
      · rw [hrest, List.length_cons] at hskip
        simp only [readBracket, hrest, hclosed]
        split
        · split
          · exact .found h'
          · exact ih h' (by omega) hle _ _
        · exact .nothing
      obtain ⟨rest', closed', hrest, hclosed, h'⟩ | ⟨hand, hand'⟩ :=
        hskipped.doubles_or_not (by decide : ')' ≠ '&')
      · rw [hrest, List.length_cons, List.length_cons] at hskip
        simp only [readBracket, hrest, hclosed]
        exact ih h' (by omega) hle _ _
      obtain ⟨rest', closed', hrest, hclosed, h'⟩ | ⟨hwithout, hwithout'⟩ :=
        hskipped.doubles_or_not (by decide : ')' ≠ '-')
      · rw [hrest, List.length_cons, List.length_cons] at hskip
        simp only [readBracket, hrest, hclosed]
        exact ih h' (by omega) hle _ _
      obtain ⟨rest', closed', hrest, hclosed, h'⟩ | ⟨heither, heither'⟩ :=
        hskipped.doubles_or_not (by decide : ')' ≠ '~')
      · rw [hrest, List.length_cons, List.length_cons] at hskip
        simp only [readBracket, hrest, hclosed]
        exact ih h' (by omega) hle _ _
      by_cases hnil : flags.skip rest = []
      · exact h.readBracket_same_of_nil hnil _ _ _ _
      have hnil' : flags.skip closed = [] → False := fun hnil' => hnil (hnil' ▸ hskipped).eq_nil
      have hpos := List.length_pos_iff.2 hnil
      simp only [readBracket]
      refine (hskipped.readMember_alike flags).bind_of_leaves (leaves_readMember flags _) ?_ ?_
      · intro member left' hspent
        dsimp only
        rw [readBracket_spent hspent]
        exact .nothing
      · intro member left left' hle' hleft
        exact ih hleft (by omega) hle _ _

end Closed

end TokenGrammar.Pattern
