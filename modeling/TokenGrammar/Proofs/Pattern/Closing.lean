import TokenGrammar.Proofs.Pattern.Consuming

/-!
# A closing parenthesis behind a text

What is read from a text is also read from the text with a closing parenthesis behind it, and the
parenthesis is left over. There is one exception: in verbose text a comment at the end goes on to
the end of its line, so the parenthesis becomes part of it. What is read only because of the
parenthesis takes it in, or can go on nowhere. Readers are put together from others, and what holds
of those holds of them.
-/

namespace TokenGrammar.Pattern

/-- That a text stands before a closing parenthesis in another one. Where the text has comments, the
last may have swallowed the parenthesis. -/
inductive Closed (comments : Bool) : List Char → List Char → Prop
  | parenthesis : Closed comments [] [')']
  | swallowed (h : comments = true) : Closed comments [] []
  | cons {c : Char} {rest closed : List Char} (hc : c = '#' → comments = true)
      (h : Closed comments rest closed) : Closed comments (c :: rest) (c :: closed)

theorem isWhiteSpace_parenthesis : Text.isWhiteSpace ')' = false := by cbv

namespace Closed

variable {comments : Bool} {rest closed : List Char}

theorem length_le (h : Closed comments rest closed) : rest.length ≤ closed.length := by
  induction h with
  | parenthesis => exact Nat.zero_le _
  | swallowed => exact Nat.le_refl _
  | cons _ _ ih => exact Nat.succ_le_succ ih

theorem eq_nil (h : Closed comments rest []) : rest = [] :=
  List.length_eq_zero_iff.1 (Nat.le_zero.1 h.length_le)

theorem of_append (hcomments : '#' ∈ rest → comments = true) :
    Closed comments rest (rest ++ [')']) := by
  induction rest with
  | nil => exact .parenthesis
  | cons c rest ih =>
      refine .cons ?_ (ih fun hmem => hcomments (List.mem_cons_of_mem _ hmem))
      rintro rfl
      exact hcomments List.mem_cons_self

theorem ends_or_cons (h : Closed comments rest closed) :
    (rest = [] ∧ closed = [')']) ∨ (rest = [] ∧ closed = []) ∨
      ∃ c rest' closed', rest = c :: rest' ∧ closed = c :: closed' ∧
        Closed comments rest' closed' := by
  cases h with
  | parenthesis => exact .inl ⟨rfl, rfl⟩
  | swallowed => exact .inr (.inl ⟨rfl, rfl⟩)
  | @cons c rest closed _ h => exact .inr (.inr ⟨c, rest, closed, rfl, rfl, h⟩)

theorem begins_or_not (h : Closed comments rest closed) {sign : Char} (hsign : ')' ≠ sign) :
    (∃ rest' closed', rest = sign :: rest' ∧ closed = sign :: closed' ∧
        Closed comments rest' closed') ∨
      (∀ rest', rest = sign :: rest' → False) ∧ ∀ closed', closed = sign :: closed' → False := by
  cases h with
  | parenthesis => exact .inr ⟨nofun, fun _ h => hsign (List.cons.inj h).1⟩
  | swallowed => exact .inr ⟨nofun, nofun⟩
  | @cons c rest closed _ h =>
      by_cases hc : c = sign
      · exact .inl ⟨rest, closed, by rw [hc], by rw [hc], h⟩
      · exact .inr ⟨fun _ h => hc (List.cons.inj h).1, fun _ h => hc (List.cons.inj h).1⟩

theorem doubles_or_not (h : Closed comments rest closed) {sign : Char} (hsign : ')' ≠ sign) :
    (∃ rest' closed', rest = sign :: sign :: rest' ∧ closed = sign :: sign :: closed' ∧
        Closed comments rest' closed') ∨
      (∀ rest', rest = sign :: sign :: rest' → False) ∧
        ∀ closed', closed = sign :: sign :: closed' → False := by
  obtain ⟨rest, closed, rfl, rfl, h'⟩ | ⟨hrest, hclosed⟩ := h.begins_or_not hsign
  · obtain ⟨rest', closed', rfl, rfl, h''⟩ | ⟨hrest, hclosed⟩ := h'.begins_or_not hsign
    · exact .inl ⟨rest', closed', rfl, rfl, h''⟩
    · exact .inr ⟨fun _ h => hrest _ (List.cons.inj h).2, fun _ h => hclosed _ (List.cons.inj h).2⟩
  · exact .inr ⟨fun _ => hrest _, fun _ => hclosed _⟩

theorem skipBlanks (h : Closed comments rest closed) :
    ∀ {inComment : Bool}, (inComment = true → comments = true) →
      Closed comments (Pattern.skipBlanks inComment rest)
        (Pattern.skipBlanks inComment closed) := by
  induction h with
  | parenthesis =>
      intro inComment hcomment
      cases inComment with
      | true => exact .swallowed (hcomment rfl)
      | false =>
          simp only [Pattern.skipBlanks, isWhiteSpace_parenthesis]
          exact .parenthesis
  | swallowed hswallowed => exact fun _ => .swallowed hswallowed
  | @cons c rest closed hc h ih =>
      intro inComment hcomment
      simp only [Pattern.skipBlanks]
      split
      · exact ih fun _ => hcomment ‹_›
      · split
        · exact ih fun h => absurd h Bool.false_ne_true
        · split
          · exact ih fun _ => hc (eq_of_beq ‹_›)
          · exact .cons hc h

theorem skip (h : Closed comments rest closed) (flags : Flags) :
    Closed comments (flags.skip rest) (flags.skip closed) := by
  rw [Flags.skip, Flags.skip]
  split
  · exact h.skipBlanks fun h => absurd h Bool.false_ne_true
  · exact h

theorem dropWhile (h : Closed comments rest closed) {accepts : Char → Bool}
    (hparenthesis : accepts ')' = false) :
    Closed comments (rest.dropWhile accepts) (closed.dropWhile accepts) := by
  induction h with
  | parenthesis =>
      rw [List.dropWhile_cons, hparenthesis]
      exact .parenthesis
  | swallowed hswallowed => exact .swallowed hswallowed
  | cons hc h ih =>
      rw [List.dropWhile_cons, List.dropWhile_cons]
      split
      · exact ih
      · exact .cons hc h

end Closed

/-! ### Readers -/

theorem Flags.skip_nil (flags : Flags) : flags.skip [] = [] := by
  rw [skip]
  split <;> rfl

theorem Flags.skip_cons {c : Char} (hc : Text.isWhiteSpace c = false) (hhash : c ≠ '#')
    (flags : Flags) (rest : List Char) : flags.skip (c :: rest) = c :: rest := by
  simp [skip, skipBlanks, hc, hhash]

/-- That what was read from a text was also read before a closing parenthesis. Something may be read
only because of the parenthesis; then what is left behind it is spent. -/
inductive Alike (comments : Bool) {α : Type} (IsSpent : α → List Char → Prop) :
    Option (α × List Char) → Option (α × List Char) → Prop
  | nothing : Alike comments IsSpent none none
  | spent {value : α} {left' : List Char} (h : IsSpent value left') :
      Alike comments IsSpent none (some (value, left'))
  | found {value : α} {left left' : List Char} (h : Closed comments left left') :
      Alike comments IsSpent (some (value, left)) (some (value, left'))

abbrev Same (comments : Bool) {α : Type} :
    Option (α × List Char) → Option (α × List Char) → Prop :=
  Alike comments fun _ _ => False

/-- That no more can be read: nothing is left, or a brace with only the parenthesis behind it. -/
inductive Stuck (flags : Flags) : List Char → Prop
  | nil : Stuck flags []
  | brace {inner : List Char} (h : flags.skip inner = [')']) : Stuck flags ('{' :: inner)

theorem Stuck.skip_eq {flags : Flags} {left : List Char} (h : Stuck flags left) :
    flags.skip left = left := by
  cases h with
  | nil => exact flags.skip_nil
  | brace => exact flags.skip_cons (by cbv) (by decide) _

namespace Alike

variable {comments : Bool} {α β : Type} {IsSpent : α → List Char → Prop}
  {IsSpent' : β → List Char → Prop} {found? found?' : Option (α × List Char)}

theorem bind {next next' : α × List Char → Option (β × List Char)}
    (h : Alike comments IsSpent found? found?')
    (hspent : ∀ value left', IsSpent value left' →
      Alike comments IsSpent' none (next' (value, left')))
    (hnext : ∀ value left left', Closed comments left left' →
      Alike comments IsSpent' (next (value, left)) (next' (value, left'))) :
    Alike comments IsSpent' (found? >>= next) (found?' >>= next') := by
  cases h with
  | nothing => exact .nothing
  | spent h => exact hspent _ _ h
  | found h => exact hnext _ _ _ h

/-- The same, where so many characters are left behind what is read first. -/
theorem bind_of_leaves {bound : Nat} {next next' : α × List Char → Option (β × List Char)}
    (h : Alike comments IsSpent found? found?') (hleaves : Leaves bound found?)
    (hspent : ∀ value left', IsSpent value left' →
      Alike comments IsSpent' none (next' (value, left')))
    (hnext : ∀ value left left', left.length ≤ bound → Closed comments left left' →
      Alike comments IsSpent' (next (value, left)) (next' (value, left'))) :
    Alike comments IsSpent' (found? >>= next) (found?' >>= next') := by
  cases h with
  | nothing => exact .nothing
  | spent h => exact hspent _ _ h
  | found h => exact hnext _ _ _ (hleaves.length_le rfl) h

theorem ite_none (h : Alike comments IsSpent found? found?') (skipped : Bool) :
    Alike comments IsSpent (if skipped then none else found?)
      (if skipped then none else found?') := by
  cases skipped with
  | true => exact .nothing
  | false => exact h

theorem map {change : α × List Char → β × List Char} {f : α → β}
    (h : Alike comments IsSpent found? found?')
    (hchange : ∀ value rest, change (value, rest) = (f value, rest))
    (hspent : ∀ value left', IsSpent value left' → IsSpent' (f value) left') :
    Alike comments IsSpent' (found?.map change) (found?'.map change) := by
  cases h with
  | nothing => exact .nothing
  | spent h =>
      rw [Option.map_some, hchange]
      exact .spent (hspent _ _ h)
  | found h =>
      rw [Option.map_some, Option.map_some, hchange, hchange]
      exact .found h

theorem given {value? : Option β} {next next' : β → Option (α × List Char)}
    (hnext : ∀ value, Alike comments IsSpent (next value) (next' value)) :
    Alike comments IsSpent (value? >>= next) (value? >>= next') := by
  cases value? with
  | none => exact .nothing
  | some value => exact hnext value

theorem given_spent {value? : Option β} {next' : β → Option (α × List Char)}
    (hnext : ∀ value, Alike comments IsSpent none (next' value)) :
    Alike comments IsSpent none (value? >>= next') := by
  cases value? with
  | none => exact .nothing
  | some value => exact hnext value

end Alike

namespace Same

variable {comments : Bool} {α β : Type} {IsSpent : β → List Char → Prop}
  {found? found?' : Option (α × List Char)}

theorem alike {IsSpent : α → List Char → Prop} (h : Same comments found? found?') :
    Alike comments IsSpent found? found?' := by
  cases h with
  | nothing => exact .nothing
  | spent h => exact h.elim
  | found h => exact .found h

theorem bind {next next' : α × List Char → Option (β × List Char)}
    (h : Same comments found? found?')
    (hnext : ∀ value left left', Closed comments left left' →
      Alike comments IsSpent (next (value, left)) (next' (value, left'))) :
    Alike comments IsSpent (found? >>= next) (found?' >>= next') :=
  Alike.bind h (fun _ _ => False.elim) hnext

theorem map {change : α × List Char → β × List Char} {f : α → β} (h : Same comments found? found?')
    (hchange : ∀ value rest, change (value, rest) = (f value, rest)) :
    Alike comments IsSpent (found?.map change) (found?'.map change) :=
  Alike.map h hchange fun _ _ => False.elim

end Same

namespace Closed

variable {comments : Bool} {rest closed : List Char}

/-! ### Numbers and names -/

theorem readHexDigits_same (h : Closed comments rest closed) (flags : Flags) (count value : Nat) :
    Same comments (readHexDigits flags count value rest)
      (readHexDigits flags count value closed) := by
  induction count generalizing value rest closed with
  | zero => exact .found h
  | succ count ih =>
      cases h with
      | parenthesis | swallowed => exact .nothing
      | @cons c rest closed _ h =>
          exact .given fun digit => ih (h.skip flags) (16 * value + digit)

theorem readBraced_nil (flags : Flags) (fuel : Nat) (taken : List Char) :
    readBraced flags fuel taken [] = none := by
  cases fuel with
  | zero => rfl
  | succ fuel => rw [readBraced, flags.skip_nil]

theorem readBraced_same (h : Closed comments rest closed) (flags : Flags) {fuel fuel' : Nat}
    (hfuel : rest.length < fuel) (hle : fuel ≤ fuel') (taken : List Char) :
    Same comments (readBraced flags fuel taken rest) (readBraced flags fuel' taken closed) := by
  induction fuel generalizing fuel' taken rest closed with
  | zero => cases hfuel
  | succ fuel ih =>
      obtain ⟨fuel', rfl⟩ := Nat.exists_eq_add_of_lt hle
      have hskip := length_skip_le flags rest
      obtain ⟨hrest, hclosed⟩ | ⟨hrest, hclosed⟩ | ⟨c, text, text', hrest, hclosed, h'⟩ :=
        (h.skip flags).ends_or_cons
      · have hclosed' : readBraced flags (fuel + fuel' + 1) taken closed = none := by
          rw [readBraced, hclosed]
          exact readBraced_nil flags _ _
        rw [readBraced, hrest, hclosed']
        exact .nothing
      · simp only [readBraced, hrest, hclosed]
        exact .nothing
      · by_cases hc : c = '}'
        · subst hc
          simp only [readBraced, hrest, hclosed]
          exact .found h'
        · simp only [readBraced, hrest, hclosed]
          rw [hrest, List.length_cons] at hskip
          exact ih h' (by omega) (Nat.le_add_right _ _) _

theorem readCodePoint_same (h : Closed comments rest closed) (flags : Flags) (digits : Nat) :
    Same comments (readCodePoint flags digits rest) (readCodePoint flags digits closed) := by
  obtain ⟨rest', closed', hrest, hclosed, h'⟩ | ⟨hrest, hclosed⟩ :=
    (h.skip flags).begins_or_not (by decide : ')' ≠ '{')
  · simp only [readCodePoint, hrest, hclosed]
    refine Same.bind (h'.readBraced_same flags (Nat.lt_succ_self _)
      (Nat.succ_le_succ h'.length_le) []) ?_
    exact fun _ _ _ h => .given fun _ => .given fun _ => .found h
  · simp only [readCodePoint]
    refine Same.bind ((h.skip flags).readHexDigits_same flags digits 0) ?_
    exact fun _ _ _ h => .given fun _ => .found h

/-! ### Escapes -/

theorem property?_parenthesis : CharSet.property? [')'] = none := by decide +kernel

theorem readProperty_same (h : Closed comments rest closed) (flags : Flags) (negate : Bool) :
    Same comments (readProperty flags negate rest) (readProperty flags negate closed) := by
  obtain ⟨hrest, hclosed⟩ | ⟨hrest, hclosed⟩ | ⟨c, rest', closed', hrest, hclosed, h'⟩ :=
    (h.skip flags).ends_or_cons
  · have hclosed' : readProperty flags negate closed = none := by
      rw [readProperty, hclosed]
      exact Option.bind_eq_none_iff.2 fun _ h => by
        rw [property?_parenthesis] at h
        cases h
    rw [readProperty, hrest, hclosed']
    exact .nothing
  · simp only [readProperty, hrest, hclosed]
    exact .nothing
  · by_cases hbackslash : c = '\\'
    · subst hbackslash
      simp only [readProperty, hrest, hclosed]
      exact .nothing
    · by_cases hbrace : c = '{'
      · subst hbrace
        simp only [readProperty, hrest, hclosed]
        refine Same.bind (h'.readBraced_same flags (Nat.lt_succ_self _)
          (Nat.succ_le_succ h'.length_le) []) ?_
        exact fun _ _ _ h => .given fun _ => .found h
      · simp only [readProperty, hrest, hclosed]
        exact .given fun _ => .found h'

/-- A brace at the end is part of the escape, but with a parenthesis behind it, it is left. -/
theorem readBoundary_alike (h : Closed comments rest closed) (flags : Flags) :
    Alike comments (fun _ => Stuck flags) (readBoundary flags rest)
      (readBoundary flags closed) := by
  obtain ⟨rest', closed', rfl, rfl, h'⟩ | ⟨hrest, hclosed⟩ :=
    h.begins_or_not (by decide : ')' ≠ '{')
  · obtain ⟨hrest, hclosed⟩ | ⟨hrest, hclosed⟩ | ⟨c, inner, inner', hrest, hclosed, _⟩ :=
      (h'.skip flags).ends_or_cons
    · simp only [readBoundary, hrest, hclosed]
      exact .spent (.brace hclosed)
    · simp only [readBoundary, hrest, hclosed]
      exact .nothing
    · simp only [readBoundary, hrest, hclosed]
      split
      · refine Same.bind (h'.readBraced_same flags (Nat.lt_succ_self _)
          (Nat.succ_le_succ h'.length_le) []) ?_
        intro name left left' hleft
        dsimp only
        split
        · exact .given fun _ => .found hleft
        · exact .nothing
      · exact .found h
  · simp only [readBoundary]
    exact .found h

/-- By the character behind the backslash. A backslash at the end escapes the parenthesis. -/
theorem readEscape_alike (h : Closed comments rest closed) (flags : Flags) :
    Alike comments (fun _ => Stuck flags) (readEscape flags rest) (readEscape flags closed) := by
  obtain ⟨rfl, rfl⟩ | ⟨rfl, rfl⟩ | ⟨c, rest, closed, rfl, rfl, h'⟩ := h.ends_or_cons
  · exact .spent .nil
  · exact .nothing
  · simp only [readEscape]
    split
    case h_1 | h_2 | h_3 => exact Same.map (h'.readCodePoint_same flags _) fun _ _ => rfl
    case h_4 | h_5 => exact Same.alike (h'.readProperty_same flags _)
    case h_20 => exact (h'.readBoundary_alike flags).map (fun _ _ => rfl) fun _ _ => id
    case h_24 =>
      split
      · exact .found h'
      · exact .nothing
    all_goals exact .found h'

end Closed

end TokenGrammar.Pattern
