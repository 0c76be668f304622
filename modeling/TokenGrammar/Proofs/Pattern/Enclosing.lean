import TokenGrammar.Proofs.Pattern.Stepping

/-!
# Patterns inside a group

A text that is a pattern on its own is read in the same way inside a group, up to the closing
parenthesis of that group. Step by step the same signs are read, and what has been read differs only
by the group around all of it. Conversely, what is read inside a group is a pattern on its own,
unless it closes the group by itself.
-/

namespace TokenGrammar.Pattern

namespace Progress

/-! ### A group around a text -/

/-- The same with another group around all of it. -/
def within (progress : Progress) (around : Group) : Progress :=
  { progress with outer := progress.outer ++ [around] }

def bottomLabel (progress : Progress) : Option CaptureLabel :=
  ((progress.group :: progress.outer).getLast (List.cons_ne_nil _ _)).label?

/-- What a step does to the groups that are open: it changes nothing but the innermost, or it opens
one, or it closes one. -/
inductive Moves (progress next : Progress) : Prop
  | stays (hgroup : next.group.label? = progress.group.label?)
      (houter : next.outer = progress.outer)
  | opens (houter : next.outer = progress.group :: progress.outer)
  | closes (parent : Group) (houter : progress.outer = parent :: next.outer)
      (hgroup : next.group.label? = parent.label?)

theorem Moves.bottomLabel_eq {progress next : Progress} (h : Moves progress next) :
    next.bottomLabel = progress.bottomLabel := by
  obtain ⟨flags, names, counted, group, outer⟩ := progress
  obtain ⟨flags', names', counted', group', outer'⟩ := next
  cases h with
  | stays hgroup houter =>
      dsimp only at hgroup houter
      subst houter
      cases outer' with
      | nil => exact hgroup
      | cons => rfl
  | opens houter =>
      dsimp only at houter
      subst houter
      rfl
  | closes parent houter hgroup =>
      dsimp only at hgroup houter
      subst houter
      cases outer' with
      | nil => exact hgroup
      | cons => rfl

theorem moves_of_quantify? {progress next : Progress} {least : Nat} {most? : Option Nat}
    {reluctant : Bool} (h : progress.quantify? least most? reluctant = some next) :
    Moves progress next := by
  obtain ⟨group, hgroup, heq⟩ := Option.bind_eq_some_iff.1 h
  cases heq
  rw [Group.quantify?] at hgroup
  split at hgroup
  · cases hgroup
    exact .stays rfl rfl
  · cases hgroup

theorem moves_of_quantified {progress next : Progress} {least : Nat} {most? : Option Nat}
    {text left : List Char} (h : progress.quantified least most? text = some (next, left)) :
    Moves progress next := by
  obtain ⟨quantified, hquantify, heq⟩ := Option.bind_eq_some_iff.1 h
  cases heq
  exact moves_of_quantify? hquantify

theorem moves_of_openCounted? {progress next : Progress} {name? : Option String}
    (h : progress.openCounted? name? = some next) : Moves progress next := by
  rw [openCounted?] at h
  split at h
  · cases h
  · cases h
    exact .opens rfl

theorem moves_of_close? {progress next : Progress} (h : progress.close? = some next) :
    Moves progress next := by
  obtain ⟨flags, names, counted, group, outer⟩ := progress
  cases outer with
  | nil => cases h
  | cons parent outer =>
      cases h
      exact .closes parent rfl rfl

theorem moves_of_readStep {progress next : Progress} {text left : List Char}
    (hstep : readStep progress text = some (next, left)) : Moves progress next := by
  cases text with
  | nil => cases hstep
  | cons c text =>
      by_cases hc : c ∈ ['(', ')', '|', '?', '*', '+', '{']
      · simp only [List.mem_cons, List.not_mem_nil, or_false] at hc
        obtain rfl | rfl | rfl | rfl | rfl | rfl | rfl := hc
        · obtain ⟨⟨opening, more⟩, -, hopening⟩ := Option.bind_eq_some_iff.1 hstep
          cases opening with
          | setting =>
              cases hopening
              exact .stays rfl rfl
          | plain =>
              cases hopening
              exact .opens rfl
          | counted name? =>
              obtain ⟨opened, hopened, heq⟩ := Option.bind_eq_some_iff.1 hopening
              cases heq
              exact moves_of_openCounted? hopened
        · obtain ⟨closed, hclosed, heq⟩ := Option.bind_eq_some_iff.1 hstep
          cases heq
          exact moves_of_close? hclosed
        · cases hstep
          exact .stays rfl rfl
        · exact moves_of_quantified hstep
        · exact moves_of_quantified hstep
        · exact moves_of_quantified hstep
        · obtain ⟨bounds, -, hbounds⟩ := Option.bind_eq_some_iff.1 hstep
          exact moves_of_quantified hbounds
      · rw [readStep_primitive hc] at hstep
        obtain ⟨⟨part, more⟩, -, heq⟩ := Option.bind_eq_some_iff.1 hstep
        cases heq
        exact .stays rfl rfl

theorem quantify?_within (progress : Progress) (around : Group) (least : Nat) (most? : Option Nat)
    (reluctant : Bool) :
    (progress.within around).quantify? least most? reluctant
      = (progress.quantify? least most? reluctant).map (·.within around) := by
  rw [quantify?, quantify?, Option.bind_eq_bind, Option.map_bind]
  rfl

theorem quantified_within (progress : Progress) (around : Group) (least : Nat)
    (most? : Option Nat) (text : List Char) :
    (progress.within around).quantified least most? text
      = (progress.quantified least most? text).map (Prod.map (·.within around) id) := by
  simp only [quantified, quantify?_within, Option.bind_eq_bind, Option.map_bind, Option.bind_map]
  rfl

theorem openCounted?_within (progress : Progress) (around : Group) (name? : Option String) :
    (progress.within around).openCounted? name?
      = (progress.openCounted? name?).map (·.within around) := by
  rw [openCounted?, openCounted?, apply_ite (Option.map _)]
  rfl

theorem close?_within {progress : Progress} (houter : progress.outer ≠ []) (around : Group) :
    (progress.within around).close? = progress.close?.map (·.within around) := by
  obtain ⟨flags, names, counted, group, outer⟩ := progress
  cases outer with
  | nil => cases houter rfl
  | cons parent outer => rfl

/-- A step is the same inside another group, unless it closes that group, because none looks at the
groups that stay open. By the sign that is read. -/
theorem readStep_within {progress : Progress} {text : List Char}
    (hopen : text.head? = some ')' → progress.outer ≠ []) (around : Group) :
    readStep (progress.within around) text
      = (readStep progress text).map (Prod.map (·.within around) id) := by
  have hflags : (progress.within around).flags = progress.flags := rfl
  cases text with
  | nil => rfl
  | cons c text =>
      by_cases hc : c ∈ ['(', ')', '|', '?', '*', '+', '{']
      · simp only [List.mem_cons, List.not_mem_nil, or_false] at hc
        obtain rfl | rfl | rfl | rfl | rfl | rfl | rfl := hc
        · simp only [readStep, hflags]
          cases readGroupOpening progress.flags text with
          | none => rfl
          | some found =>
              obtain ⟨opening, left⟩ := found
              cases opening with
              | setting | plain => rfl
              | counted name? =>
                  simp only [Option.bind_eq_bind, Option.bind_some, openCounted?_within]
                  cases progress.openCounted? name? <;> rfl
        · simp only [readStep, Option.bind_eq_bind, close?_within (hopen rfl)]
          cases progress.close? <;> rfl
        · rfl
        · exact quantified_within progress around _ _ _
        · exact quantified_within progress around _ _ _
        · exact quantified_within progress around _ _ _
        · simp only [readStep, hflags]
          cases readBounds progress.flags text with
          | none => rfl
          | some bounds => exact quantified_within progress around _ _ _
      · rw [readStep_primitive hc, readStep_primitive hc, hflags]
        cases readPrimitive progress.flags (c :: text) <;> rfl

end Progress

/-! ### Whole texts -/

theorem readParts_end {fuel : Nat} {progress : Progress} {rest : List Char}
    (hrest : progress.flags.skip rest = []) :
    readParts (fuel + 1) progress rest
      = if progress.outer.isEmpty then some progress.group.content else none := by
  simp only [readParts, hrest]

theorem readParts_step {fuel : Nat} {progress : Progress} {rest : List Char}
    (hrest : progress.flags.skip rest ≠ []) :
    readParts (fuel + 1) progress rest
      = readStep progress (progress.flags.skip rest) >>= fun (next, left) =>
          readParts fuel next left := by
  have hsome : progress.flags.skip rest = [] → False := hrest
  simp only [readParts]

theorem readStep_unopened {progress : Progress} (houter : progress.outer = [])
    (rest : List Char) : readStep progress (')' :: rest) = none := by
  simp only [readStep, Progress.close?, houter]
  rfl

theorem readParts_closing {fuel : Nat} {progress : Progress} {closed : List Char}
    (hclosed : progress.flags.skip closed = [')']) (houter : progress.outer = [])
    (hlabel : progress.bottomLabel = none) (around : Group) :
    readParts (fuel + 2) (progress.within around) closed = some (around.push
      ⟨progress.group.content.pattern, progress.group.content.depth + 1⟩).content := by
  have hwithin : (progress.within around).flags.skip closed = [')'] := hclosed
  have hclose : progress.group.close
      = ⟨progress.group.content.pattern, progress.group.content.depth + 1⟩ := by
    simp only [Progress.bottomLabel, houter, List.getLast_singleton] at hlabel
    simp only [Group.close, hlabel]
  rw [readParts_step (by simp [hwithin]), hwithin]
  simp only [readStep, Progress.close?, Progress.within, houter, List.nil_append, hclose]
  exact readParts_end (Flags.skip_nil _)

theorem readStep_brace {progress : Progress} {inner : List Char}
    (hinner : progress.flags.skip inner = [')']) : readStep progress ('{' :: inner) = none := by
  have hcount : readCount progress.flags [')'] = none := by
    rw [readCount, List.dropWhile_cons, isWhiteSpace_parenthesis]
    rfl
  have hbounds : readBounds progress.flags inner = none := by
    rw [readBounds, hinner, hcount]
    rfl
  simp only [readStep, hbounds]
  rfl

/-- Nothing is read where a group stays open and no step follows. -/
theorem readParts_stuck {progress : Progress} {left : List Char}
    (hstuck : Stuck progress.flags left) (houter : progress.outer ≠ []) (fuel : Nat) :
    readParts fuel progress left = none := by
  cases fuel with
  | zero => rfl
  | succ fuel =>
      have hskip := hstuck.skip_eq
      cases hstuck with
      | nil => rw [readParts_end hskip, if_neg (by simpa using houter)]
      | brace hinner =>
          rw [readParts_step (by simp [hskip]), hskip, readStep_brace hinner]
          rfl

/-- Whether reading comes to a parenthesis that closes no group. -/
def overclosesFrom : Nat → Progress → List Char → Bool
  | 0, _, _ => false
  | fuel + 1, progress, rest =>
      match readStep progress (progress.flags.skip rest) with
      | some (next, left) => overclosesFrom fuel next left
      | none => progress.outer.isEmpty && (progress.flags.skip rest).head? == some ')'

/-- A text that is read to its end comes to no such parenthesis. -/
theorem overclosesFrom_eq_false {fuel : Nat} {progress : Progress} {rest : List Char}
    (hread : (readParts fuel progress rest).isSome) :
    overclosesFrom fuel progress rest = false := by
  induction fuel generalizing progress rest with
  | zero => rfl
  | succ fuel ih =>
      rw [overclosesFrom]
      by_cases hrest : progress.flags.skip rest = []
      · rw [hrest]
        simp [readStep, readPrimitive]
      · rw [readParts_step hrest] at hread
        cases hstep : readStep progress (progress.flags.skip rest) with
        | none =>
            rw [hstep] at hread
            cases hread
        | some found =>
            rw [hstep] at hread
            exact ih hread

/-- What is read from a text alone, with a closing parenthesis behind it, and with that parenthesis
inside a group. What is read from the text is read inside the group up to the parenthesis, and
without the group there is nothing to close. But where a comment has swallowed the parenthesis, it
is read as if there was none. Nothing else is read inside the group. -/
inductive Encloses (comments : Bool) (around : Group) :
    (alone behind inside : Option Part) → Prop
  | whole (part : Part) : Encloses comments around (some part) none
      (some (around.push ⟨part.pattern, part.depth + 1⟩).content)
  | swallowed (h : comments = true) (part : Part) :
      Encloses comments around (some part) (some part) none
  | broken (behind : Option Part) : Encloses comments around none behind none

/-- Inside another group, a parenthesis at the end closes only the innermost one. -/
theorem readParts_parenthesis {progress : Progress} {closed : List Char}
    (hclosed : progress.flags.skip closed = [')']) (houter : progress.outer ≠ []) (fuel : Nat)
    (around : Group) : readParts fuel (progress.within around) closed = none := by
  cases fuel with
  | zero => rfl
  | succ fuel =>
      have hwithin : (progress.within around).flags.skip closed = [')'] := hclosed
      rw [readParts_step (by simp [hwithin]), hwithin, Progress.readStep_within fun _ => houter]
      cases hstep : readStep progress [')'] with
      | none => rfl
      | some found =>
          obtain ⟨next, left⟩ := found
          obtain rfl := List.length_eq_zero_iff.1
            (Nat.le_zero.1 ((leaves_readStep progress [')']).length_le hstep))
          exact readParts_stuck .nil (by simp [Progress.within]) fuel

/-- By induction on the steps, which are the same inside the group. -/
theorem encloses {comments : Bool} {fuel fuel' fuel'' : Nat} {progress : Progress}
    {around : Group} {rest closed : List Char} (h : Closed comments rest closed)
    (hlabel : progress.bottomLabel = none) (hcloses : overclosesFrom fuel progress rest = false)
    (hrest : rest.length < fuel) (hfuel : fuel < fuel') (hfuel' : fuel < fuel'') :
    Encloses comments around (readParts fuel progress rest) (readParts fuel' progress closed)
      (readParts fuel'' (progress.within around) closed) := by
  induction fuel generalizing fuel' fuel'' progress rest closed with
  | zero => cases hrest
  | succ fuel ih =>
      obtain ⟨more, rfl⟩ := Nat.exists_eq_add_of_lt hfuel
      obtain ⟨more', rfl⟩ := Nat.exists_eq_add_of_lt hfuel'
      have hskip := length_skip_le progress.flags rest
      have hflags : (progress.within around).flags = progress.flags := rfl
      have hwithin : (progress.within around).outer.isEmpty = false := by simp [Progress.within]
      have hskipped := h.skip progress.flags
      generalize hleft : progress.flags.skip rest = text at hskipped hskip
      generalize hright : progress.flags.skip closed = text' at hskipped
      cases hskipped with
      | parenthesis =>
          rw [readParts_end hleft]
          by_cases houter : progress.outer = []
          · rw [if_pos (List.isEmpty_iff.2 houter), readParts_step (by simp [hright]), hright,
              readStep_unopened houter, Nat.add_right_comm fuel 1 more',
              readParts_closing hright houter hlabel around]
            exact .whole _
          · rw [if_neg (by simpa using houter), readParts_parenthesis hright houter]
            exact .broken _
      | swallowed hcomments =>
          rw [readParts_end hleft, readParts_end hright, readParts_end (hflags ▸ hright), hwithin]
          cases progress.outer.isEmpty with
          | true => exact .swallowed hcomments _
          | false => exact .broken _
      | @cons c text text' hc hnext =>
          rw [overclosesFrom, hleft] at hcloses
          have hopen : (c :: text').head? = some ')' → progress.outer ≠ [] := by
            rintro hhead houter
            cases hhead
            rw [readStep_unopened houter, houter] at hcloses
            cases hcloses
          have halike := Progress.readStep_alike hc hnext progress
          have hleaves := leaves_readStep progress (c :: text)
          rw [readParts_step (by simp [hleft]), readParts_step (by simp [hright]),
            readParts_step (by simp [hflags, hright]), hflags, hleft, hright,
            Progress.readStep_within hopen]
          generalize readStep progress (c :: text) = found? at halike hleaves hcloses ⊢
          generalize hstep : readStep progress (c :: text') = found?' at halike ⊢
          cases halike with
          | nothing => exact .broken _
          | @spent next left' hstuck =>
              show Encloses comments around none _ (readParts _ (next.within around) left')
              rw [@readParts_stuck (next.within around) left' hstuck (by simp [Progress.within])]
              exact .broken _
          | @found next left left' hnext =>
              have hle := hleaves.length_le rfl
              rw [List.length_cons] at hskip hle
              exact ih hnext
                ((Progress.moves_of_readStep hstep).bottomLabel_eq.trans hlabel) hcloses
                (by omega) (by omega) (by omega)

def part? (text : String) : Option Part := readParts (text.toList.length + 1) {} text.toList

theorem read?_eq_some_iff {text : String} {pattern : Pattern} :
    read? text = some pattern ↔
      ∃ part, part? text = some part ∧ (part.depth ≤ nestingLimit ∧ part.pattern.isBearable) ∧
        part.pattern = pattern := by
  simp [read?, part?, Option.bind_eq_some_iff, Option.ite_none_right_eq_some]

/-- Whether a text, read from its beginning, closes a group that it does not open. -/
def overcloses (text : String) : Bool :=
  overclosesFrom (text.toList.length + 1) {} text.toList

theorem overcloses_eq_false {text : String} {part : Part} (hread : part? text = some part) :
    overcloses text = false := overclosesFrom_eq_false (Option.isSome_of_eq_some hread)

def anchored (pattern : Pattern) : Pattern := concat [look .textStart, pattern]

def anchoredGroup : Group := ({} : Group).push ⟨look .textStart, 0⟩

/-- What is read between `^(?:` and a parenthesis, next to what is read from the text alone. -/
theorem encloses_anchored {text : String} (hcloses : overcloses text = false) :
    Encloses (decide ('#' ∈ text.toList)) anchoredGroup (part? text) (part? (text ++ ")"))
      (part? ("^(?:" ++ text ++ ")")) := by
  have hclosed : Closed (decide ('#' ∈ text.toList)) text.toList (text.toList ++ [')']) :=
    .of_append fun hmem => decide_eq_true hmem
  have hbehind : (text ++ ")").toList = text.toList ++ [')'] := String.toList_append
  have haround : ("^(?:" ++ text ++ ")").toList
      = '^' :: '(' :: '?' :: ':' :: (text.toList ++ [')']) := by
    rw [String.toList_append, String.toList_append]
    rfl
  have hopened : part? ("^(?:" ++ text ++ ")")
      = readParts (text.toList.length + 4) (Progress.within {} anchoredGroup)
          (text.toList ++ [')']) := by
    rw [part?, haround, List.length_cons, List.length_cons, List.length_cons, List.length_cons,
      List.length_append]
    rfl
  rw [hopened, part?, part?, hbehind]
  exact encloses hclosed rfl hcloses (Nat.lt_succ_self _) (by simp) (by omega)

theorem content_anchoredGroup (part : Part) :
    (anchoredGroup.push ⟨part.pattern, part.depth + 1⟩).content
      = ⟨part.pattern.anchored, part.depth + 2⟩ := by
  simp [anchoredGroup, anchored, Group.push, Group.content, Group.branch, Piece.pattern?,
    Piece.depth, depthOf]

/-- Where a text closes no group that it does not open, something is read between `^(?:` and a
parenthesis just if the text is a pattern and no comment swallows the parenthesis. -/
theorem part?_anchored_eq_some_iff {text : String} (hcloses : overcloses text = false)
    {anchored : Part} : part? ("^(?:" ++ text ++ ")") = some anchored ↔
      ∃ part, part? text = some part ∧ part? (text ++ ")") = none ∧
        ⟨part.pattern.anchored, part.depth + 2⟩ = anchored := by
  have hencloses := encloses_anchored hcloses
  generalize part? text = alone at hencloses ⊢
  generalize part? (text ++ ")") = behind at hencloses ⊢
  generalize part? ("^(?:" ++ text ++ ")") = inside at hencloses ⊢
  cases hencloses with
  | whole part => simp [content_anchoredGroup]
  | swallowed | broken => simp

/-- Only where a comment may begin, it may swallow the parenthesis. -/
theorem part?_behind_of_notMem {text : String} {part : Part} (hread : part? text = some part)
    (hcomment : '#' ∉ text.toList) : part? (text ++ ")") = none := by
  have hencloses := encloses_anchored (overcloses_eq_false hread)
  rw [hread] at hencloses
  generalize part? (text ++ ")") = behind at hencloses ⊢
  generalize part? ("^(?:" ++ text ++ ")") = inside at hencloses
  cases hencloses with
  | whole => rfl
  | swallowed h => exact absurd (of_decide_eq_true h) hcomment

end TokenGrammar.Pattern
