import TokenGrammar.Proofs.Grouping
import TokenGrammar.Proofs.Indices
import TokenGrammar.Proofs.Repetition.Longest
import Mathlib.Algebra.BigOperators.Group.List.Lemmas

/-!
# Division by end

A grouped grammar divides the candidates of its part by their ends. Every end has one group, the
groups stand in the order in which the ends are first reached, and a group lists the values of all
candidates with its end, so none is lost and none is listed twice. It makes no difference that the
groups are found by an index from ends to places. What the part could not read, or met on the way,
stays as it is.
-/

namespace TokenGrammar

variable {α : Type}

/-! ### Items without repetitions -/

section Items

variable {ι : Type} [BEq ι] [LawfulBEq ι]

theorem pairwise_idxOf_eraseDups (items : List ι) :
    items.eraseDups.Pairwise fun item later => items.idxOf item < items.idxOf later := by
  induction items using List.reverseRecOn with
  | nil => exact .nil
  | append_singleton items item ih =>
      have hbefore : items.eraseDups.Pairwise fun first later =>
          (items ++ [item]).idxOf first < (items ++ [item]).idxOf later := by
        apply ih.imp_of_mem
        intro first later hfirst hlater hlt
        rw [List.idxOf_append_of_mem (List.mem_eraseDups.1 hfirst),
          List.idxOf_append_of_mem (List.mem_eraseDups.1 hlater)]
        exact hlt
      rw [eraseDups_concat]
      split
      · exact hbefore
      · rename_i hnew
        apply List.pairwise_append.2
        refine ⟨hbefore, List.pairwise_singleton _ item, ?_⟩
        intro first hfirst last hlast
        have hmem := List.mem_eraseDups.1 hfirst
        rw [List.mem_singleton.1 hlast, List.idxOf_append_of_mem hmem,
          List.idxOf_append_of_notMem hnew]
        exact Nat.lt_add_right _ (List.idxOf_lt_length_of_mem hmem)

/-- Every item is counted once, with its first occurrence. -/
theorem sum_count_eraseDups {ι : Type} [DecidableEq ι] (items : List ι) :
    (items.eraseDups.map fun item => items.count item).sum = items.length := by
  have hperm : items.eraseDups.Perm items.dedup := by
    apply (List.perm_ext_iff_of_nodup (nodup_eraseDups items) (List.nodup_dedup items)).2
    intro item
    rw [List.mem_eraseDups, List.mem_dedup]
  rw [(hperm.map _).sum_eq, List.sum_map_count_dedup_eq_length]

end Items

/-! ### Groups -/

/-- That groups divide candidates by their ends. -/
structure DividesByStop (candidates : List (Candidate α)) (groups : List (Candidate (List α))) :
    Prop where
  /-- An end has a group if a candidate ends there. -/
  mem_stops_iff : ∀ stop, stop ∈ groups.map (·.stop) ↔ stop ∈ candidates.map (·.stop)
  /-- No two groups have the same end. -/
  nodup_stops : (groups.map (·.stop)).Nodup
  /-- The ends stand in the order in which candidates first reach them. -/
  firstReached : groups.Pairwise fun group later =>
    (candidates.map (·.stop)).idxOf group.stop < (candidates.map (·.stop)).idxOf later.stop
  /-- A group lists the values of the candidates with its end, in their order. -/
  value_eq : ∀ group ∈ groups,
    group.value = (candidates.filter (·.stop == group.stop)).map (·.value)
  /-- Together the groups are as long as the list of candidates. -/
  sum_length : (groups.map (·.value.length)).sum = candidates.length

theorem map_stop_groupAt (candidates : List (Candidate α)) (start : Cursor) (stops : List Cursor) :
    (stops.map (groupAt candidates start)).map (·.stop) = stops := by
  rw [List.map_map]
  exact List.map_id stops

theorem length_value_groupAt (candidates : List (Candidate α)) (start stop : Cursor) :
    (groupAt candidates start stop).value.length = (candidates.map (·.stop)).count stop := by
  rw [groupAt, List.length_map, List.count, List.countP_map, List.countP_eq_length_filter]
  rfl

/-- **Grouping divides the candidates by their ends.** -/
theorem dividesByStop_groupByStop {start : Cursor} {candidates : List (Candidate α)}
    (hstart : ∀ candidate ∈ candidates, candidate.start = start) :
    DividesByStop candidates (groupByStop candidates) := by
  rw [groupByStop_eq hstart]
  constructor
  case mem_stops_iff =>
    intro stop
    rw [map_stop_groupAt, List.mem_eraseDups]
  case nodup_stops =>
    rw [map_stop_groupAt]
    exact nodup_eraseDups _
  case firstReached =>
    apply List.pairwise_map.2
    exact pairwise_idxOf_eraseDups (candidates.map (·.stop))
  case value_eq =>
    intro group hgroup
    obtain ⟨stop, _, rfl⟩ := List.mem_map.1 hgroup
    rfl
  case sum_length =>
    have hlengths : ((candidates.map (·.stop)).eraseDups.map (groupAt candidates start)).map
        (·.value.length)
          = (candidates.map (·.stop)).eraseDups.map fun stop =>
              (candidates.map (·.stop)).count stop := by
      rw [List.map_map]
      exact List.map_congr_left fun stop _ => length_value_groupAt candidates start stop
    rw [hlengths, sum_count_eraseDups, List.length_map]

/-! ### Grouped grammars -/

namespace Outcome

/-- That an outcome is another one with its candidates divided by their ends. -/
inductive DividedInto (chain : Chain) : Outcome Value → Outcome Value → Prop where
  | failure (diagnostic : Diagnostic) :
      DividedInto chain (.failure diagnostic) (.failure diagnostic)
  | success {candidates : List (Candidate Value)} {groups : List (Candidate (List Value))}
      (carried? : Option Diagnostic) (hdivides : DividesByStop candidates groups)
      /- Whatever lies beyond the last token is one end. -/
      (hend : ∀ group ∈ groups, ∀ group' ∈ groups,
        chain.size ≤ group.stop → chain.size ≤ group'.stop → group = group')
      /- The groups are those that an index from ends to places finds, always within its range. -/
      (hindexed : IndexedGroups.ofCandidates? candidates = some groups) :
      DividedInto chain (.success candidates carried?)
        (.success (groups.map (·.map .list)) carried?)

end Outcome

namespace Grammar

/-- A grouped grammar does what its part does, and then groups the candidates. -/
theorem parseWithin_grouped_eq (root : Grammar) (depth : Nat) (held : List Grammar) (chain : Chain)
    (start : Cursor) :
    (Grammar.unary .grouped root).parseWithin depth held chain start
      = (fun outcome => (outcome.mapCandidates groupByStop).map Value.list) <$>
          root.parseWithin depth held chain start := by
  cases depth with
  | zero => rfl
  | succ depth =>
      show ((root.parser (parseWithin depth) held).grouped.map Value.list) chain start = _
      simp only [Parser.map, Parser.grouped, map_eq_pure_bind, bind_assoc, pure_bind]
      rfl

theorem eq_of_size_le_stop {chain : Chain} {start : Cursor} {candidates : List (Candidate α)}
    {groups : List (Candidate (List α))} (hdivides : DividesByStop candidates groups)
    (hreaches : ∀ candidate ∈ candidates, chain.Reaches start candidate.stop)
    {group group' : Candidate (List α)} (hgroup : group ∈ groups) (hgroup' : group' ∈ groups)
    (hsize : chain.size ≤ group.stop) (hsize' : chain.size ≤ group'.stop) : group = group' := by
  have hstop {image : Candidate (List α)} (himage : image ∈ groups)
      (hsize : chain.size ≤ image.stop) : image.stop = max start chain.size := by
    have hmem := (hdivides.mem_stops_iff image.stop).1 (List.mem_map_of_mem himage)
    obtain ⟨candidate, hcandidate, heq⟩ := List.mem_map.1 hmem
    have hcandidate := hreaches candidate hcandidate
    rw [heq] at hcandidate
    exact hcandidate.stop_eq hsize
  apply List.inj_on_of_nodup_map hdivides.nodup_stops hgroup hgroup'
  rw [hstop hgroup hsize, hstop hgroup' hsize']

/-- **A grouped grammar divides the candidates of its part by their ends, and loses none.** It ends
as its part does: it meets the same fault, or fails with the same diagnostic, or carries the same
diagnostic and has one candidate for each end, in the order in which the ends are first reached,
with the values of all candidates of the part that end there. The grammars that are held may be
others, as long as they keep the same. -/
theorem grouped_divides (root : Grammar) (depth : Nat) {held held' : List Grammar}
    (hheld : KeepAlike held held') (chain : Chain) (start : Cursor) (before : Workspace) :
    Run.EndAlike (fun outcome grouped _ => outcome.DividedInto chain grouped)
      (root.parseWithin depth held chain start before)
      ((Grammar.unary .grouped root).parseWithin depth held' chain start before) := by
  rw [← hheld.parseWithin_eq, parseWithin_grouped_eq,
    ← id_map (root.parseWithin depth held chain start), ← comp_map]
  apply Run.endAlike_map
  intro outcome after hrun
  cases outcome with
  | failure diagnostic => exact .failure diagnostic
  | success candidates carried? =>
      have hreads := reaches_of_parseWithin hrun
      have hdivides := dividesByStop_groupByStop fun candidate hmem => (hreads candidate hmem).1
      apply Outcome.DividedInto.success carried? hdivides
      · intro group hgroup group' hgroup'
        exact eq_of_size_le_stop hdivides (fun candidate hmem => (hreads candidate hmem).2)
          hgroup hgroup'
      · exact IndexedGroups.ofCandidates?_eq candidates

/-- One letter, two letters, and one letter again: the first and the last of these readings share
their end, although the tokens at the two ends are alike. -/
theorem grouped_divides_letters :
    ∃ (chain : Chain) (letters : Grammar) (outcome grouped : Outcome Value),
      letters.parseWithin 1 [letters] chain 0 {} = .ok outcome {} ∧
        (Grammar.unary .grouped letters).parseWithin 1 [.unary .grouped letters] chain 0 {}
          = .ok grouped {} ∧
        outcome.candidates.map (fun reading => (reading.stop, reading.value.shown))
          = [(1, "a"), (2, "(a a)"), (1, "a")] ∧
        grouped.candidates.map (fun group => (group.stop, group.value.shown))
          = [(1, "[a, a]"), (2, "[(a a)]")] ∧
        outcome.DividedInto chain grouped := by
  let token : Token := ⟨"letter", "a", ⟨0, 1, 1, 1, 2⟩⟩
  let chain : Chain := #[token, token, token]
  let letter : Grammar := .leaf (.literal "a")
  let letters : Grammar := .binary .either letter
    (.binary .either (.binary .seq letter letter) (.unary (.mapped .identity) letter))
  have hheld : KeepAlike [letters] [.unary .grouped letters] := (KeepAlike.refl []).cons rfl
  obtain ⟨outcome, hrun, hreadings⟩ : ∃ outcome,
      letters.parseWithin 1 [letters] chain 0 {} = .ok outcome {} ∧
        outcome.candidates.map (fun reading => (reading.stop, reading.value.shown))
          = [(1, "a"), (2, "(a a)"), (1, "a")] := ⟨_, rfl, rfl⟩
  obtain ⟨grouped, hgrouped, hgroups⟩ : ∃ grouped,
      (Grammar.unary .grouped letters).parseWithin 1 [.unary .grouped letters] chain 0 {}
        = .ok grouped {} ∧
        grouped.candidates.map (fun group => (group.stop, group.value.shown))
          = [(1, "[a, a]"), (2, "[(a a)]")] := ⟨_, rfl, rfl⟩
  have halike := grouped_divides letters 1 hheld chain 0 {}
  rw [hrun, hgrouped] at halike
  cases halike with
  | ok hdivided => exact ⟨chain, letters, outcome, grouped, hrun, hgrouped, hreadings, hgroups,
      hdivided⟩

end Grammar

end TokenGrammar
