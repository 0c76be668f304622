import TokenGrammar.Outcome.Evaluate
import TokenGrammar.Proofs.Faults
import TokenGrammar.Proofs.Furthest
import TokenGrammar.Proofs.Holding
import TokenGrammar.Proofs.WellFormed
import Mathlib.Data.List.Induction

/-!
# Grouped readings

A part that is grouped by end has one candidate for each end, which lists the values of all readings
with that end. All complete readings have the same end, so they make up one group, and asking for
the single value of a grouped part is the same as asking for all values of the part. Nor does it
matter to the diagnostic that an end with many readings is looked at only once: a diagnostic that
was merged before is not merged again.
-/

namespace TokenGrammar

variable {α β : Type}

/-! ### Merging by end -/

theorem eraseDups_concat {ι : Type} [BEq ι] [LawfulBEq ι] (items : List ι) (item : ι) :
    (items ++ [item]).eraseDups =
      if item ∈ items then items.eraseDups else items.eraseDups ++ [item] := by
  rw [List.eraseDups_append]
  by_cases hmem : item ∈ items
  · simp [List.removeAll, hmem]
  · simp [List.removeAll, hmem, List.eraseDups_cons]

theorem nodup_eraseDups {ι : Type} [BEq ι] [LawfulBEq ι] (items : List ι) :
    items.eraseDups.Nodup := by
  induction items using List.reverseRecOn with
  | nil => exact List.nodup_nil
  | append_singleton items item ih =>
      rw [eraseDups_concat]
      split
      · exact ih
      · rename_i hnew
        refine List.nodup_append.2 ⟨ih, List.pairwise_singleton _ item, ?_⟩
        rintro other hother _ hitem rfl
        exact hnew (List.mem_singleton.1 hitem ▸ List.mem_eraseDups.1 hother)

namespace Diagnostic

variable {ι : Type} (found : ι → Option Diagnostic)

/-- Items that were met before have no part in the furthest diagnostic. -/
theorem furthestOf_eraseDups [BEq ι] [LawfulBEq ι] (items : List ι) :
    furthestOf found items.eraseDups = furthestOf found items := by
  induction items using List.reverseRecOn with
  | nil => rfl
  | append_singleton items item ih =>
      rw [eraseDups_concat, furthestOf_concat]
      split
      · rename_i hmem
        rw [furthest_furthestOf_of_mem found hmem, ih]
      · rw [furthestOf_concat, ih]

end Diagnostic

/-! ### Groups -/

def groupAt (candidates : List (Candidate α)) (start stop : Cursor) : Candidate (List α) :=
  ⟨start, stop, (candidates.filter (·.stop == stop)).map (·.value)⟩

theorem groupAt_concat_self (candidates : List (Candidate α)) (start : Cursor)
    (candidate : Candidate α) :
    groupAt (candidates ++ [candidate]) start candidate.stop
      = (groupAt candidates start candidate.stop).map (· ++ [candidate.value]) := by
  simp [groupAt, Candidate.map]

theorem groupAt_concat_of_ne (candidates : List (Candidate α)) (start : Cursor)
    {candidate : Candidate α} {stop : Cursor} (hne : stop ≠ candidate.stop) :
    groupAt (candidates ++ [candidate]) start stop = groupAt candidates start stop := by
  simp [groupAt, Ne.symm hne]

theorem groupAt_concat_of_not_mem {candidates : List (Candidate α)} {candidate : Candidate α}
    (hnew : candidate.stop ∉ candidates.map (·.stop)) :
    groupAt (candidates ++ [candidate]) candidate.start candidate.stop
      = candidate.map fun value => [value] := by
  have hnone : candidates.filter (·.stop == candidate.stop) = [] := by
    refine List.filter_eq_nil_iff.2 fun other hother heq => hnew ?_
    exact List.mem_map.2 ⟨other, hother, eq_of_beq heq⟩
  rw [groupAt_concat_self]
  simp [groupAt, hnone, Candidate.map]

section AddToGroup

variable (group : Cursor → Candidate (List α)) (hstop : ∀ stop, (group stop).stop = stop)

include hstop

theorem addToGroup_of_not_mem {stops : List Cursor} {candidate : Candidate α}
    (hnew : candidate.stop ∉ stops) :
    addToGroup candidate (stops.map group)
      = stops.map group ++ [candidate.map fun value => [value]] := by
  induction stops with
  | nil => rfl
  | cons stop stops ih =>
      have hne : (group stop).stop ≠ candidate.stop := by
        rw [hstop]
        exact fun heq => hnew (heq ▸ List.mem_cons_self)
      rw [List.map_cons, addToGroup, if_neg hne,
        ih fun hmem => hnew (List.mem_cons_of_mem _ hmem), List.cons_append]

theorem addToGroup_of_mem {stops : List Cursor} (hnodup : stops.Nodup) {candidate : Candidate α}
    (hmem : candidate.stop ∈ stops) :
    addToGroup candidate (stops.map group) = stops.map fun stop =>
      if stop = candidate.stop then (group stop).map (candidate.value :: ·) else group stop := by
  induction stops with
  | nil => cases hmem
  | cons stop stops ih =>
      obtain ⟨hfresh, hnodup⟩ := List.nodup_cons.1 hnodup
      rw [List.map_cons, List.map_cons, addToGroup, hstop]
      by_cases heq : stop = candidate.stop
      · rw [if_pos heq, if_pos heq]
        refine congrArg _ (List.map_congr_left fun other hother => (if_neg ?_).symm)
        rintro rfl
        exact hfresh (heq ▸ hother)
      · rw [if_neg heq, if_neg heq, ih hnodup]
        exact (List.mem_cons.1 hmem).resolve_left (Ne.symm heq)

end AddToGroup

/-- While groups grow, each holds the values of its end, latest first. -/
theorem foldl_addToGroup_eq {start : Cursor} {candidates : List (Candidate α)}
    (hstart : ∀ candidate ∈ candidates, candidate.start = start) :
    candidates.foldl (fun groups candidate => addToGroup candidate groups) []
      = (candidates.map (·.stop)).eraseDups.map fun stop =>
          (groupAt candidates start stop).map List.reverse := by
  induction candidates using List.reverseRecOn with
  | nil => rfl
  | append_singleton candidates candidate ih =>
      have hcandidate := hstart candidate (List.mem_append_right _ List.mem_cons_self)
      rw [List.foldl_append, ih fun other hother => hstart other (List.mem_append_left _ hother),
        List.foldl_cons, List.foldl_nil, List.map_append, List.map_singleton, eraseDups_concat]
      split
      · rename_i hmem
        rw [addToGroup_of_mem _ (fun stop => rfl) (nodup_eraseDups _) (List.mem_eraseDups.2 hmem)]
        refine List.map_congr_left fun stop _ => ?_
        split
        · rename_i heq
          subst heq
          rw [groupAt_concat_self]
          simp [Candidate.map]
        · rename_i hne
          rw [groupAt_concat_of_ne _ _ hne]
      · rename_i hnew
        rw [addToGroup_of_not_mem _ (fun stop => rfl) fun hmem => hnew (List.mem_eraseDups.1 hmem),
          List.map_append, List.map_singleton, ← hcandidate, groupAt_concat_of_not_mem hnew]
        refine congrArg (· ++ _) (List.map_congr_left fun stop hstop => ?_)
        rw [groupAt_concat_of_ne]
        rintro rfl
        exact hnew (List.mem_eraseDups.1 hstop)

/-- **There is one group for each end, in the order in which ends are first reached, and it lists
the values of the candidates with that end in their order.** -/
theorem groupByStop_eq {start : Cursor} {candidates : List (Candidate α)}
    (hstart : ∀ candidate ∈ candidates, candidate.start = start) :
    groupByStop candidates
      = (candidates.map (·.stop)).eraseDups.map (groupAt candidates start) := by
  rw [groupByStop, foldl_addToGroup_eq hstart, List.map_map]
  refine List.map_congr_left fun stop _ => ?_
  simp [Candidate.map]

/-! ### Complete readings -/

theorem Chain.Reaches.stop_eq {chain : Chain} {start stop : Cursor} (h : chain.Reaches start stop)
    (hsize : chain.size ≤ stop) : stop = max start chain.size := by
  rcases h.le_size with rfl | hstop
  · exact (Nat.max_eq_left hsize).symm
  · rw [Nat.max_eq_right (Nat.le_trans h.le hstop)]
    exact Nat.le_antisymm hstop hsize

/-- The diagnostic for a reading that stops at a cursor before the end. -/
def Chain.early? (chain : Chain) (stop : Cursor) : Option Diagnostic :=
  chain[stop]?.map Diagnostic.notAtEnd

namespace Outcome

variable {chain : Chain} {start : Cursor}

/-- Of the readings from a cursor, the complete ones are those with one certain end. -/
theorem isNone_early?_eq {stop : Cursor} (hreaches : chain.Reaches start stop) :
    (chain.early? stop).isNone = (stop == max start chain.size) := by
  rw [Bool.eq_iff_iff, Chain.early?, Option.isNone_map, Option.isNone_iff_eq_none,
    Array.getElem?_eq_none_iff, beq_iff_eq]
  exact ⟨hreaches.stop_eq, fun heq => heq ▸ Nat.le_max_right _ _⟩

theorem complete_success (candidates : List (Candidate α)) (carried? : Option Diagnostic) :
    (success candidates carried?).complete chain
      = settle chain chain.size
          (candidates.filter fun candidate => (chain.early? candidate.stop).isNone)
          (Diagnostic.furthest (Diagnostic.furthestOf chain.early? (candidates.map (·.stop)))
            carried?) := by
  rw [Diagnostic.furthestOf, List.foldl_map]
  rfl

variable {candidates : List (Candidate α)}
  (hreads : ∀ candidate ∈ candidates,
    candidate.start = start ∧ chain.Reaches start candidate.stop)

include hreads

theorem filter_complete_eq :
    candidates.filter (fun candidate => (chain.early? candidate.stop).isNone)
      = candidates.filter (·.stop == max start chain.size) :=
  List.filter_congr fun candidate hcandidate => isNone_early?_eq (hreads candidate hcandidate).2

theorem filter_groupByStop_eq :
    (groupByStop candidates).filter (fun candidate => (chain.early? candidate.stop).isNone)
      = if max start chain.size ∈ candidates.map (·.stop) then
          [groupAt candidates start (max start chain.size)]
        else [] := by
  have hstops : ∀ stop ∈ (candidates.map (·.stop)).eraseDups,
      (chain.early? stop).isNone = (stop == max start chain.size) := by
    intro stop hstop
    obtain ⟨candidate, hcandidate, rfl⟩ := List.mem_map.1 (List.mem_eraseDups.1 hstop)
    exact isNone_early?_eq (hreads candidate hcandidate).2
  have hcomplete : (candidates.map (·.stop)).eraseDups.filter
      ((fun candidate => (chain.early? candidate.stop).isNone) ∘ groupAt candidates start)
        = (candidates.map (·.stop)).eraseDups.filter (· == max start chain.size) :=
    List.filter_congr hstops
  rw [groupByStop_eq fun candidate hcandidate => (hreads candidate hcandidate).1, List.filter_map,
    hcomplete, List.filter_beq, (nodup_eraseDups _).count]
  simp only [List.mem_eraseDups]
  split <;> rfl

/-- **The single value of the complete readings, grouped, is the list of their values.** -/
theorem single_complete_groupByStop (carried? : Option Diagnostic) :
    ((success (groupByStop candidates) carried?).complete chain).single
      = ((success candidates carried?).complete chain).values := by
  have hstops : Diagnostic.furthestOf chain.early? ((groupByStop candidates).map (·.stop))
      = Diagnostic.furthestOf chain.early? (candidates.map (·.stop)) := by
    rw [groupByStop_eq fun candidate hcandidate => (hreads candidate hcandidate).1, List.map_map]
    refine Eq.trans ?_ (Diagnostic.furthestOf_eraseDups _ _)
    exact congrArg _ (List.map_id _)
  rw [complete_success, complete_success, hstops, filter_groupByStop_eq hreads,
    filter_complete_eq hreads]
  by_cases hcomplete : max start chain.size ∈ candidates.map (·.stop)
  · rw [if_pos hcomplete]
    obtain ⟨candidate, hcandidate, hstop⟩ := List.mem_map.1 hcomplete
    have hmem : candidate ∈ candidates.filter (·.stop == max start chain.size) :=
      List.mem_filter.2 ⟨hcandidate, beq_iff_eq.2 hstop⟩
    have hnonempty := List.ne_nil_of_mem hmem
    rw [settle, settle, if_neg (by simp), if_neg (by simpa using hnonempty)]
    rfl
  · rw [if_neg hcomplete]
    have hnone : candidates.filter (·.stop == max start chain.size) = [] := by
      refine List.filter_eq_nil_iff.2 fun candidate hcandidate heq => hcomplete ?_
      exact List.mem_map.2 ⟨candidate, hcandidate, eq_of_beq heq⟩
    rw [hnone]
    rfl

end Outcome

/-! ### Grouped grammars -/

namespace Outcome

theorem complete_map (f : α → β) (chain : Chain) (outcome : Outcome α) :
    (outcome.map f).complete chain = (outcome.complete chain).map f := by
  cases outcome with
  | failure diagnostic => rfl
  | success candidates carried? =>
      show (success (candidates.map (·.map f)) carried?).complete chain = _
      rw [complete_success, complete_success, List.map_map, List.filter_map, map_settle]
      rfl

theorem single_map (f : α → β) (outcome : Outcome α) :
    (outcome.map f).single = outcome.single.map f := by
  match outcome with
  | .failure _ => rfl
  | .success [] _ => rfl
  | .success [_] _ => rfl
  | .success (_ :: _ :: _) _ => simp [map, mapCandidates, single, Except.map]

end Outcome

namespace Grammar

theorem parseWithin_grouped {root : Grammar} {depth : Nat} {held : List Grammar} {chain : Chain}
    {start : Cursor} {workspace after : Workspace} {outcome : Outcome Value}
    (hrun : root.parseWithin depth held chain start workspace = .ok outcome after) :
    (Grammar.unary .grouped root).parseWithin depth held chain start workspace
      = .ok ((outcome.mapCandidates groupByStop).map .list) after := by
  cases depth with
  | zero => cases hrun
  | succ depth =>
      have hgrouped : (root.parser (parseWithin depth) held).grouped chain start workspace
          = .ok (outcome.mapCandidates groupByStop) after := Run.bind_of_ok hrun
      exact Run.bind_of_ok hgrouped

/-- **The single value of a grouped grammar lists the values of all complete readings**, or it is
missing for the diagnostic of the grammar itself; it is never one of many, nor is there no result.
The grammars that are held may be others, as long as they keep the same. -/
theorem single_complete_grouped {root : Grammar} {depth : Nat} {held held' : List Grammar}
    {chain : Chain} {start : Cursor} {workspace after : Workspace} {outcome : Outcome Value}
    (hheld : KeepAlike held held')
    (hrun : root.parseWithin depth held chain start workspace = .ok outcome after) :
    ∃ grouped,
      (Grammar.unary .grouped root).parseWithin depth held' chain start workspace
        = .ok grouped after ∧
      (grouped.complete chain).single = (outcome.complete chain).values.map .list ∧
      (grouped.complete chain).single ≠ .error .noResult ∧
      ∀ count, (grouped.complete chain).single ≠ .error (.ambiguous count) := by
  have hsingle : (((outcome.mapCandidates groupByStop).map .list).complete chain).single
      = (outcome.complete chain).values.map Value.list := by
    rw [Outcome.complete_map, Outcome.single_map]
    have hreads := reaches_of_parseWithin hrun
    cases outcome with
    | failure diagnostic => rfl
    | success candidates carried? =>
        exact congrArg _ (Outcome.single_complete_groupByStop hreads carried?)
  refine ⟨_, ?_, hsingle, ?_⟩
  · rw [← hheld.parseWithin_eq]
    exact parseWithin_grouped hrun
  · rw [hsingle]
    cases outcome.complete chain with
    | failure diagnostic => exact ⟨nofun, nofun⟩
    | success candidates carried? => exact ⟨nofun, nofun⟩

/-- A letter that is read as a token and as its text, or not at all: grouped, the single value lists
the token and the text. -/
theorem single_complete_grouped_letter :
    ∃ (chain : Chain) (workspace after : Workspace) (letter : Grammar) (outcome : Outcome Value)
      (token : Value),
      letter.parseWithin 1 [letter] chain 0 workspace = .ok outcome after ∧
        outcome.candidates.length = 3 ∧
        ∃ grouped, (Grammar.unary .grouped letter).parseWithin 1 [.unary .grouped letter] chain 0
            workspace = .ok grouped after ∧
          (grouped.complete chain).single = .ok (.list [token, .text "a"]) := by
  let token : Token := ⟨"letter", "a", ⟨0, 1, 1, 1, 2⟩⟩
  let letter : Grammar := .binary .either (.leaf (.literal "a"))
    (.binary .either (.leaf .nothing) (.unary (.mapped .shown) (.leaf (.literal "a"))))
  have hrun : letter.parseWithin 1 [letter] #[token] 0 {} =
      .ok (.success [⟨0, 1, .token ⟨0, token⟩⟩, ⟨0, 0, .unit⟩, ⟨0, 1, .text "a"⟩] none) {} := rfl
  have hheld : KeepAlike [letter] [.unary .grouped letter] := (KeepAlike.refl []).cons rfl
  obtain ⟨grouped, hgrouped, hsingle, -⟩ := single_complete_grouped hheld hrun
  exact ⟨#[token], {}, {}, letter, _, .token ⟨0, token⟩, hrun, rfl, grouped, hgrouped, hsingle⟩

end Grammar

end TokenGrammar
