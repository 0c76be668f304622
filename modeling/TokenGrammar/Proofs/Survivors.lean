import TokenGrammar.Workspace.Ownership

/-!
# What survives

Striking out what nothing keeps, as often as there are things, leaves the largest set whose members
are all kept by a root or by a member. So something is alive if and only if it belongs to some such
set, and to show that it is alive one set is enough.
-/

namespace TokenGrammar

namespace Workspace

/-- That every member of a set is there, and is kept by a root or by a member. -/
def Supports (workspace : Workspace) (held : List Grammar) (alive : Keepable → Prop) : Prop :=
  ∀ keepable, alive keepable → keepable ∈ workspace.keepables ∧
    (workspace.isRoot held keepable ∨
      ∃ keeper, alive keeper ∧ keepable ∈ workspace.keptBy keeper)

variable {workspace : Workspace} {held : List Grammar}

/-- Nothing that belongs to a supported set is ever struck out. -/
theorem Supports.mem_survivors {alive : Keepable → Prop} (h : workspace.Supports held alive)
    (rounds : Nat) {candidates : List Keepable}
    (hcandidates : ∀ keepable, alive keepable → keepable ∈ candidates) :
    ∀ keepable, alive keepable → keepable ∈ workspace.survivors held rounds candidates := by
  induction rounds generalizing candidates with
  | zero => exact hcandidates
  | succ rounds ih =>
      rw [survivors]
      split
      · exact hcandidates
      · refine ih fun keepable halive => List.mem_filter.2 ⟨hcandidates keepable halive, ?_⟩
        rw [Bool.or_eq_true, List.contains_iff_mem]
        obtain ⟨-, hroot | ⟨keeper, hkeeper, hkept⟩⟩ := h keepable halive
        · exact .inr hroot
        · exact .inl (List.mem_flatMap.2 ⟨keeper, hcandidates keeper hkeeper, hkept⟩)

theorem kept_of_mem_survivors {rounds : Nat} {candidates : List Keepable}
    (hrounds : candidates.length ≤ rounds) :
    ∀ keepable ∈ workspace.survivors held rounds candidates, keepable ∈ candidates ∧
      (workspace.isRoot held keepable ∨ ∃ keeper ∈ workspace.survivors held rounds candidates,
        keepable ∈ workspace.keptBy keeper) := by
  induction rounds generalizing candidates with
  | zero =>
      rw [List.length_eq_zero_iff.1 (Nat.le_zero.1 hrounds)]
      exact fun _ hmem => nomatch hmem
  | succ rounds ih =>
      rw [survivors]
      split
      · rename_i hlength
        intro keepable hmem
        -- nothing was struck out in this round
        have hkept := List.length_filter_eq_length_iff.1 hlength keepable hmem
        rw [Bool.or_eq_true, List.contains_iff_mem] at hkept
        exact ⟨hmem, hkept.symm.imp_right List.mem_flatMap.1⟩
      · rename_i hlength
        intro keepable hmem
        have hlt := Nat.lt_of_le_of_ne (List.length_filter_le _ candidates) hlength
        obtain ⟨hkept, hkeeper⟩ := ih (by omega) keepable hmem
        exact ⟨(List.mem_filter.1 hkept).1, hkeeper⟩

/-- **What is alive is a root or belongs to a set that supports itself.** -/
theorem isAlive_iff {keepable : Keepable} : workspace.isAlive held keepable ↔
    workspace.isRoot held keepable ∨ ∃ alive, workspace.Supports held alive ∧ alive keepable := by
  rw [isAlive, Bool.or_eq_true, List.contains_iff_mem]
  refine or_congr_right ⟨fun hmem => ?_, fun ⟨alive, hsupports, halive⟩ => ?_⟩
  · exact ⟨_, fun keepable hmem => kept_of_mem_survivors (Nat.le_refl _) keepable hmem, hmem⟩
  · exact hsupports.mem_survivors _ (fun other hother => (hsupports other hother).1) _ halive

/-- What is alive depends on what there is, and on what keeps what. -/
theorem isAlive_congr {workspace' : Workspace} {held' : List Grammar}
    (hkeepables : workspace'.keepables = workspace.keepables)
    (hkept : ∀ keepable, workspace'.keptBy keepable = workspace.keptBy keepable)
    (hroots : ∀ keepable, workspace'.isRoot held' keepable = workspace.isRoot held keepable)
    (keepable : Keepable) :
    workspace'.isAlive held' keepable = workspace.isAlive held keepable := by
  have hsurvivors : ∀ rounds candidates,
      workspace'.survivors held' rounds candidates
        = workspace.survivors held rounds candidates := by
    intro rounds
    induction rounds with
    | zero => exact fun candidates => rfl
    | succ rounds ih =>
        intro candidates
        simp only [survivors, ih, hroots, funext hkept]
  rw [isAlive, hroots, hkeepables, hsurvivors, isAlive]

theorem isAlive_clearJournal (workspace : Workspace) (held : List Grammar) (keepable : Keepable) :
    workspace.clearJournal.isAlive held keepable = workspace.isAlive held keepable := by
  refine isAlive_congr ?_ (fun _ => ?_) (fun _ => ?_) keepable
  all_goals rfl

/-! ### What keeps something -/

theorem mem_keptBy_slot {place : Nat} {keepable : Keepable} :
    keepable ∈ workspace.keptBy (.slot place) ↔
      ∃ pattern, workspace.pattern? place = some pattern ∧ keepable ∈ pattern.keeps := by
  rw [keptBy]
  cases workspace.pattern? place <;> simp

theorem mem_keptBy_cell {place : Nat} {keepable : Keepable} :
    keepable ∈ workspace.keptBy (.cell place) ↔
      ∃ built, workspace.cellContent? place = some built ∧ keepable ∈ built.keeps := by
  rw [keptBy]
  cases workspace.cellContent? place <;> simp

theorem productionContent?_eq (workspace : Workspace) (place index : Nat) :
    workspace.productionContent? place index
      = ((workspace.modules[place]?).bind (·.cache?)).bind fun cache => (cache[index]?).join := by
  rw [productionContent?]
  cases workspace.modules[place]? <;> rfl

theorem mem_keptBy_module {place : Nat} {keepable : Keepable} :
    keepable ∈ workspace.keptBy (.module place) ↔ ∃ index built,
      workspace.productionContent? place index = some built ∧ keepable ∈ built.keeps := by
  rw [keptBy]
  simp only [productionContent?_eq]
  cases (workspace.modules[place]?).bind (·.cache?) with
  | none => simp
  | some cache =>
      simp only [List.mem_flatMap, Option.bind_some]
      constructor
      · rintro ⟨built?, hmem, hkeeps⟩
        cases built? with
        | none => cases hkeeps
        | some built =>
            obtain ⟨index, hindex⟩ := Array.mem_iff_getElem?.1 (Array.mem_toList_iff.1 hmem)
            exact ⟨index, built, by rw [hindex]; rfl, hkeeps⟩
      · rintro ⟨index, built, hbuilt, hkeeps⟩
        have hindex := Option.join_eq_some_iff.1 hbuilt
        exact ⟨some built, Array.mem_toList_iff.2 (Array.mem_of_getElem? hindex), hkeeps⟩

end Workspace

end TokenGrammar
