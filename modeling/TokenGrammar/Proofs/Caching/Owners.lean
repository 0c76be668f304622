import TokenGrammar.Proofs.Survivors
import TokenGrammar.Proofs.Caching.Worlds

/-!
# Caches keep nothing alive

What a cell or a module keeps of its own was built under names that are still bound, so whatever it
links to is kept by those names as well. Rules and modules are therefore alive in a workspace if and
only if they are alive in its mirror image, and a handle or a reference leads as far in one of them
as in the other.
-/

namespace TokenGrammar

namespace Workspace

/-- Whether two lists of grammars that are being parsed have the same roots, but for cells. -/
def SameRoots (workspace : Workspace) (held held' : List Grammar) : Prop :=
  ∀ keepable : Keepable, keepable.isCell = false →
    workspace.isRoot held keepable = workspace.isRoot held' keepable

/-- A supported set of rules and modules stays one in a workspace where each of them is kept by a
root or by what kept it before. -/
theorem isAlive_of_isAlive {workspace workspace' : Workspace} {held held' : List Grammar}
    (hkeepables : ∀ keepable : Keepable, keepable.isCell = false →
      keepable ∈ workspace.keepables → keepable ∈ workspace'.keepables)
    (hroots : ∀ keepable : Keepable, keepable.isCell = false →
      workspace.isRoot held keepable → workspace'.isRoot held' keepable)
    (hkept : ∀ keepable keeper : Keepable, keepable.isCell = false →
      keepable ∈ workspace.keptBy keeper → workspace'.isRoot held' keepable ∨
        keeper.isCell = false ∧ keepable ∈ workspace'.keptBy keeper)
    {keepable : Keepable} (hcell : keepable.isCell = false)
    (halive : workspace.isAlive held keepable) : workspace'.isAlive held' keepable := by
  rw [isAlive_iff] at halive ⊢
  refine halive.imp (hroots keepable hcell) fun ⟨alive, hsupports, halive⟩ => ?_
  refine ⟨fun other => other.isCell = false ∧ alive other, ?_, hcell, halive⟩
  rintro other ⟨hother, halive⟩
  obtain ⟨hmem, hsupport⟩ := hsupports other halive
  refine ⟨hkeepables other hother hmem, ?_⟩
  rcases hsupport with hroot | ⟨keeper, hkeeper, hkeeps⟩
  · exact .inl (hroots other hother hroot)
  · refine (hkept other keeper hother hkeeps).imp_right ?_
    rintro ⟨hsolid, hkeeps⟩
    exact ⟨keeper, ⟨hsolid, hkeeper⟩, hkeeps⟩

namespace Mirrors

variable {image? : Nat → Option Nat} {plain cached : Workspace} {keepable : Keepable}

theorem isKeptByName (h : Mirrors image? plain cached) (hcell : keepable.isCell = false) :
    plain.isKeptByName keepable = cached.isKeptByName keepable := by
  have hkeeps : ∀ grammar grammar' : Grammar, grammar.Mirrors image? cached.body? grammar' →
      grammar.keeps.contains keepable = grammar'.keeps.contains keepable := by
    intro grammar grammar' hmirrors
    rw [Bool.eq_iff_iff, List.contains_iff_mem, List.contains_iff_mem]
    exact hmirrors.mem_keeps hcell
  rw [Workspace.isKeptByName, h.rules, h.moduleNames, h.parsers.any hkeeps, Workspace.isKeptByName]

theorem isRoot (h : Mirrors image? plain cached) (hcell : keepable.isCell = false)
    (held : List Grammar) : plain.isRoot held keepable = cached.isRoot held keepable := by
  rw [Workspace.isRoot, h.isKeptByName hcell, Workspace.isRoot]

theorem isRoot_of_isKeptByName {workspace : Workspace} (h : workspace.isKeptByName keepable)
    (held : List Grammar) : workspace.isRoot held keepable := by
  rw [Workspace.isRoot, h, Bool.or_true]

theorem mem_keepables (h : Mirrors image? plain cached) (hcell : keepable.isCell = false) :
    keepable ∈ plain.keepables ↔ keepable ∈ cached.keepables := by
  cases keepable with
  | cell place => cases hcell
  | slot place => simp [keepables, h.slots_size]
  | module place =>
      have hsome := isSome_of_rel (h.productions place)
      rw [productions?, productions?, Option.isSome_map, Option.isSome_map, Bool.eq_iff_iff]
        at hsome
      simp only [Option.isSome_iff_ne_none, ne_eq, Array.getElem?_eq_none_iff, Nat.not_le] at hsome
      simpa [keepables] using hsome

/-- What keeps a rule or a module in the plainer workspace keeps it in the other one, unless a name
does anyway. -/
theorem keptBy_cached (h : Mirrors image? plain cached) (hcell : keepable.isCell = false)
    {keeper : Keepable} (hkeeps : keepable ∈ plain.keptBy keeper) :
    cached.isKeptByName keepable ∨ keeper.isCell = false ∧ keepable ∈ cached.keptBy keeper := by
  cases keeper with
  | slot place =>
      obtain ⟨pattern, hpattern, hkeeps⟩ := mem_keptBy_slot.1 hkeeps
      have hrel := h.patterns place
      rw [hpattern] at hrel
      obtain ⟨pattern', hpattern', hmirrors⟩ := exists_of_rel_some hrel
      exact .inr ⟨rfl, mem_keptBy_slot.2 ⟨pattern', hpattern', (hmirrors.mem_keeps hcell).1 hkeeps⟩⟩
  | cell place =>
      obtain ⟨built, hbuilt, hkeeps⟩ := mem_keptBy_cell.1 hkeeps
      obtain ⟨place', built', -, hbuilt', hmirrors⟩ := h.cells place built hbuilt
      obtain ⟨body, -, hmade⟩ := h.madeCells place' built' hbuilt'
      exact .inl (hmade.isKeptByName hcell ((hmirrors.mem_keeps hcell).1 hkeeps))
  | module place =>
      obtain ⟨index, built, hbuilt, hkeeps⟩ := mem_keptBy_module.1 hkeeps
      obtain ⟨built', hbuilt', hmirrors⟩ := h.contents place index built hbuilt
      exact .inr ⟨rfl, mem_keptBy_module.2
        ⟨index, built', hbuilt', (hmirrors.mem_keeps hcell).1 hkeeps⟩⟩

/-- Conversely, the cached workspace keeps rules and modules by nothing but names and patterns. -/
theorem keptBy_plain (h : Mirrors image? plain cached) (hcell : keepable.isCell = false)
    {keeper : Keepable} (hkeeps : keepable ∈ cached.keptBy keeper) :
    cached.isKeptByName keepable ∨ keeper.isCell = false ∧ keepable ∈ plain.keptBy keeper := by
  cases keeper with
  | slot place =>
      obtain ⟨pattern', hpattern', hkeeps⟩ := mem_keptBy_slot.1 hkeeps
      have hrel := h.patterns place
      rw [hpattern'] at hrel
      cases hpattern : plain.pattern? place with
      | none =>
          rw [hpattern] at hrel
          cases hrel
      | some pattern =>
          rw [hpattern] at hrel
          cases hrel with
          | some hmirrors =>
              exact .inr ⟨rfl, mem_keptBy_slot.2
                ⟨pattern, hpattern, (hmirrors.mem_keeps hcell).2 hkeeps⟩⟩
  | cell place =>
      obtain ⟨built', hbuilt', hkeeps⟩ := mem_keptBy_cell.1 hkeeps
      obtain ⟨body, -, hmade⟩ := h.madeCells place built' hbuilt'
      exact .inl (hmade.isKeptByName hcell hkeeps)
  | module place =>
      obtain ⟨index, built', hbuilt', hkeeps⟩ := mem_keptBy_module.1 hkeeps
      obtain ⟨definition, -, hmade⟩ := h.madeContents place index built' hbuilt'
      exact .inl (hmade.isKeptByName hcell hkeeps)

/-- **Rules and modules are alive in both workspaces or in none of them.** -/
theorem isAlive (h : Mirrors image? plain cached) {held held' : List Grammar}
    (hroots : cached.SameRoots held held') (hcell : keepable.isCell = false) :
    plain.isAlive held keepable = cached.isAlive held' keepable := by
  have hroot : ∀ keepable : Keepable, keepable.isCell = false →
      plain.isRoot held keepable = cached.isRoot held' keepable := fun keepable hcell =>
    (h.isRoot hcell held).trans (hroots keepable hcell)
  rw [Bool.eq_iff_iff]
  constructor
  · refine isAlive_of_isAlive (fun _ hcell => (h.mem_keepables hcell).1)
      (fun keepable hcell => (hroot keepable hcell ▸ ·))
      (fun keepable keeper hcell hkeeps => ?_) hcell
    exact (h.keptBy_cached hcell hkeeps).imp_left fun hkept => isRoot_of_isKeptByName hkept held'
  · refine isAlive_of_isAlive (fun _ hcell => (h.mem_keepables hcell).2)
      (fun keepable hcell => (hroot keepable hcell ▸ ·))
      (fun keepable keeper hcell hkeeps => ?_) hcell
    refine (h.keptBy_plain hcell hkeeps).imp_left fun hkept => ?_
    rw [h.isRoot hcell]
    exact isRoot_of_isKeptByName hkept held

end Mirrors

/-! ### The same roots -/

namespace SameRoots

variable {workspace after : Workspace} {held held' : List Grammar}

theorem refl (workspace : Workspace) (held : List Grammar) : workspace.SameRoots held held :=
  fun _ _ => rfl

theorem mono (h : workspace.SameRoots held held') (hcontinues : workspace.Continues after) :
    after.SameRoots held held' := by
  intro keepable hcell
  rw [hcontinues.isRoot, hcontinues.isRoot]
  exact h keepable hcell

private theorem isRoot_cons (workspace : Workspace) (grammar : Grammar) (held : List Grammar)
    (keepable : Keepable) : workspace.isRoot (grammar :: held) keepable
      = (grammar.keeps.contains keepable || workspace.isRoot held keepable) := by
  rw [Workspace.isRoot, List.any_cons, Bool.or_assoc, Workspace.isRoot]

theorem cons (h : workspace.SameRoots held held') {image? : Nat → Option Nat}
    {body? : Nat → Option Grammar} {grammar grammar' : Grammar}
    (hmirrors : grammar.Mirrors image? body? grammar') :
    workspace.SameRoots (grammar :: held) (grammar' :: held') := by
  intro keepable hcell
  have hkeeps : grammar.keeps.contains keepable = grammar'.keeps.contains keepable := by
    rw [Bool.eq_iff_iff, List.contains_iff_mem, List.contains_iff_mem]
    exact hmirrors.mem_keeps hcell
  rw [isRoot_cons, isRoot_cons, hkeeps, h keepable hcell]

theorem cons_left (h : workspace.SameRoots held held') {grammar : Grammar}
    (hkept : ∀ keepable : Keepable, keepable.isCell = false → keepable ∈ grammar.keeps →
      workspace.isKeptByName keepable) :
    workspace.SameRoots (grammar :: held) held' := by
  intro keepable hcell
  rw [isRoot_cons, ← h keepable hcell]
  cases hkeeps : grammar.keeps.contains keepable with
  | false => rfl
  | true =>
      have hname := hkept keepable hcell (List.contains_iff_mem.1 hkeeps)
      rw [Mirrors.isRoot_of_isKeptByName hname held]
      rfl

end SameRoots

end Workspace

end TokenGrammar
