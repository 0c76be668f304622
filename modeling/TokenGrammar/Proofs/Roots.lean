import TokenGrammar.Proofs.Survivors
import TokenGrammar.Proofs.Unfolding

/-!
# What names keep

A name keeps what it is bound to. So whatever is built from names keeps nothing but what has a name,
and what has a name is alive.
-/

namespace TokenGrammar

theorem Scope.exists_mem_of_find? {α : Type} {scope : Scope α} {name : String} {value : α}
    (h : scope.find? name = some value) : ∃ binding ∈ scope, binding.2 = value := by
  obtain ⟨binding, hfind, hvalue⟩ := Option.map_eq_some_iff.1 h
  exact ⟨binding, List.mem_of_find?_eq_some hfind, hvalue⟩

namespace Workspace

variable {workspace : Workspace} {held : List Grammar} {grammar : Grammar} {keepable : Keepable}

theorem isKeptByName_iff : workspace.isKeptByName keepable ↔
    (∃ binding ∈ workspace.rules, .slot binding.2 = keepable) ∨
      (∃ binding ∈ workspace.moduleNames, .module binding.2 = keepable) ∨
        ∃ binding ∈ workspace.parsers, keepable ∈ binding.2.keeps := by
  simp [isKeptByName, or_assoc]

theorem isRoot_iff : workspace.isRoot held keepable ↔
    (∃ grammar ∈ held, keepable ∈ grammar.keeps) ∨ workspace.isKeptByName keepable := by
  simp [isRoot]

theorem isAlive_of_isRoot (h : workspace.isRoot held keepable) :
    workspace.isAlive held keepable :=
  isAlive_iff.2 (.inl h)

theorem isAlive_of_mem (hgrammar : grammar ∈ held) (hkept : keepable ∈ grammar.keeps) :
    workspace.isAlive held keepable :=
  isAlive_of_isRoot (isRoot_iff.2 (.inl ⟨grammar, hgrammar, hkept⟩))

theorem isAlive_of_isKeptByName (h : workspace.isKeptByName keepable) :
    workspace.isAlive held keepable :=
  isAlive_of_isRoot (isRoot_iff.2 (.inr h))

theorem isRoot_cons_iff : workspace.isRoot (grammar :: held) keepable ↔
    keepable ∈ grammar.keeps ∨ workspace.isRoot held keepable := by
  simp [isRoot_iff, or_assoc]

theorem isAlive_of_isRoot_cons
    (hkept : ∀ keepable ∈ grammar.keeps, workspace.isAlive held keepable) (keepable : Keepable)
    (hroot : workspace.isRoot (grammar :: held) keepable) : workspace.isAlive held keepable :=
  (isRoot_cons_iff.1 hroot).elim (hkept keepable) isAlive_of_isRoot

theorem isKeptByName_of_rule {label : String} {slot : Nat}
    (h : workspace.rules.find? label = some slot) : workspace.isKeptByName (.slot slot) := by
  obtain ⟨binding, hbinding, rfl⟩ := Scope.exists_mem_of_find? h
  exact isKeptByName_iff.2 (.inl ⟨binding, hbinding, rfl⟩)

theorem isKeptByName_of_module {label : String} {place : Nat}
    (h : workspace.moduleNames.find? label = some place) :
    workspace.isKeptByName (.module place) := by
  obtain ⟨binding, hbinding, rfl⟩ := Scope.exists_mem_of_find? h
  exact isKeptByName_iff.2 (.inr (.inl ⟨binding, hbinding, rfl⟩))

theorem isKeptByName_of_stored {label : String} {found : Grammar}
    (h : workspace.parsers.find? label = some found) (hkept : keepable ∈ found.keeps) :
    workspace.isKeptByName keepable := by
  obtain ⟨binding, hbinding, rfl⟩ := Scope.exists_mem_of_find? h
  exact isKeptByName_iff.2 (.inr (.inr ⟨binding, hbinding, hkept⟩))

/-- What a name stands for outside of a module keeps nothing but what has a name. -/
theorem isKeptByName_of_bound? {home? : Option Nat} {name : Name} {found : Grammar}
    (h : workspace.bound? home? name = some found) (hkept : keepable ∈ found.keeps) :
    workspace.isKeptByName keepable := by
  cases name with
  | rule label =>
      obtain ⟨slot, hslot, rfl⟩ := Option.map_eq_some_iff.1 h
      rw [List.mem_singleton.1 hkept]
      exact isKeptByName_of_rule hslot
  | handle label =>
      obtain ⟨slot, hslot, rfl⟩ := Option.map_eq_some_iff.1 h
      cases hkept
  | parser label => exact isKeptByName_of_stored h hkept
  | production owner label =>
      obtain ⟨place, hplace, h⟩ := Option.bind_eq_some_iff.1 h
      obtain ⟨index, _, h⟩ := Option.bind_eq_some_iff.1 h
      cases h
      rw [List.mem_singleton.1 hkept]
      exact isKeptByName_of_module hplace
  | sibling label =>
      obtain ⟨target, hsibling, rfl⟩ := Option.map_eq_some_iff.1 h
      obtain ⟨home, _, hsibling⟩ := Option.bind_eq_some_iff.1 hsibling
      obtain ⟨index, _, rfl⟩ := Option.map_eq_some_iff.1 hsibling
      cases hkept

end Workspace

end TokenGrammar
