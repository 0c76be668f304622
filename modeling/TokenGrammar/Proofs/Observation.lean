import TokenGrammar.Diagnostic

/-!
# Observing computations

The combinators are written once for all monads, and what is proved of them should be too. All that
such a proof needs to know of a monad is how to argue about a computation that yields a value: a
pure one has missed nothing and yields what it was given, and of two in sequence the second goes on
from what the first one yielded, its misses behind those of the first. An observation is any notion
that obeys these two rules. A computation that yields no value satisfies every condition.
-/

namespace TokenGrammar

/-- A notion of what the computations of a monad yield, if they yield anything: the diagnostics of
the leaves that failed meanwhile, in the order in which they failed, and a value. -/
structure Observation (m : Type → Type) [Monad m] where
  Yields : {α : Type} → m α → (List Diagnostic → α → Prop) → Prop
  pure : ∀ {α : Type} {a : α} {post : List Diagnostic → α → Prop},
    post [] a → Yields (Pure.pure a) post
  bind : ∀ {α β : Type} {run : m α} {next : α → m β} {between : List Diagnostic → α → Prop}
    {post : List Diagnostic → β → Prop}, Yields run between →
    (∀ misses a, between misses a → Yields (next a) fun later b => post (misses ++ later) b) →
    Yields (run >>= next) post

/-- What is collected from one computation for each element of a list: the misses of all of them in
order, and the values. -/
inductive Collected {α β : Type} (post : α → List Diagnostic → β → Prop) :
    List α → List Diagnostic → List β → Prop
  | nil : Collected post [] [] []
  | cons {a : α} {misses : List Diagnostic} {b : β} {as : List α} {later : List Diagnostic}
      {bs : List β} : post a misses b → Collected post as later bs →
      Collected post (a :: as) (misses ++ later) (b :: bs)

namespace Collected

variable {α β : Type} {post : α → List Diagnostic → β → Prop} {as : List α}
  {misses : List Diagnostic} {bs : List β}

theorem imp {weaker : α → List Diagnostic → β → Prop} (h : Collected post as misses bs)
    (himp : ∀ a misses b, post a misses b → weaker a misses b) : Collected weaker as misses bs := by
  induction h with
  | nil => exact .nil
  | cons hhead _ ih => exact .cons (himp _ _ _ hhead) ih

theorem eq_map {f : α → β} (h : Collected post as misses bs)
    (hpost : ∀ {a misses b}, post a misses b → b = f a) : bs = as.map f := by
  induction h with
  | nil => rfl
  | cons hhead _ ih => rw [List.map_cons, hpost hhead, ih]

theorem exists_of_mem_left (h : Collected post as misses bs) {a : α} (ha : a ∈ as) :
    ∃ misses, ∃ b ∈ bs, post a misses b := by
  induction h with
  | nil => cases ha
  | cons hhead _ ih =>
      rcases List.mem_cons.1 ha with rfl | ha
      · exact ⟨_, _, List.mem_cons_self, hhead⟩
      · obtain ⟨misses, b, hb, hpost⟩ := ih ha
        exact ⟨misses, b, List.mem_cons_of_mem _ hb, hpost⟩

theorem exists_of_mem_right (h : Collected post as misses bs) {b : β} (hb : b ∈ bs) :
    ∃ a ∈ as, ∃ misses, post a misses b := by
  induction h with
  | nil => cases hb
  | cons hhead _ ih =>
      rcases List.mem_cons.1 hb with rfl | hb
      · exact ⟨_, List.mem_cons_self, _, hhead⟩
      · obtain ⟨a, ha, misses, hpost⟩ := ih hb
        exact ⟨a, List.mem_cons_of_mem _ ha, misses, hpost⟩

end Collected

namespace Observation

variable {m : Type → Type} [Monad m] (observation : Observation m) {α β : Type}

theorem pure_behind {misses : List Diagnostic} {a : α} {post : List Diagnostic → α → Prop}
    (hpost : post misses a) :
    observation.Yields (Pure.pure a) fun later b => post (misses ++ later) b := by
  refine observation.pure ?_
  rwa [List.append_nil]

theorem map {run : m α} {f : α → β} {post : List Diagnostic → α → Prop}
    {image : List Diagnostic → β → Prop} (hrun : observation.Yields run post)
    (himp : ∀ misses a, post misses a → image misses (f a)) :
    observation.Yields (run >>= fun a => Pure.pure (f a)) image :=
  observation.bind hrun fun misses a ha => observation.pure_behind (himp misses a ha)

variable [LawfulMonad m]

theorem weaken {run : m α} {post weaker : List Diagnostic → α → Prop}
    (hrun : observation.Yields run post) (himp : ∀ misses a, post misses a → weaker misses a) :
    observation.Yields run weaker := by
  rw [← bind_pure run]
  exact observation.bind hrun fun misses a ha => observation.pure_behind (himp misses a ha)

theorem mapM {f : α → m β} {post : α → List Diagnostic → β → Prop} {as : List α}
    (hf : ∀ a ∈ as, observation.Yields (f a) (post a)) :
    observation.Yields (as.mapM f) (Collected post as) := by
  induction as with
  | nil =>
      rw [List.mapM_nil]
      exact observation.pure .nil
  | cons a as ih =>
      rw [List.mapM_cons]
      refine observation.bind (hf a (by simp)) fun misses b hb => ?_
      refine observation.map (ih fun a' ha' => hf a' (by simp [ha'])) fun later bs hbs => ?_
      exact .cons hb hbs

end Observation

end TokenGrammar
