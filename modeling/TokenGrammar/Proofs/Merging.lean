import TokenGrammar.Diagnostic
import Mathlib.Data.ENat.Lattice
import Mathlib.Data.List.Infix
import Mathlib.Data.List.MinMax
import Mathlib.Data.List.ReduceOption

/-!
# Merging diagnostics

Everything that the other proofs know about merging. A merge keeps the diagnostic that lies further,
and the first one on a tie, so whatever is merged one after the other, the first of the furthest is
left (`isFirstFurthest_furthestOf`). Combinators merge inside one another, in groupings that depend
on the grammar, but that comes to the same as one merge from left to right over everything that was
found (`Bracketing.result_eq_foldl`). Only the order matters, and only among diagnostics that lie
equally far.
-/

namespace TokenGrammar

namespace Diagnostic

/-! ### How far diagnostics lie -/

/-- How far into the chain a diagnostic lies: at a byte, or at the end. -/
def progress (diagnostic : Diagnostic) : ℕ∞ :=
  match diagnostic.position? with
  | none => ⊤
  | some position => position.index

def reach (diagnostic? : Option Diagnostic) : WithBot ℕ∞ := diagnostic?.map progress

@[simp] theorem reach_none : reach none = ⊥ := rfl

@[simp] theorem reach_some (diagnostic : Diagnostic) :
    reach (some diagnostic) = diagnostic.progress := rfl

theorem isBeyond_iff (a b : Diagnostic) : a.isBeyond b ↔ b.progress < a.progress := by
  rw [isBeyond, progress, progress]
  cases a.position? <;> cases b.position? <;> simp

/-! ### Merging two of them -/

theorem further_cases (a b : Diagnostic) :
    b.progress ≤ a.progress ∧ a.further b = a ∨ a.progress < b.progress ∧ a.further b = b := by
  rw [further]
  split
  · rename_i hbeyond
    exact .inr ⟨(isBeyond_iff b a).1 hbeyond, rfl⟩
  · rename_i hbeyond
    exact .inl ⟨not_lt.1 fun hlt => hbeyond ((isBeyond_iff b a).2 hlt), rfl⟩

theorem furthest_eq_none_iff {a b : Option Diagnostic} :
    furthest a b = none ↔ a = none ∧ b = none := by
  cases a <;> cases b <;> simp

theorem furthest_eq_some {a b : Option Diagnostic} {diagnostic : Diagnostic}
    (h : furthest a b = some diagnostic) : a = some diagnostic ∨ b = some diagnostic := by
  cases a with
  | none => exact .inr (by simpa using h)
  | some first =>
      cases b with
      | none => exact .inl h
      | some second =>
          rw [furthest_some_some, further] at h
          split at h
          · exact .inr h
          · exact .inl h

theorem reach_furthest (a b : Option Diagnostic) :
    reach (furthest a b) = max (reach a) (reach b) := by
  match a, b with
  | none, b => simp
  | a, none => simp
  | some a, some b =>
      rw [furthest_some_some, reach_some, reach_some, reach_some, ← WithBot.coe_max]
      rcases further_cases a b with ⟨hle, heq⟩ | ⟨hlt, heq⟩
      · rw [heq, max_eq_left hle]
      · rw [heq, max_eq_right hlt.le]

theorem furthest_assoc (a b c : Option Diagnostic) :
    furthest (furthest a b) c = furthest a (furthest b c) := by
  match a, b, c with
  | none, b, c => simp
  | a, none, c => simp
  | a, b, none => simp
  | some a, some b, some c =>
      simp only [furthest_some_some, further, isBeyond_iff]
      grind

instance : Std.Associative furthest := ⟨furthest_assoc⟩

/-- What was merged before is not merged again. -/
theorem furthest_furthest_left (a b : Option Diagnostic) :
    furthest (furthest a b) a = furthest a b := by
  match a, b with
  | none, b => simp
  | some a, none => simp [further, isBeyond_iff]
  | some a, some b =>
      simp only [furthest_some_some, further, isBeyond_iff]
      grind

/-! ### The first of the furthest -/

/-- The first of the diagnostics that lie furthest, none if there are no diagnostics. -/
inductive IsFirstFurthest : List Diagnostic → Option Diagnostic → Prop where
  | none : IsFirstFurthest [] none
  | some {before rest : List Diagnostic} {diagnostic : Diagnostic}
      (hbefore : ∀ earlier ∈ before, earlier.progress < diagnostic.progress)
      (hrest : ∀ later ∈ rest, later.progress ≤ diagnostic.progress) :
      IsFirstFurthest (before ++ diagnostic :: rest) (some diagnostic)

theorem isFirstFurthest_singleton (diagnostic : Diagnostic) :
    IsFirstFurthest [diagnostic] (some diagnostic) :=
  @IsFirstFurthest.some [] [] diagnostic (fun _ hmem => nomatch hmem) fun _ hmem => nomatch hmem

variable {misses later : List Diagnostic} {a b : Option Diagnostic}

theorem IsFirstFurthest.eq_none_iff (h : IsFirstFurthest misses a) :
    a = Option.none ↔ misses = [] := by
  cases h <;> simp

theorem IsFirstFurthest.append (ha : IsFirstFurthest misses a) (hb : IsFirstFurthest later b) :
    IsFirstFurthest (misses ++ later) (furthest a b) := by
  cases ha with
  | none => simpa using hb
  | @some before rest first hbefore hrest =>
      cases hb with
      | none => simpa using IsFirstFurthest.some hbefore hrest
      | @some before' rest' second hbefore' hrest' =>
          rw [furthest_some_some]
          rcases further_cases first second with ⟨hle, heq⟩ | ⟨hlt, heq⟩
          · -- all of the second list stands behind the first one's diagnostic
            rw [heq, List.append_assoc, List.cons_append]
            refine .some hbefore ?_
            rw [List.forall_mem_append, List.forall_mem_append, List.forall_mem_cons]
            exact ⟨hrest, fun other hmem => (hbefore' other hmem).le.trans hle, hle,
              fun other hmem => (hrest' other hmem).trans hle⟩
          · -- all of the first list stands before the second one's diagnostic
            rw [heq, ← List.append_assoc]
            refine .some ?_ hrest'
            rw [List.forall_mem_append, List.forall_mem_append, List.forall_mem_cons]
            exact ⟨⟨fun other hmem => (hbefore other hmem).trans hlt, hlt,
              fun other hmem => (hrest other hmem).trans_lt hlt⟩, hbefore'⟩

/-- There is but one first of the furthest. -/
theorem IsFirstFurthest.argmax_eq (h : IsFirstFurthest misses a) :
    misses.argmax progress = a := by
  cases h with
  | none => rfl
  | @some before rest diagnostic hbefore hrest =>
      induction before with
      | nil =>
          rw [List.nil_append, List.argmax_cons]
          cases hlater : rest.argmax progress with
          | none => rfl
          | some other => exact if_neg (hrest other (List.argmax_mem hlater)).not_gt
      | cons earlier before ih =>
          rw [List.forall_mem_cons] at hbefore
          rw [List.cons_append, List.argmax_cons, ih hbefore.2]
          exact if_pos hbefore.1

/-! ### Merging one after the other -/

section Items

variable {ι : Type} (found : ι → Option Diagnostic)

/-- The furthest of the diagnostics of some items, the first of them where several lie furthest. -/
def furthestOf (items : List ι) : Option Diagnostic :=
  items.foldl (fun seen item => furthest seen (found item)) none

theorem furthestOf_concat (items : List ι) (item : ι) :
    furthestOf found (items ++ [item]) = furthest (furthestOf found items) (found item) := by
  rw [furthestOf, List.foldl_append, furthestOf]
  rfl

/-- Merging diagnostics one after the other yields the first of those that lie furthest. -/
theorem isFirstFurthest_furthestOf (items : List ι) :
    IsFirstFurthest (items.filterMap found) (furthestOf found items) := by
  induction items using List.reverseRecOn with
  | nil => exact .none
  | append_singleton items item ih =>
      rw [furthestOf_concat, List.filterMap_append]
      apply ih.append
      cases hfound : found item with
      | none => simpa [hfound] using IsFirstFurthest.none
      | some diagnostic => simpa [hfound] using isFirstFurthest_singleton diagnostic

theorem furthest_furthestOf_of_mem {items : List ι} {item : ι} (hmem : item ∈ items) :
    furthest (furthestOf found items) (found item) = furthestOf found items := by
  induction items using List.reverseRecOn with
  | nil => cases hmem
  | append_singleton items last ih =>
      rw [furthestOf_concat]
      rcases List.mem_append.1 hmem with hmem | hmem
      · -- the earlier items have taken it in, and so they do when another one follows
        calc furthest (furthest (furthestOf found items) (found last)) (found item)
            = furthest (furthestOf found items)
                (furthest (furthest (found item) (found last)) (found item)) := by
              rw [← furthest_assoc, ← furthest_assoc, ih hmem]
          _ = furthest (furthestOf found items) (found last) := by
              rw [furthest_furthest_left, ← furthest_assoc, ih hmem]
      · have hself := furthest_furthest_left (found last) none
        rw [furthest_none_right] at hself
        rw [List.mem_singleton.1 hmem, furthest_assoc, hself]

/-- What came first is merged first or last. -/
theorem foldl_furthest_furthest (items : List ι) (a b : Option Diagnostic) :
    items.foldl (fun seen item => furthest seen (found item)) (furthest a b)
      = furthest a (items.foldl (fun seen item => furthest seen (found item)) b) := by
  have hassoc := @List.foldl_assoc _ furthest _ (items.map found) a b
  rwa [List.foldl_map, List.foldl_map] at hassoc

variable {items : List ι} {seen : Option Diagnostic}

theorem foldl_furthest_eq_none_iff :
    items.foldl (fun seen item => furthest seen (found item)) seen = none ↔
      seen = none ∧ ∀ item ∈ items, found item = none := by
  induction items generalizing seen with
  | nil => simp
  | cons item items ih => rw [List.foldl_cons, ih, furthest_eq_none_iff]; simp [and_assoc]

theorem foldl_furthest_ne_none (hseen : seen ≠ none) :
    items.foldl (fun seen item => furthest seen (found item)) seen ≠ none :=
  fun hnone => hseen ((foldl_furthest_eq_none_iff found).1 hnone).1

theorem foldl_furthest_ne_none_of_mem {item : ι} (hitem : item ∈ items)
    (hfound : found item ≠ none) (seen : Option Diagnostic) :
    items.foldl (fun seen item => furthest seen (found item)) seen ≠ none :=
  fun hnone => hfound (((foldl_furthest_eq_none_iff found).1 hnone).2 item hitem)

theorem reach_foldl_le_iff {bound : WithBot ℕ∞} :
    reach (items.foldl (fun seen item => furthest seen (found item)) seen) ≤ bound ↔
      reach seen ≤ bound ∧ ∀ item ∈ items, reach (found item) ≤ bound := by
  induction items generalizing seen with
  | nil => simp
  | cons item items ih => rw [List.foldl_cons, ih, reach_furthest, max_le_iff]; simp [and_assoc]

theorem reach_le_reach_furthestOf {item : ι} (hitem : item ∈ items) :
    reach (found item) ≤ reach (furthestOf found items) :=
  ((reach_foldl_le_iff found).1 le_rfl).2 item hitem

end Items

theorem progression_eq_map_inits (seen : Option Diagnostic) (items : List (Option Diagnostic)) :
    progression seen items = items.inits.tail.map (·.foldl furthest seen) := by
  induction items generalizing seen with
  | nil => rfl
  | cons next rest ih =>
      have hinits : rest.inits = [] :: rest.inits.tail := by cases rest <;> simp
      rw [progression, ih, List.inits_cons, List.tail_cons, List.map_map, hinits]
      rfl

/-! ### Merging in any grouping -/

/-- A way to merge a list of possible diagnostics, part by part. -/
inductive Bracketing : List (Option Diagnostic) → Type where
  | nothing : Bracketing []
  | found (diagnostic? : Option Diagnostic) : Bracketing [diagnostic?]
  | merged {earlier later : List (Option Diagnostic)} (first : Bracketing earlier)
      (second : Bracketing later) : Bracketing (earlier ++ later)

def Bracketing.result {items : List (Option Diagnostic)} : Bracketing items → Option Diagnostic
  | nothing => none
  | found diagnostic? => diagnostic?
  | merged first second => furthest first.result second.result

theorem Bracketing.result_eq_foldl {items : List (Option Diagnostic)}
    (bracketing : Bracketing items) : bracketing.result = items.foldl furthest none := by
  induction bracketing with
  | nothing => rfl
  | found diagnostic? => exact (furthest_none_left diagnostic?).symm
  | @merged earlier later first second hfirst hsecond =>
      calc furthest first.result second.result
          = furthest (earlier.foldl furthest none) (later.foldl furthest none) := by
            rw [hfirst, hsecond]
        _ = later.foldl furthest (furthest (earlier.foldl furthest none) none) :=
            List.foldl_assoc.symm
        _ = (earlier ++ later).foldl furthest none := by
            rw [furthest_none_right, List.foldl_append]

/-! ### Merging in any order -/

theorem foldl_furthest_eq_argmax (items : List (Option Diagnostic)) :
    items.foldl furthest none = items.reduceOption.argmax progress :=
  (isFirstFurthest_furthestOf id items).argmax_eq.symm

/-- A diagnostic that is brought to the front is kept if it is among the furthest. -/
theorem exists_perm_foldl_eq_some_iff {items : List (Option Diagnostic)} {diagnostic : Diagnostic} :
    (∃ reordered : List (Option Diagnostic), reordered.Perm items ∧
        reordered.foldl furthest none = some diagnostic) ↔
      some diagnostic ∈ items ∧
        ∀ other, some other ∈ items → other.progress ≤ diagnostic.progress := by
  constructor
  · rintro ⟨reordered, hperm, hfirst⟩
    rw [foldl_furthest_eq_argmax] at hfirst
    refine ⟨hperm.mem_iff.1 (List.reduceOption_mem_iff.1 (List.argmax_mem hfirst)), ?_⟩
    intro other hother
    exact List.le_of_mem_argmax (List.reduceOption_mem_iff.2 (hperm.mem_iff.2 hother)) hfirst
  · rintro ⟨hmem, hgreatest⟩
    refine ⟨some diagnostic :: items.erase (some diagnostic),
      (List.perm_cons_erase hmem).symm, ?_⟩
    rw [foldl_furthest_eq_argmax, List.reduceOption_cons_of_some]
    have hfirst : IsFirstFurthest ([] ++ diagnostic :: (items.erase (some diagnostic)).reduceOption)
        (some diagnostic) := by
      refine .some (fun _ hnone => nomatch hnone) fun other hother => hgreatest other ?_
      exact List.mem_of_mem_erase (List.reduceOption_mem_iff.1 hother)
    exact hfirst.argmax_eq

/-- **Merging keeps the first of the furthest.** A merge from left to right yields nothing where
nothing was found, and otherwise the first of the diagnostics that lie furthest; so it does at every
item on the way. It has a unit and may be grouped in any way. Another order makes a difference only
between diagnostics that lie furthest, each of which is kept in some order. -/
theorem merging_lawful (items : List (Option Diagnostic)) (a b c : Option Diagnostic) :
    (items.foldl furthest none = none ↔ ∀ found ∈ items, found = none) ∧
      IsFirstFurthest items.reduceOption (items.foldl furthest none) ∧
      progression none items = items.inits.tail.map (·.foldl furthest none) ∧
      (furthest none a = a ∧ furthest a none = a) ∧
      furthest (furthest a b) c = furthest a (furthest b c) ∧
      (∀ bracketing : Bracketing items, bracketing.result = items.foldl furthest none) ∧
      ∀ diagnostic,
        (∃ reordered : List (Option Diagnostic), reordered.Perm items ∧
          reordered.foldl furthest none = some diagnostic) ↔
        some diagnostic ∈ items ∧
          ∀ other, some other ∈ items → other.progress ≤ diagnostic.progress := by
  refine ⟨?_, isFirstFurthest_furthestOf id items, progression_eq_map_inits none items,
    ⟨furthest_none_left a, furthest_none_right a⟩, furthest_assoc a b c,
    Bracketing.result_eq_foldl, fun diagnostic => exists_perm_foldl_eq_some_iff⟩
  have hnone := @foldl_furthest_eq_none_iff _ id items none
  simpa using hnone

/-- The end of the chain lies beyond every token. -/
example (early : Position) :
    [none, some ⟨.custom, some early, "early"⟩, some ⟨.custom, none, "first"⟩,
      some ⟨.custom, none, "second"⟩].foldl furthest none = some ⟨.custom, none, "first"⟩ := rfl

end Diagnostic

end TokenGrammar
