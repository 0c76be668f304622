import TokenGrammar.Proofs.Observation
import Mathlib.Data.List.Nodup
import Mathlib.Data.Prod.Basic

/-!
# Enumerations in order

A list enumerates a relation if it has one element for each way in which the relation relates
something, and no others. It does so in an order if each way precedes those of later elements. A
list takes the places of its own elements in ascending order. What is listed for each element of a
list, and joined, goes by the ways of that list first.
-/

namespace TokenGrammar

variable {ι κ α β γ : Type}

/-- A list with one element for each way in which a relation relates something, where each way
precedes those of later elements. -/
def EnumeratesIn (order : ι → ι → Prop) (relation : ι → α → Prop) (elements : List α) : Prop :=
  ∃ readings : List (ι × α), readings.map Prod.snd = elements ∧
    (readings.Pairwise fun reading later => reading.1 ≠ later.1 ∧ order reading.1 later.1) ∧
    ∀ way element, (way, element) ∈ readings ↔ relation way element

namespace EnumeratesIn

variable {order : ι → ι → Prop} {relation : ι → α → Prop} {elements : List α}

theorem nil (hnone : ∀ way element, ¬ relation way element) : EnumeratesIn order relation [] :=
  ⟨[], rfl, .nil, fun way element => by simpa using hnone way element⟩

theorem singleton (way : ι) (element : α)
    (honly : ∀ way' element', relation way' element' ↔ way' = way ∧ element' = element) :
    EnumeratesIn order relation [element] :=
  ⟨[(way, element)], rfl, List.pairwise_singleton _ _, fun way' element' => by simp [honly]⟩

theorem congr {other : ι → α → Prop} (h : EnumeratesIn order relation elements)
    (hiff : ∀ way element, other way element ↔ relation way element) :
    EnumeratesIn order other elements := by
  obtain ⟨readings, hsnd, hpairwise, hmem⟩ := h
  exact ⟨readings, hsnd, hpairwise,
    fun way element => (hmem way element).trans (hiff way element).symm⟩

theorem imp {order' : ι → ι → Prop} (h : EnumeratesIn order relation elements)
    (himp : ∀ way way' element element', relation way element → relation way' element' →
      order way way' → order' way way') : EnumeratesIn order' relation elements := by
  obtain ⟨readings, hsnd, hpairwise, hmem⟩ := h
  refine ⟨readings, hsnd, hpairwise.imp_of_mem fun {reading later} hreading hlater h => ?_, hmem⟩
  exact ⟨h.1, himp _ _ _ _ ((hmem _ _).1 hreading) ((hmem _ _).1 hlater) h.2⟩

theorem reverse (h : EnumeratesIn order relation elements) :
    EnumeratesIn (fun way way' => order way' way) relation elements.reverse := by
  obtain ⟨readings, rfl, hpairwise, hmem⟩ := h
  refine ⟨readings.reverse, List.map_reverse, ?_, fun way element => ?_⟩
  · rw [List.pairwise_reverse]
    exact hpairwise.imp fun h => ⟨h.1.symm, h.2⟩
  · rw [List.mem_reverse, hmem]

theorem filter {kept : ι → α → Prop} (h : EnumeratesIn order relation elements) (p : α → Bool)
    (hkept : ∀ way element, kept way element ↔ relation way element ∧ p element) :
    EnumeratesIn order kept (elements.filter p) := by
  obtain ⟨readings, rfl, hpairwise, hmem⟩ := h
  refine ⟨readings.filter fun reading => p reading.2, ?_, hpairwise.filter _,
    fun way element => ?_⟩
  · rw [List.filter_map]
    rfl
  · rw [hkept, List.mem_filter, hmem]

theorem append {other both : ι → α → Prop} {others : List α}
    (h : EnumeratesIn order relation elements) (h' : EnumeratesIn order other others)
    (hbefore : ∀ way way' element element', relation way element → other way' element' →
      way ≠ way' ∧ order way way')
    (hboth : ∀ way element, both way element ↔ relation way element ∨ other way element) :
    EnumeratesIn order both (elements ++ others) := by
  obtain ⟨readings, rfl, hpairwise, hmem⟩ := h
  obtain ⟨readings', rfl, hpairwise', hmem'⟩ := h'
  refine ⟨readings ++ readings', List.map_append, ?_, fun way element => ?_⟩
  · rw [List.pairwise_append]
    refine ⟨hpairwise, hpairwise', fun reading hreading later hlater => ?_⟩
    exact hbefore _ _ _ _ ((hmem _ _).1 hreading) ((hmem' _ _).1 hlater)
  · rw [List.mem_append, hmem, hmem', hboth]

theorem map {image : κ → β → Prop} {order' : κ → κ → Prop}
    (h : EnumeratesIn order relation elements) {f : ι → κ} (hf : Function.Injective f) (g : α → β)
    (horder : ∀ way way', order way way' → order' (f way) (f way'))
    (himage : ∀ way' element', image way' element' ↔
      ∃ way element, relation way element ∧ way' = f way ∧ element' = g element) :
    EnumeratesIn order' image (elements.map g) := by
  obtain ⟨readings, rfl, hpairwise, hmem⟩ := h
  refine ⟨readings.map fun reading => (f reading.1, g reading.2), ?_, ?_, fun way' element' => ?_⟩
  · simp only [List.map_map, Function.comp_def]
  · rw [List.pairwise_map]
    exact hpairwise.imp fun h => ⟨fun heq => h.1 (hf heq), horder _ _ h.2⟩
  · rw [himage, List.mem_map]
    constructor
    · rintro ⟨⟨way, element⟩, hreading, heq⟩
      cases heq
      exact ⟨way, element, (hmem way element).1 hreading, rfl, rfl⟩
    · rintro ⟨way, element, hrelation, rfl, rfl⟩
      exact ⟨(way, element), (hmem way element).2 hrelation, rfl⟩

theorem pairwise {r : α → α → Prop} (h : EnumeratesIn order relation elements)
    (himp : ∀ way way' element element', relation way element → relation way' element' →
      order way way' → r element element') : elements.Pairwise r := by
  obtain ⟨readings, rfl, hpairwise, hmem⟩ := h
  rw [List.pairwise_map]
  apply hpairwise.imp_of_mem
  intro reading later hreading hlater h
  exact himp _ _ _ _ ((hmem _ _).1 hreading) ((hmem _ _).1 hlater) h.2

theorem places (elements : List α) :
    EnumeratesIn (fun place later : Nat => place < later)
      (fun place element => elements[place]? = some element) elements := by
  refine ⟨elements.zipIdx.map Prod.swap, ?_, ?_, fun place element => ?_⟩
  · simp only [List.map_map, Function.comp_def, Prod.snd_swap]
    exact elements.zipIdx_map_fst 0
  · have hplaces : (elements.zipIdx.map Prod.snd).Pairwise (· < ·) := by
      rw [List.zipIdx_map_snd]
      exact List.pairwise_lt_range' 1
    rw [List.pairwise_map] at hplaces ⊢
    apply hplaces.imp
    intro item later hlt
    exact ⟨Nat.ne_of_lt hlt, hlt⟩
  · show _ ↔ elements[place]? = some element
    rw [← List.mk_mem_zipIdx_iff_getElem?, List.mem_map]
    constructor
    · rintro ⟨⟨element', place'⟩, hmem, heq⟩
      cases heq
      exact hmem
    · exact fun hmem => ⟨(element, place), hmem, rfl⟩

/-- The order of pairs of ways that goes by the first ones, and by the second ones where the first
ones are the same. -/
def Lexically (order : ι → ι → Prop) (inner : κ → κ → Prop) (way later : ι × κ) : Prop :=
  order way.1 later.1 ∨ way.1 = later.1 ∧ inner way.2 later.2

theorem collected {innerOrder : κ → κ → Prop} {inner : α → κ → γ → Prop}
    {post : α → List Diagnostic → β → Prop} {g : β → List γ}
    (himp : ∀ a misses b, post a misses b → EnumeratesIn innerOrder (inner a) (g b))
    {as : List α} {misses : List Diagnostic} {bs : List β} (h : EnumeratesIn order relation as)
    (hparts : Collected post as misses bs) :
    EnumeratesIn (Lexically order innerOrder)
      (fun way c => ∃ a, relation way.1 a ∧ inner a way.2 c) (bs.flatMap g) := by
  obtain ⟨readings, rfl, hpairwise, hmem⟩ := h
  simp only [← hmem]
  clear hmem
  induction readings generalizing misses bs with
  | nil =>
      cases hparts
      exact .nil fun way c ⟨_, hnone, _⟩ => nomatch hnone
  | cons reading readings ih =>
      obtain ⟨way, a⟩ := reading
      obtain ⟨hfirst, hpairwise⟩ := List.pairwise_cons.1 hpairwise
      cases hparts with
      | @cons _ _ b _ _ bs hpart hparts =>
          rw [List.flatMap_cons]
          have hhead : EnumeratesIn (Lexically order innerOrder)
              (fun way' : ι × κ => fun c => way'.1 = way ∧ inner a way'.2 c) ((g b).map id) := by
            refine (himp _ _ _ hpart).map (Prod.mk_right_injective way) id ?_ fun way' c => ?_
            · exact fun _ _ h => .inr ⟨rfl, h⟩
            constructor
            · rintro ⟨rfl, hinner⟩
              exact ⟨way'.2, c, hinner, rfl, rfl⟩
            · rintro ⟨_, _, hinner, rfl, rfl⟩
              exact ⟨rfl, hinner⟩
          rw [List.map_id] at hhead
          refine hhead.append (ih hparts hpairwise) ?_ fun way' c => ?_
          · rintro way' later c c' ⟨rfl, _⟩ ⟨a', hreading, _⟩
            have hbefore := hfirst _ hreading
            exact ⟨fun heq => hbefore.1 (heq ▸ rfl), .inl hbefore.2⟩
          · constructor
            · rintro ⟨a', hreading, hinner⟩
              rcases List.mem_cons.1 hreading with heq | hreading
              · cases heq
                exact .inl ⟨rfl, hinner⟩
              · exact .inr ⟨a', hreading, hinner⟩
            · rintro (⟨hway, hinner⟩ | ⟨a', hreading, hinner⟩)
              · exact ⟨a, List.mem_cons.2 (.inl (by rw [hway])), hinner⟩
              · exact ⟨a', List.mem_cons_of_mem _ hreading, hinner⟩

theorem flatMap {innerOrder : κ → κ → Prop} {inner : α → κ → γ → Prop} {g : α → List γ}
    (h : EnumeratesIn order relation elements)
    (himp : ∀ a, EnumeratesIn innerOrder (inner a) (g a)) :
    EnumeratesIn (Lexically order innerOrder)
      (fun way c => ∃ a, relation way.1 a ∧ inner a way.2 c) (elements.flatMap g) := by
  have hparts : ∀ as : List α, Collected (fun a misses b => misses = [] ∧ b = a) as [] as := by
    intro as
    induction as with
    | nil => exact .nil
    | cons a as ih => exact .cons ⟨rfl, rfl⟩ ih
  apply h.collected _ (hparts elements)
  rintro a _ _ ⟨_, rfl⟩
  exact himp _

end EnumeratesIn

end TokenGrammar
