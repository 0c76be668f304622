import TokenGrammar.Outcome
import TokenGrammar.Proofs.Ordered

/-!
# Readings

What a grammar reads is a relation: from a cursor, in some way, with a value, up to another cursor.
The ways tell readings apart that have the same value over the same stretch, so that an ambiguous
grammar may have one candidate twice. Combinators have a meaning in terms of such relations, which
says nothing about the order in which readings are found, or about how they are found.

A list enumerates a relation if it has one element for each way, and no others. The second half of
this module is about lists that are made of such lists, in whatever order.
-/

namespace TokenGrammar

/-- From which cursor, in which way, with which value and up to which cursor something is read. -/
abbrev Readings (ι α : Type) := Cursor → ι → α → Cursor → Prop

variable {ι κ μ α β γ : Type}

namespace Readings

def Gives (readings : Readings ι α) (start : Cursor) (way : ι) (candidate : Candidate α) : Prop :=
  candidate.start = start ∧ readings start way candidate.value candidate.stop

def view (f : Candidate α → β) (readings : Readings ι α) : Readings ι β :=
  fun start way value stop =>
    ∃ value', readings start way value' stop ∧ value = f ⟨start, stop, value'⟩

def map (f : α → β) (readings : Readings ι α) : Readings ι β :=
  readings.view fun candidate => f candidate.value

def either (first : Readings ι α) (second : Readings κ α) : Readings (ι ⊕ κ) α
  | start, .inl way, value, stop => first start way value stop
  | start, .inr way, value, stop => second start way value stop

def optional (readings : Readings ι α) : Readings (Option ι) (Option α)
  | start, none, value, stop => value = none ∧ stop = start
  | start, some way, value, stop => ∃ value', readings start way value' stop ∧ value = some value'

def seq (first : Readings ι α) (second : Readings κ β) : Readings (ι × κ) (α × β) :=
  fun start way value stop =>
    ∃ between, first start way.1 value.1 between ∧ second between way.2 value.2 stop

def bind (first : Readings ι α) (second : α → Readings κ β) : Readings (ι × κ) β :=
  fun start way value stop =>
    ∃ value' between, first start way.1 value' between ∧ second value' between way.2 value stop

/-- Readings that end elsewhere than they begin. -/
def moving (readings : Readings ι α) : Readings ι α :=
  fun start way value stop => readings start way value stop ∧ stop ≠ start

/-- Any number of readings, each from the end of the one before. -/
inductive Repeats (readings : Readings ι α) : Readings (List ι) (List α) where
  | nil (start : Cursor) : Repeats readings start [] [] start
  | cons {start between stop : Cursor} {way : ι} {value : α} {ways : List ι} {values : List α}
      (hfirst : readings start way value between)
      (hrest : Repeats readings between ways values stop) :
      Repeats readings start (way :: ways) (value :: values) stop

/-- A repetition of steps none of which stands still. -/
def many (readings : Readings ι α) : Readings (List ι) (List α) := Repeats readings.moving

def exactly (count : Nat) (readings : Readings ι α) : Readings (List ι) (List α) :=
  fun start ways values stop => ways.length = count ∧ Repeats readings start ways values stop

/-! ### Repetitions -/

theorem repeats_nil_iff {readings : Readings ι α} {start stop : Cursor} {values : List α} :
    Repeats readings start [] values stop ↔ values = [] ∧ stop = start := by
  constructor
  · rintro ⟨⟩
    exact ⟨rfl, rfl⟩
  · rintro ⟨rfl, rfl⟩
    exact .nil stop

theorem repeats_concat_iff {readings : Readings ι α} {start stop : Cursor} {ways : List ι} {way : ι}
    {values : List α} : Repeats readings start (ways ++ [way]) values stop ↔
      ∃ between values' value, values = values' ++ [value] ∧
        Repeats readings start ways values' between ∧ readings between way value stop := by
  constructor
  · induction ways generalizing start values with
    | nil =>
        rintro (_ | ⟨hfirst, hrest⟩)
        cases hrest
        exact ⟨start, [], _, rfl, .nil start, hfirst⟩
    | cons first ways ih =>
        rintro (_ | ⟨hfirst, hrest⟩)
        obtain ⟨between, values', value, rfl, hways, hlast⟩ := ih hrest
        exact ⟨between, _ :: values', value, rfl, .cons hfirst hways, hlast⟩
  · rintro ⟨between, values', value, rfl, hways, hlast⟩
    induction hways with
    | nil => exact .cons hlast (.nil stop)
    | cons hfirst _ ih => exact .cons hfirst (ih hlast)

theorem Repeats.take {readings : Readings ι α} {start stop : Cursor} {ways : List ι}
    {values : List α} (h : Repeats readings start ways values stop) (count : Nat) :
    ∃ between, Repeats readings start (ways.take count) (values.take count) between := by
  induction h generalizing count with
  | nil start =>
      simp only [List.take_nil]
      exact ⟨start, .nil start⟩
  | @cons start _ _ _ _ _ _ hfirst _ ih =>
      cases count with
      | zero => exact ⟨start, .nil start⟩
      | succ count =>
          obtain ⟨between, hrest⟩ := ih count
          exact ⟨between, .cons hfirst hrest⟩

theorem Repeats.length_eq {readings : Readings ι α} {start stop : Cursor} {ways : List ι}
    {values : List α} (h : Repeats readings start ways values stop) :
    values.length = ways.length := by
  induction h with
  | nil => rfl
  | cons _ _ ih => rw [List.length_cons, List.length_cons, ih]

/-! ### Going forward -/

/-- Whether readings go forward, and no further than to the end of the chain. -/
def Forward (chain : Chain) (readings : Readings ι α) : Prop :=
  ∀ {start : Nat} {way : ι} {value : α} {stop : Nat}, readings start way value stop →
    start ≤ stop ∧ stop ≤ max start chain.size

theorem Forward.length_le {chain : Chain} {readings : Readings ι α} (h : readings.Forward chain)
    {start stop : Nat} {ways : List ι} {values : List α}
    (hmany : readings.many start ways values stop) :
    start + ways.length ≤ stop ∧ stop ≤ max start chain.size := by
  induction hmany with
  | nil start => exact ⟨Nat.le_refl start, Nat.le_max_left _ _⟩
  | cons hfirst _ ih =>
      have hforward := h hfirst.1
      have hlt := Nat.lt_of_le_of_ne hforward.1 (Ne.symm hfirst.2)
      rw [List.length_cons]
      omega

theorem Forward.length_le_remaining {chain : Chain} {readings : Readings ι α}
    (h : readings.Forward chain) {start stop : Nat} {ways : List ι} {values : List α}
    (hmany : readings.many start ways values stop) : ways.length ≤ chain.remaining start := by
  have := h.length_le hmany
  rw [Chain.remaining]
  omega

end Readings

/-! ### Enumerations -/

/-- A list with one element for each way in which a relation relates something. -/
def Enumerates (relation : ι → α → Prop) (elements : List α) : Prop :=
  ∃ readings : List (ι × α), readings.map Prod.snd = elements ∧ (readings.map Prod.fst).Nodup ∧
    ∀ way element, (way, element) ∈ readings ↔ relation way element

namespace Enumerates

variable {relation : ι → α → Prop} {elements : List α}

/-- An enumeration is one in an order that takes any way before any other. -/
theorem iff_inAnyOrder :
    Enumerates relation elements ↔ EnumeratesIn (fun _ _ => True) relation elements := by
  simp [Enumerates, EnumeratesIn, List.Nodup, List.pairwise_map]

theorem of_order {order : ι → ι → Prop} (h : EnumeratesIn order relation elements) :
    Enumerates relation elements :=
  iff_inAnyOrder.2 (h.imp fun _ _ _ _ _ _ _ => trivial)

theorem nil (hnone : ∀ way element, ¬ relation way element) : Enumerates relation [] :=
  iff_inAnyOrder.2 (.nil hnone)

theorem singleton (way : ι) (element : α)
    (honly : ∀ way' element', relation way' element' ↔ way' = way ∧ element' = element) :
    Enumerates relation [element] :=
  iff_inAnyOrder.2 (.singleton way element honly)

theorem congr {other : ι → α → Prop} (h : Enumerates relation elements)
    (hiff : ∀ way element, other way element ↔ relation way element) :
    Enumerates other elements :=
  iff_inAnyOrder.2 ((iff_inAnyOrder.1 h).congr hiff)

theorem reverse (h : Enumerates relation elements) : Enumerates relation elements.reverse :=
  iff_inAnyOrder.2 (iff_inAnyOrder.1 h).reverse

theorem append {other both : ι → α → Prop} {others : List α} (h : Enumerates relation elements)
    (h' : Enumerates other others)
    (hdisjoint : ∀ way element element', relation way element → ¬ other way element')
    (hboth : ∀ way element, both way element ↔ relation way element ∨ other way element) :
    Enumerates both (elements ++ others) := by
  refine iff_inAnyOrder.2 ((iff_inAnyOrder.1 h).append (iff_inAnyOrder.1 h') ?_ hboth)
  rintro way _ element element' hrelation hother
  refine ⟨?_, trivial⟩
  rintro rfl
  exact hdisjoint way element element' hrelation hother

theorem map {image : κ → β → Prop} (h : Enumerates relation elements) {f : ι → κ}
    (hf : Function.Injective f) (g : α → β)
    (himage : ∀ way' element', image way' element' ↔
      ∃ way element, relation way element ∧ way' = f way ∧ element' = g element) :
    Enumerates image (elements.map g) :=
  iff_inAnyOrder.2 ((iff_inAnyOrder.1 h).map hf g (fun _ _ h => h) himage)

theorem filter {kept : ι → α → Prop} (h : Enumerates relation elements) (p : α → Bool)
    (hkept : ∀ way element, kept way element ↔ relation way element ∧ p element) :
    Enumerates kept (elements.filter p) :=
  iff_inAnyOrder.2 ((iff_inAnyOrder.1 h).filter p hkept)

theorem collected {inner : α → κ → γ → Prop} {post : α → List Diagnostic → β → Prop}
    {g : β → List γ} (himp : ∀ a misses b, post a misses b → Enumerates (inner a) (g b))
    {as : List α} {misses : List Diagnostic} {bs : List β} (h : Enumerates relation as)
    (hparts : Collected post as misses bs) :
    Enumerates (fun way : ι × κ => fun c => ∃ a, relation way.1 a ∧ inner a way.2 c)
      (bs.flatMap g) :=
  .of_order ((iff_inAnyOrder.1 h).collected
    (fun a misses b hpost => iff_inAnyOrder.1 (himp a misses b hpost)) hparts)

theorem eq_nil_iff (h : Enumerates relation elements) :
    elements = [] ↔ ∀ way element, ¬ relation way element := by
  obtain ⟨readings, rfl, _, hmem⟩ := h
  rw [List.map_eq_nil_iff, List.eq_nil_iff_forall_not_mem]
  simp only [← hmem, Prod.forall]

theorem exists_of_mem (h : Enumerates relation elements) {element : α}
    (helement : element ∈ elements) : ∃ way, relation way element := by
  obtain ⟨readings, rfl, _, hmem⟩ := h
  obtain ⟨⟨way, _⟩, hreading, rfl⟩ := List.mem_map.1 helement
  exact ⟨way, (hmem _ _).1 hreading⟩

theorem mem_of_relation (h : Enumerates relation elements) {way : ι} {element : α}
    (hrelation : relation way element) : element ∈ elements := by
  obtain ⟨readings, rfl, _, hmem⟩ := h
  exact List.mem_map.2 ⟨_, (hmem _ _).2 hrelation, rfl⟩

end Enumerates

end TokenGrammar
