import Mathlib.Order.Monotone.Basic
import TokenGrammar.Proofs.Caching.Worlds

/-!
# Caches and representations

A representation follows the links of a grammar through rules and through cells that were built. It
has an end or it has none, and passing each rule and each cell once is enough to find out. A
workspace that keeps less shows less: where the other one shows what a cell holds, it may show a
part that is not built yet. So a grammar has a representation wherever its mirror image has one.
-/

namespace TokenGrammar

/-- A list that has as many elements of one kind as of a wider kind has no others of the wider
one. -/
private theorem of_countP_eq {α : Type} {p q : α → Bool} {as : List α}
    (himp : ∀ a ∈ as, p a → q a) (hcount : as.countP p = as.countP q) :
    ∀ a ∈ as, q a → p a := by
  induction as with
  | nil => exact fun a ha => nomatch ha
  | cons a as ih =>
      obtain ⟨hhead, htail⟩ := List.forall_mem_cons.1 himp
      have hle : as.countP p ≤ as.countP q := List.countP_mono_left htail
      rw [List.countP_cons, List.countP_cons] at hcount
      refine List.forall_mem_cons.2 ⟨fun hq => ?_, ih htail ?_⟩
      · by_contra hp
        simp only [hp, hq, if_true] at hcount
        simp at hcount
        omega
      · by_cases hp : p a
        · simp only [hp, hhead hp, if_true] at hcount
          omega
        · by_cases hq : q a <;> simp [hp, hq] at hcount <;> omega

theorem Grammar.isSome_text?_imp {linkText? linkText'? : Link → Option String}
    (himp : ∀ target, (linkText? target).isSome → (linkText'? target).isSome) :
    ∀ grammar : Grammar, (grammar.text? linkText?).isSome → (grammar.text? linkText'?).isSome
  | .leaf _, _ | .deferred _, _ | .deferredOnce _, _ | .named _, _ | .siblingOr _ _, _ => rfl
  | .unary _ part, h => by
      rw [Grammar.text?, Option.isSome_map] at h ⊢
      exact part.isSome_text?_imp himp h
  | .bind part _, h => by
      rw [Grammar.text?, Option.isSome_map] at h ⊢
      exact part.isSome_text?_imp himp h
  | .binary operator first second, h => by
      obtain ⟨text, htext⟩ := Option.isSome_iff_exists.1 h
      obtain ⟨firstText, hfirst, htext⟩ := Option.bind_eq_some_iff.1 htext
      obtain ⟨secondText, hsecond, -⟩ := Option.bind_eq_some_iff.1 htext
      have hfirst' := first.isSome_text?_imp himp (by rw [hfirst]; rfl)
      have hsecond' := second.isSome_text?_imp himp (by rw [hsecond]; rfl)
      obtain ⟨_, hfirst'⟩ := Option.isSome_iff_exists.1 hfirst'
      obtain ⟨_, hsecond'⟩ := Option.isSome_iff_exists.1 hsecond'
      simp [Grammar.text?, hfirst', hsecond']
  | .traced _ part, h | .shared _ part, h => part.isSome_text?_imp himp h
  | .linked target, h => himp target h

theorem Grammar.Mirrors.isSome_text? {image? : Nat → Option Nat} {body? : Nat → Option Grammar}
    {linkText? linkText'? : Link → Option String} {grammar grammar' : Grammar}
    (h : grammar.Mirrors image? body? grammar')
    (hlinks : ∀ target target', (Grammar.linked target).Mirrors image? body? (.linked target') →
      (linkText'? target').isSome → (linkText? target).isSome)
    (hshown : (grammar'.text? linkText'?).isSome) : (grammar.text? linkText?).isSome := by
  induction h with
  | leaf | deferred | kept => rfl
  | unary _ ih | bind _ _ ih =>
      rw [Grammar.text?, Option.isSome_map] at hshown ⊢
      exact ih hshown
  | traced _ ih => exact ih hshown
  | binary _ _ ihfirst ihsecond =>
      obtain ⟨text, htext⟩ := Option.isSome_iff_exists.1 hshown
      obtain ⟨firstText, hfirst, htext⟩ := Option.bind_eq_some_iff.1 htext
      obtain ⟨secondText, hsecond, -⟩ := Option.bind_eq_some_iff.1 htext
      obtain ⟨_, hfirst'⟩ := Option.isSome_iff_exists.1 (ihfirst (by rw [hfirst]; rfl))
      obtain ⟨_, hsecond'⟩ := Option.isSome_iff_exists.1 (ihsecond (by rw [hsecond]; rfl))
      simp [Grammar.text?, hfirst', hsecond']
  | cell himage => exact hlinks _ _ (.cell himage) hshown
  | linked htarget => exact hlinks _ _ (.linked htarget) hshown

namespace Workspace

/-- What the representation of a link shows the inside of, if anything. -/
def shown? (workspace : Workspace) : Link → Option Grammar
  | .rule slot => workspace.pattern? slot
  | .cell place => workspace.cellContent? place
  | _ => none

variable {workspace : Workspace} {held : List Grammar}

theorem isSome_linkText?_zero (target : Link) :
    (workspace.linkText? held 0 target).isSome ↔ workspace.shown? target = none := by
  cases target with
  | rule slot =>
      cases hpattern : workspace.pattern? slot <;> simp [linkText?, shown?, hpattern]
  | cell place =>
      cases hbuilt : workspace.cellContent? place <;> simp [linkText?, shown?, hbuilt]
  | handle slot => simp [linkText?, shown?]
  | production module index => simp [linkText?, shown?]
  | reference module index =>
      unfold linkText?
      split <;> simp [shown?]

theorem isSome_linkText?_succ (hops : Nat) (target : Link) :
    (workspace.linkText? held (hops + 1) target).isSome ↔
      ∀ content, workspace.shown? target = some content →
        (content.text? (workspace.linkText? held hops)).isSome := by
  cases target with
  | rule slot =>
      cases hpattern : workspace.pattern? slot <;> simp [linkText?, shown?, hpattern]
  | cell place =>
      cases hbuilt : workspace.cellContent? place <;> simp [linkText?, shown?, hbuilt]
  | handle slot => simp [linkText?, shown?]
  | production module index => simp [linkText?, shown?]
  | reference module index =>
      unfold linkText?
      split <;> simp [shown?]

theorem isSome_linkText?_mono {hops hops' : Nat} (hle : hops ≤ hops') (target : Link)
    (h : (workspace.linkText? held hops target).isSome) :
    (workspace.linkText? held hops' target).isSome := by
  have hstep : ∀ hops target, (workspace.linkText? held hops target).isSome →
      (workspace.linkText? held (hops + 1) target).isSome := by
    intro hops
    induction hops with
    | zero =>
        intro target h
        rw [isSome_linkText?_zero] at h
        rw [isSome_linkText?_succ, h]
        exact fun _ hcontent => nomatch hcontent
    | succ hops ih =>
        intro target h
        rw [isSome_linkText?_succ] at h ⊢
        exact fun content hcontent => content.isSome_text?_imp ih (h content hcontent)
  induction hle with
  | refl => exact h
  | step _ ih => exact hstep _ target ih

/-- The links whose representation shows what they lead to. -/
def showing (workspace : Workspace) : List Link :=
  (List.range workspace.slots.size).map .rule ++ (List.range workspace.cells.size).map .cell

theorem mem_showing {target : Link} {content : Grammar}
    (h : workspace.shown? target = some content) : target ∈ workspace.showing := by
  cases target with
  | rule slot =>
      have hslot := Option.join_eq_some_iff.1 h
      simp [showing, (Array.getElem?_eq_some_iff.1 hslot).1]
  | cell place =>
      obtain ⟨cell, hcell, -⟩ := Option.bind_eq_some_iff.1 h
      simp [showing, (Array.getElem?_eq_some_iff.1 hcell).1]
  | handle | production | reference => cases h

def shownWithin (workspace : Workspace) (held : List Grammar) (hops : Nat) : Nat :=
  workspace.showing.countP fun target => (workspace.linkText? held hops target).isSome

theorem isSome_of_shownWithin_eq {hops hops' : Nat} (hle : hops ≤ hops')
    (hcount : workspace.shownWithin held hops = workspace.shownWithin held hops') (target : Link)
    (h : (workspace.linkText? held hops' target).isSome) :
    (workspace.linkText? held hops target).isSome := by
  cases hshown : workspace.shown? target with
  | none => exact isSome_linkText?_mono (Nat.zero_le _) target ((isSome_linkText?_zero _).2 hshown)
  | some content =>
      exact of_countP_eq (fun target _ => isSome_linkText?_mono hle target) hcount target
        (mem_showing hshown) h

/-- As many hops as there are rules and cells are enough: a number of hops that shows no more than
one hop less shows all there is to show. -/
theorem isSome_linkText?_of_hops {hops : Nat} {target : Link}
    (h : (workspace.linkText? held hops target).isSome) :
    (workspace.linkText? held (workspace.slots.size + workspace.cells.size) target).isSome := by
  have hmono : Monotone (workspace.shownWithin held) := fun _ _ hle =>
    List.countP_mono_left fun target _ => isSome_linkText?_mono hle target
  have hbound : ∀ hops,
      workspace.shownWithin held hops ≤ workspace.slots.size + workspace.cells.size := fun hops =>
    List.countP_le_length.trans (by simp [showing])
  have hstable : ∀ hops, workspace.shownWithin held hops = workspace.shownWithin held (hops + 1) →
      workspace.shownWithin held (hops + 1) = workspace.shownWithin held (hops + 2) := by
    intro hops hcount
    refine Nat.le_antisymm (hmono (Nat.le_succ _)) (List.countP_mono_left fun target _ hshown => ?_)
    rw [isSome_linkText?_succ] at hshown ⊢
    intro content hcontent
    exact content.isSome_text?_imp (isSome_of_shownWithin_eq (Nat.le_succ _) hcount)
      (hshown content hcontent)
  rcases Nat.le_total hops (workspace.slots.size + workspace.cells.size) with hle | hle
  · exact isSome_linkText?_mono hle target h
  · have hcount := Nat.stabilises_of_monotone hmono hbound hstable hle
    exact isSome_of_shownWithin_eq hle hcount.symm target h

namespace Mirrors

variable {image? : Nat → Option Nat} {plain cached : Workspace}

theorem shown? (h : Mirrors image? plain cached) {target target' : Link}
    (hmirrors : (Grammar.linked target).Mirrors image? cached.body? (.linked target'))
    {content : Grammar} (hcontent : plain.shown? target = some content) :
    ∃ content', cached.shown? target' = some content' ∧
      content.Mirrors image? cached.body? content' := by
  cases hmirrors with
  | cell himage =>
      obtain ⟨place', built', himage', hbuilt', hmirrors⟩ := h.cells _ content hcontent
      rw [himage] at himage'
      cases himage'
      exact ⟨built', hbuilt', hmirrors⟩
  | linked htarget =>
      cases target with
      | rule slot =>
          have hpattern := h.patterns slot
          rw [show plain.pattern? slot = some content from hcontent] at hpattern
          exact exists_of_rel_some hpattern
      | cell place => exact absurd rfl (htarget place)
      | handle | production | reference => cases hcontent

theorem isSome_text? (h : Mirrors image? plain cached) {held held' : List Grammar} {hops : Nat}
    {grammar grammar' : Grammar} (hmirrors : grammar.Mirrors image? cached.body? grammar')
    (hshown : (grammar'.text? (cached.linkText? held' hops)).isSome) :
    (grammar.text? (plain.linkText? held hops)).isSome := by
  refine hmirrors.isSome_text? ?_ hshown
  clear hmirrors hshown
  induction hops with
  | zero =>
      intro target target' hmirrors hshown
      rw [isSome_linkText?_zero] at hshown ⊢
      by_contra hsome
      obtain ⟨content, hcontent⟩ := Option.ne_none_iff_exists'.1 hsome
      obtain ⟨content', hcontent', -⟩ := h.shown? hmirrors hcontent
      rw [hshown] at hcontent'
      cases hcontent'
  | succ hops ih =>
      intro target target' hmirrors hshown
      rw [isSome_linkText?_succ] at hshown ⊢
      intro content hcontent
      obtain ⟨content', hcontent', hmirrors⟩ := h.shown? hmirrors hcontent
      exact hmirrors.isSome_text? ih (hshown content' hcontent')

/-- **A grammar has a representation where its mirror image has one.** -/
theorem isSome_textOf? (h : Mirrors image? plain cached) {held held' : List Grammar}
    {grammar grammar' : Grammar} (hmirrors : grammar.Mirrors image? cached.body? grammar')
    (hshown : (cached.textOf? held' grammar').isSome) : (plain.textOf? held grammar).isSome :=
  grammar.isSome_text?_imp (fun _ => isSome_linkText?_of_hops) (h.isSome_text? hmirrors hshown)

end Mirrors

end Workspace

end TokenGrammar
