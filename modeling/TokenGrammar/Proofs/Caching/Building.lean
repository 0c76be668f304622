import TokenGrammar.Proofs.Faults
import TokenGrammar.Proofs.Caching.Mirroring
import TokenGrammar.Proofs.Roots

/-!
# Building alike

Linking depends on nothing but what names are bound to. So two parts of which one keeps less are
built alike at any two times between which no name is bound anew: if the second was built once, the
first can be built now, and what is built is mirrored by what was built then. This is how a part
that is built again gives the same as what the other workspace kept.
-/

namespace TokenGrammar

namespace Workspace

/-- Whether names are bound alike in two workspaces, the second of which keeps more. -/
structure BindsAlike (image? : Nat → Option Nat) (body? : Nat → Option Grammar)
    (plain cached : Workspace) : Prop where
  rules : plain.rules = cached.rules
  moduleNames : plain.moduleNames = cached.moduleNames
  parsers : Named (Grammar.Mirrors image? body?) plain.parsers cached.parsers
  productionIndex? : ∀ module name,
    plain.productionIndex? module name = cached.productionIndex? module name
  free : ∀ place, plain.cells.size ≤ place → image? place = none

/-- A wider image, which maps the cells of some new parts as well. -/
structure Widens (image? image'? : Nat → Option Nat) (body? : Nat → Option Grammar)
    (plain : Workspace) (bodies : List Grammar) : Prop where
  le : ∀ place place', image? place = some place' → image'? place = some place'
  fresh : ∀ place place', image'? place = some place' → image? place = some place' ∨
    ∃ body body', plain.cells.size ≤ place ∧ bodies[place - plain.cells.size]? = some body ∧
      body? place' = some body' ∧ body.LessCached body'

namespace Widens

variable {image? image'? image''? : Nat → Option Nat} {body? : Nat → Option Grammar}
  {plain : Workspace} {bodies later : List Grammar}

theorem refl (image? : Nat → Option Nat) (body? : Nat → Option Grammar) (plain : Workspace) :
    Widens image? image? body? plain [] :=
  ⟨fun _ _ h => h, fun _ _ h => .inl h⟩

theorem openCell (hfree : image? plain.cells.size = none) {body body' : Grammar} {place' : Nat}
    (hbody : body? place' = some body') (hless : body.LessCached body') :
    Widens image? (fun place => if place = plain.cells.size then some place' else image? place)
      body? plain [body] := by
  refine ⟨fun place found hplace => ?_, fun place found hplace => ?_⟩
  · rw [if_neg, hplace]
    rintro rfl
    rw [hfree] at hplace
    cases hplace
  · split at hplace
    · subst place
      cases hplace
      exact .inr ⟨body, body', Nat.le_refl _, by simp, hbody, hless⟩
    · exact .inl hplace

theorem trans (h : Widens image? image'? body? plain bodies)
    (h' : Widens image'? image''? body? (plain.openCells bodies) later) :
    Widens image? image''? body? plain (bodies ++ later) := by
  refine ⟨fun place place' hplace => h'.le _ _ (h.le _ _ hplace), fun place place' hplace => ?_⟩
  rcases h'.fresh _ _ hplace with hplace | ⟨body, body', hle, hbody, hbody', hless⟩
  · refine (h.fresh _ _ hplace).imp_right ?_
    rintro ⟨body, body', hle, hbody, hbody', hless⟩
    have hlt := (List.getElem?_eq_some_iff.1 hbody).1
    exact ⟨body, body', hle, by rwa [List.getElem?_append_left hlt], hbody', hless⟩
  · have hsize : (plain.openCells bodies).cells.size = plain.cells.size + bodies.length := by
      simp [openCells]
    rw [hsize] at hle hbody
    refine .inr ⟨body, body', by omega, ?_, hbody', hless⟩
    rw [List.getElem?_append_right (by omega), Nat.sub_sub]
    exact hbody

end Widens

namespace BindsAlike

variable {image? image'? : Nat → Option Nat} {body? : Nat → Option Grammar}
  {plain cached : Workspace}

theorem siblingsAt (h : BindsAlike image? body? plain cached) (home? : Option Nat) :
    plain.siblingsAt home? = cached.siblingsAt home? := by
  funext name
  cases home? with
  | none => rfl
  | some home => simp [Workspace.siblingsAt, Workspace.siblings, h.productionIndex?]

theorem bound? (h : BindsAlike image? body? plain cached) (home? : Option Nat) (name : Name) :
    Option.Rel (Grammar.Mirrors image? body?) (plain.bound? home? name)
      (cached.bound? home? name) := by
  -- what every name but that of a parser is bound to is a link to something else than a cell
  have hsame : ∀ found? : Option Grammar, (∀ found, found? = some found →
      ∃ target, found = .linked target ∧ ∀ place, target ≠ .cell place) →
      Option.Rel (Grammar.Mirrors image? body?) found? found? := by
    intro found? hlinked
    cases found? with
    | none => exact .none
    | some found =>
        obtain ⟨target, rfl, htarget⟩ := hlinked found rfl
        exact .some (.linked htarget)
  cases name with
  | parser label => exact h.parsers.find? label
  | rule label | handle label =>
      simp only [Workspace.bound?, h.rules]
      refine hsame _ fun found hfound => ?_
      obtain ⟨slot, -, rfl⟩ := Option.map_eq_some_iff.1 hfound
      exact ⟨_, rfl, by simp⟩
  | production owner label =>
      simp only [Workspace.bound?, h.moduleNames, h.productionIndex?]
      refine hsame _ fun found hfound => ?_
      obtain ⟨place, -, hfound⟩ := Option.bind_eq_some_iff.1 hfound
      obtain ⟨index, -, hfound⟩ := Option.bind_eq_some_iff.1 hfound
      cases hfound
      exact ⟨_, rfl, by simp⟩
  | sibling label =>
      simp only [Workspace.bound?, h.siblingsAt]
      refine hsame _ fun found hfound => ?_
      obtain ⟨target, htarget, rfl⟩ := Option.map_eq_some_iff.1 hfound
      obtain ⟨place, index, rfl⟩ := Workspace.exists_reference htarget
      exact ⟨_, rfl, by simp⟩

theorem mono (h : BindsAlike image? body? plain cached) {body'? : Nat → Option Grammar}
    (hbody : ∀ place body, body? place = some body → body'? place = some body) :
    BindsAlike image? body'? plain cached :=
  { h with parsers := h.parsers.imp fun _ _ hparser =>
      hparser.mono (fun _ _ hplace => hplace) hbody }

theorem openCells (h : BindsAlike image? body? plain cached) {bodies : List Grammar}
    (hwidens : Widens image? image'? body? plain bodies) (bodies' : List Grammar) :
    BindsAlike image'? body? (plain.openCells bodies) (cached.openCells bodies') where
  rules := h.rules
  moduleNames := h.moduleNames
  parsers := h.parsers.imp fun _ _ hparser => hparser.mono hwidens.le fun _ _ hbody => hbody
  productionIndex? := h.productionIndex?
  free place hplace := by
    have hsize : (plain.openCells bodies).cells.size = plain.cells.size + bodies.length := by
      simp [Workspace.openCells]
    rw [hsize] at hplace
    by_contra hsome
    obtain ⟨place', hplace'⟩ := Option.ne_none_iff_exists'.1 hsome
    rcases hwidens.fresh _ _ hplace' with hold | ⟨_, _, _, hbody, _⟩
    · rw [h.free place (by omega)] at hold
      cases hold
    · have hlt := (List.getElem?_eq_some_iff.1 hbody).1
      omega

end BindsAlike

end Workspace

/-! ### Linking -/

section Linking

variable {part part' : Grammar} {home? : Option Nat}

/-- Linking opens cells and does nothing else, whether it fails or not. -/
def Run.Opens {α : Type} (run : Run α) : Prop :=
  ∀ before, match run before with
    | .ok _ after | .error _ after => ∃ bodies, after = before.openCells bodies

theorem Run.opens_pure {α : Type} (a : α) : Run.Opens (pure a) := fun before =>
  ⟨[], before.openCells_nil.symm⟩

theorem Run.opens_get : Run.Opens get := fun before => ⟨[], before.openCells_nil.symm⟩

theorem Run.Opens.bind {α β : Type} {run : Run α} {next : α → Run β} (hrun : run.Opens)
    (hnext : ∀ a, (next a).Opens) : (run >>= next).Opens := by
  intro before
  have hfirst := hrun before
  cases hresult : run before with
  | error fault between =>
      rw [Run.bind_of_error hresult]
      rw [hresult] at hfirst
      exact hfirst
  | ok a between =>
      rw [Run.bind_of_ok hresult]
      rw [hresult] at hfirst
      obtain ⟨bodies, rfl⟩ := hfirst
      have hsecond := hnext a (before.openCells bodies)
      cases hlast : next a (before.openCells bodies) <;>
      · rw [hlast] at hsecond
        obtain ⟨bodies', rfl⟩ := hsecond
        exact ⟨bodies ++ bodies', before.openCells_openCells bodies bodies'⟩

theorem Name.resolve_opens (home? : Option Nat) (name : Name) : (name.resolve home?).Opens := by
  intro before
  rw [Name.resolve_eq]
  cases before.bound? home? name <;> exact ⟨[], before.openCells_nil.symm⟩

theorem Grammar.LessCached.link_opens (h : part.LessCached part') (home? : Option Nat) :
    (part'.link home?).Opens := by
  induction h with
  | leaf | reference => exact Run.opens_pure _
  | unary _ ih | traced _ ih => exact ih.bind fun _ => Run.opens_pure _
  | binary _ _ ihfirst ihsecond =>
      exact ihfirst.bind fun _ => ihsecond.bind fun _ => Run.opens_pure _
  | bind _ _ ih => exact ih.bind fun _ => Run.opens_get.bind fun _ => Run.opens_pure _
  | deferred => exact Run.opens_get.bind fun _ => Run.opens_pure _
  | switched | deferredOnce =>
      exact Run.opens_get.bind fun now => Run.opens_get.bind fun _ =>
        Run.Opens.bind (fun before => ⟨[_], before.openCell_eq _⟩) fun _ => Run.opens_pure _
  | @named name => exact name.resolve_opens home?
  | @siblingOr name _ _ _ ih =>
      refine Run.opens_get.bind fun now => ?_
      split
      · exact Run.opens_pure _
      · exact ih

theorem Grammar.LessCached.opens (h : part.LessCached part') {before after : Workspace}
    {built : Grammar} (hlink : part'.link home? before = .ok built after) :
    ∃ bodies, after = before.openCells bodies := by
  have hopens := h.link_opens home? before
  rwa [hlink] at hopens

theorem Grammar.LessCached.opens_of_fails (h : part.LessCached part') {before after : Workspace}
    {fault : Fault} (hlink : part'.link home? before = .error fault after) :
    ∃ bodies, after = before.openCells bodies := by
  have hopens := h.link_opens home? before
  rwa [hlink] at hopens

/-- That a run in the plainer workspace builds what is mirrored by a grammar that was built in the
other one. -/
def Run.BuildsLike (image? : Nat → Option Nat) (body? : Nat → Option Grammar) (plain : Workspace)
    (run : Run Grammar) (built' : Grammar) : Prop :=
  ∃ built bodies image'?, run plain = .ok built (plain.openCells bodies) ∧
    Workspace.Widens image? image'? body? plain bodies ∧ built.Mirrors image'? body? built'

section BuildsLike

variable {image? : Nat → Option Nat} {body? : Nat → Option Grammar} {plain : Workspace}
  {run : Run Grammar} {next : Grammar → Run Grammar} {built built' last' : Grammar}

theorem Run.BuildsLike.pure (h : built.Mirrors image? body? built') :
    Run.BuildsLike image? body? plain (Pure.pure built) built' :=
  ⟨built, [], image?, by rw [Workspace.openCells_nil]; rfl, .refl image? body? plain, h⟩

theorem Run.BuildsLike.bind (h : run.BuildsLike image? body? plain built')
    (hnext : ∀ {built bodies image'?}, Workspace.Widens image? image'? body? plain bodies →
      built.Mirrors image'? body? built' →
      (next built).BuildsLike image'? body? (plain.openCells bodies) last') :
    (run >>= next).BuildsLike image? body? plain last' := by
  obtain ⟨built, bodies, image'?, hrun, hwidens, hmirrors⟩ := h
  obtain ⟨last, later, image''?, hrun', hwidens', hmirrors'⟩ := hnext hwidens hmirrors
  refine ⟨last, bodies ++ later, image''?, ?_, hwidens.trans hwidens', hmirrors'⟩
  rw [← Workspace.openCells_openCells]
  exact (Run.bind_of_ok hrun).trans hrun'

theorem Run.BuildsLike.openCell (hfree : image? plain.cells.size = none) {body body' : Grammar}
    {place' : Nat} (hbody : body? place' = some body') (hless : body.LessCached body')
    (hrun : run plain = .ok (.linked (.cell plain.cells.size)) (plain.openCell body)) :
    run.BuildsLike image? body? plain (.linked (.cell place')) := by
  rw [Workspace.openCell_eq] at hrun
  exact ⟨_, [body], _, hrun, .openCell hfree hbody hless, .cell (by simp)⟩

theorem Run.BuildsLike.resolve {cached : Workspace} (hbinds : plain.BindsAlike image? body? cached)
    {name : Name} (hbound' : cached.bound? home? name = some built') :
    (name.resolve home?).BuildsLike image? body? plain built' := by
  have hbound := hbinds.bound? home? name
  rw [hbound'] at hbound
  cases hfound : plain.bound? home? name with
  | none =>
      rw [hfound] at hbound
      cases hbound
  | some built =>
      rw [hfound] at hbound
      cases hbound with
      | some hmirrors =>
          refine ⟨built, [], image?, ?_, .refl image? body? plain, hmirrors⟩
          rw [Name.resolve_eq, hfound, Workspace.openCells_nil]

end BuildsLike

/-- **What a part built once is what the part that keeps less builds now**, by induction on the
parts. -/
theorem Grammar.LessCached.link_mirrors (h : part.LessCached part') :
    ∀ {image? : Nat → Option Nat} {body? : Nat → Option Grammar} {plain cached cached' : Workspace}
      {built' : Grammar}, plain.BindsAlike image? body? cached →
      part'.link home? cached = .ok built' cached' →
      (∀ place body, cached'.body? place = some body → body? place = some body) →
      (part.link home?).BuildsLike image? body? plain built' := by
  induction h with
  | leaf =>
      intro image? body? plain cached cached' built' hbinds hlink hgrows
      cases linksTo_of_link hlink
      exact .pure .leaf
  | reference =>
      intro image? body? plain cached cached' built' hbinds hlink hgrows
      cases linksTo_of_link hlink
      exact .pure (.linked (by simp))
  | unary _ ih =>
      intro image? body? plain cached cached' built' hbinds hlink hgrows
      cases linksTo_of_link hlink with
      | unary hpart => exact (ih hbinds hpart hgrows).bind fun _ hmirrors => .pure (.unary hmirrors)
  | traced _ ih =>
      intro image? body? plain cached cached' built' hbinds hlink hgrows
      cases linksTo_of_link hlink with
      | traced hpart =>
          exact (ih hbinds hpart hgrows).bind fun _ hmirrors => .pure (.traced hmirrors)
  | binary hfirst hsecond ihfirst ihsecond =>
      intro image? body? plain cached cached' built' hbinds hlink hgrows
      cases linksTo_of_link hlink with
      | binary hlink₁ hlink₂ =>
          obtain ⟨bodies₁, rfl⟩ := hfirst.opens hlink₁
          obtain ⟨bodies₂, rfl⟩ := hsecond.opens hlink₂
          refine (ihfirst hbinds hlink₁ fun place body hbody =>
            hgrows _ _ (Workspace.grows_openCells _ bodies₂ place body hbody)).bind ?_
          intro _ _ _ hwidens hmirrors₁
          refine (ihsecond (hbinds.openCells hwidens bodies₁) hlink₂ hgrows).bind ?_
          exact fun hwidens' hmirrors₂ =>
            .pure (.binary (hmirrors₁.mono hwidens'.le fun _ _ h => h) hmirrors₂)
  | @bind part part' next next' hpart hnext ih _ =>
      intro image? body? plain cached cached' built' hbinds hlink hgrows
      cases linksTo_of_link hlink with
      | bind hlink₁ =>
          obtain ⟨bodies', rfl⟩ := hpart.opens hlink₁
          refine (ih hbinds hlink₁ hgrows).bind fun _ hmirrors => ?_
          refine Run.BuildsLike.pure (.bind hmirrors fun value => ?_)
          show ((next.anchor (plain.siblingsAt home?)).select value).LessCached
            ((next'.anchor (cached.siblingsAt home?)).select value)
          rw [hbinds.siblingsAt, Selector.select_anchor, Selector.select_anchor]
          exact (hnext value).anchor cached home?
  | deferred hpart =>
      intro image? body? plain cached cached' built' hbinds hlink hgrows
      cases linksTo_of_link hlink
      refine Run.BuildsLike.pure (.deferred ?_)
      rw [hbinds.siblingsAt]
      exact hpart.anchor cached home?
  | switched hpart =>
      intro image? body? plain cached cached' built' hbinds hlink hgrows
      cases linksTo_of_link hlink
      refine Run.BuildsLike.pure (.kept (hgrows _ _ (cached.body?_openCell_self _)) ?_)
      rw [hbinds.siblingsAt]
      exact hpart.anchor cached home?
  | deferredOnce hpart =>
      intro image? body? plain cached cached' built' hbinds hlink hgrows
      cases linksTo_of_link hlink
      refine .openCell (hbinds.free _ (Nat.le_refl _))
        (hgrows _ _ (cached.body?_openCell_self _)) ?_ rfl
      rw [hbinds.siblingsAt]
      exact hpart.anchor cached home?
  | named =>
      intro image? body? plain cached cached' built' hbinds hlink hgrows
      cases linksTo_of_link hlink with
      | named hbound => exact .resolve hbinds hbound
  | siblingOr _ ih =>
      intro image? body? plain cached cached' built' hbinds hlink hgrows
      rw [Run.BuildsLike, Grammar.link_siblingOr, hbinds.siblingsAt]
      cases linksTo_of_link hlink with
      | otherwise hnone hbuilt =>
          rw [hnone]
          exact ih hbinds hbuilt hgrows
      | sibling hsibling =>
          rw [hsibling]
          obtain ⟨place, index, rfl⟩ := Workspace.exists_reference hsibling
          exact Run.BuildsLike.pure (.linked (by simp))

/-- A part cannot be built where one that keeps more cannot, and for the same reason. -/
theorem Grammar.LessCached.link_fails (h : part.LessCached part') :
    ∀ {image? : Nat → Option Nat} {body? : Nat → Option Grammar} {plain cached cached' : Workspace}
      {fault : Fault}, plain.BindsAlike image? body? cached →
      part'.link home? cached = .error fault cached' →
      (∀ place body, cached'.body? place = some body → body? place = some body) →
      ∃ bodies, part.link home? plain = .error fault (plain.openCells bodies) := by
  induction h with
  | leaf | reference =>
      intro image? body? plain cached cached' fault hbinds hlink hgrows
      cases hlink
  | unary _ ih | traced _ ih =>
      intro image? body? plain cached cached' fault hbinds hlink hgrows
      have hpart := Run.error_of_bind_pure hlink
      obtain ⟨bodies, hfails⟩ := ih hbinds hpart hgrows
      exact ⟨bodies, Run.bind_of_error hfails⟩
  | binary hfirst hsecond ihfirst ihsecond =>
      intro image? body? plain cached cached' fault hbinds hlink hgrows
      obtain hlink₁ | ⟨built₁, between, hlink₁, hlink⟩ := Run.bind_eq_error_iff.1 hlink
      · obtain ⟨bodies, hfails⟩ := ihfirst hbinds hlink₁ hgrows
        exact ⟨bodies, Run.bind_of_error hfails⟩
      · have hlink₂ := Run.error_of_bind_pure hlink
        obtain ⟨bodies₁, rfl⟩ := hfirst.opens hlink₁
        obtain ⟨bodies₂, rfl⟩ := hsecond.opens_of_fails hlink₂
        obtain ⟨_, bodies, _, hrun, hwidens, -⟩ :=
          hfirst.link_mirrors hbinds hlink₁ fun place body hbody =>
            hgrows _ _ (Workspace.grows_openCells _ bodies₂ place body hbody)
        obtain ⟨later, hfails⟩ := ihsecond (hbinds.openCells hwidens bodies₁) hlink₂ hgrows
        refine ⟨bodies ++ later, (Run.bind_of_ok hrun).trans ?_⟩
        rw [← Workspace.openCells_openCells]
        exact Run.bind_of_error hfails
  | bind _ _ ih =>
      intro image? body? plain cached cached' fault hbinds hlink hgrows
      have hpart := Run.error_of_bind (by rintro _ _ ⟨⟩) hlink
      obtain ⟨bodies, hfails⟩ := ih hbinds hpart hgrows
      exact ⟨bodies, Run.bind_of_error hfails⟩
  | deferred | switched | deferredOnce =>
      intro image? body? plain cached cached' fault hbinds hlink hgrows
      cases hlink
  | @named name =>
      intro image? body? plain cached cached' fault hbinds hlink hgrows
      have hresolve : name.resolve home? cached = .error fault cached' := hlink
      have hbound := hbinds.bound? home? name
      rw [Name.resolve_eq] at hresolve
      cases hfound : cached.bound? home? name with
      | some found =>
          rw [hfound] at hresolve
          cases hresolve
      | none =>
          rw [hfound] at hbound hresolve
          cases hresolve
          refine ⟨[], ?_⟩
          show name.resolve home? plain = _
          cases hplain : plain.bound? home? name with
          | none => rw [Name.resolve_eq, hplain, Workspace.openCells_nil]
          | some found =>
              rw [hplain] at hbound
              cases hbound
  | @siblingOr name otherwise otherwise' _ ih =>
      intro image? body? plain cached cached' fault hbinds hlink hgrows
      rw [Grammar.link_siblingOr] at hlink
      rw [Grammar.link_siblingOr, hbinds.siblingsAt]
      cases htarget : cached.siblingsAt home? name with
      | none =>
          rw [htarget] at hlink
          exact ih hbinds hlink hgrows
      | some target =>
          rw [htarget] at hlink
          cases hlink

/-- What is built keeps nothing but cells and what names keep. -/
theorem Grammar.LessCached.link_keeps (h : part.LessCached part') {keepable : Keepable}
    (hcell : keepable.isCell = false) :
    ∀ {before after : Workspace} {built : Grammar}, part'.link home? before = .ok built after →
      keepable ∈ built.keeps → before.isKeptByName keepable := by
  induction h with
  | leaf | reference | deferred =>
      intro before after built hlink hkeeps
      cases linksTo_of_link hlink
      cases hkeeps
  | unary _ ih =>
      intro before after built hlink hkeeps
      cases linksTo_of_link hlink with
      | unary hpart => exact ih hpart hkeeps
  | traced _ ih =>
      intro before after built hlink hkeeps
      cases linksTo_of_link hlink with
      | traced hpart => exact ih hpart hkeeps
  | bind _ _ ih =>
      intro before after built hlink hkeeps
      cases linksTo_of_link hlink with
      | bind hpart => exact ih hpart hkeeps
  | binary hfirst _ ihfirst ihsecond =>
      intro before after built hlink hkeeps
      cases linksTo_of_link hlink with
      | binary hlink₁ hlink₂ =>
          obtain ⟨bodies, rfl⟩ := hfirst.opens hlink₁
          rcases List.mem_append.1 hkeeps with hkeeps | hkeeps
          · exact ihfirst hlink₁ hkeeps
          · have hkept := ihsecond hlink₂ hkeeps
            exact hkept
  | switched | deferredOnce =>
      intro before after built hlink hkeeps
      cases linksTo_of_link hlink
      rw [List.mem_singleton.1 hkeeps] at hcell
      cases hcell
  | named =>
      intro before after built hlink hkeeps
      cases linksTo_of_link hlink with
      | named hbound => exact Workspace.isKeptByName_of_bound? hbound hkeeps
  | siblingOr _ ih =>
      intro before after built hlink hkeeps
      cases linksTo_of_link hlink with
      | otherwise _ hbuilt => exact ih hbuilt hkeeps
      | sibling hsibling =>
          obtain ⟨place, index, rfl⟩ := Workspace.exists_reference hsibling
          cases hkeeps

end Linking

end TokenGrammar
