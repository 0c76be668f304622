import TokenGrammar.Proofs.Lifetimes.Upholding
import TokenGrammar.Proofs.Opening
import TokenGrammar.Proofs.Watching

/-!
# Lifetimes in the course of a parse

A parse goes through many moments, one at each step, with the grammars that are held then. Each
leads to the next one, so nothing comes back to life on the way. And the grammar that is parsed at a
step is owned by those that are held: what it keeps is alive, and stays so as long as the step goes
on, also if names are bound anew meanwhile.
-/

namespace TokenGrammar

/-! ### Single steps -/

/-- That all links lead somewhere, and that nothing that is put off keeps anything. -/
structure Workspace.Sound (workspace : Workspace) : Prop where
  wellLinked : workspace.WellLinked
  weak : workspace.PutsOffWeakly

theorem Workspace.Sound.modifyJournal {workspace : Workspace} (h : workspace.Sound)
    (change : Journal → Journal) : (workspace.modifyJournal change).Sound :=
  ⟨(h.wellLinked.modifyJournal change).wellLinked, h.weak.modifyJournal change⟩

/-- That a run leaves the workspace sound and brings nothing back to life. -/
def Run.Proceeds {α : Type} (held : List Grammar) (run : Run α) (before : Workspace)
    (held' : α → List Grammar) (post : α → Workspace → Prop) : Prop :=
  Lands run before
    (fun value after => after.Sound ∧ before.Precedes after ∧
      (⟨held, before⟩ : Moment).Leads ⟨held' value, after⟩ ∧ post value after)
    fun _ after => after.Sound ∧ (⟨held, before⟩ : Moment).Leads ⟨[], after⟩

section Steps

variable {α : Type} {before : Workspace} {held : List Grammar}

theorem Run.proceeds_of {run : Run α} {held' : α → List Grammar}
    {found post : α → Workspace → Prop} (hupholds : Upholds id held run before held' found)
    (hlinks : LinksWell id run before post) (hprecedes : run.Respects Workspace.Precedes) :
    run.Proceeds held before held' fun value after => found value after ∧ post value after := by
  refine .of_results (fun value after hrun => ?_) fun fault after hrun => ?_
  · obtain ⟨hweak, hleads, hfound⟩ := Lands.of_ok hupholds hrun
    obtain ⟨hlinked, hpost⟩ := hlinks.of_ok hrun
    exact ⟨⟨hlinked.wellLinked, hweak⟩, hprecedes before value after hrun, hleads, hfound, hpost⟩
  · obtain ⟨hweak, hleads⟩ := Lands.of_error hupholds hrun
    have hlinked : before.WellLinkedAfter after := Lands.of_error hlinks hrun
    exact ⟨⟨hlinked.wellLinked, hweak⟩, hleads⟩

theorem Run.proceeds_note (h : before.Sound) (held : List Grammar) (change : Journal → Journal)
    (value : α) :
    (modify (·.modifyJournal change) >>= fun _ => pure value : Run α).Proceeds held before
      (fun _ => held) fun _ _ => True :=
  ⟨h.modifyJournal change, (before.appends_modifyJournal change).precedes,
    Moment.leads_modifyJournal held before change, trivial⟩

theorem Run.proceeds_noteEvent (h : before.Sound) (held : List Grammar) (event : TraceEvent) :
    (Run.noteEvent event).Proceeds held before (fun _ => held) fun _ _ => True :=
  Run.proceeds_note h held _ ()

theorem Run.proceeds_enter (h : before.Sound) (held : List Grammar) (label : String)
    (part : Grammar) (start : Cursor) :
    Run.Proceeds held (do
      let text ← Run.demand .unprintable ((← get).textOf? held part)
      Run.noteEvent (.entered label text start)) before (fun _ => held) fun _ _ => True := by
  unfold Run.Proceeds Lands
  rw [Run.get_bind]
  cases before.textOf? held part with
  | none => exact ⟨h, Moment.leads_nil held before⟩
  | some text => exact Run.proceeds_noteEvent h held _

theorem Run.proceeds_parseNoting (h : before.Sound) (held : List Grammar) (matcher : Leaf)
    (chain : Chain) (start : Cursor) :
    Run.Proceeds held (matcher.parseNoting chain start) before (fun _ => held)
      fun _ _ => True := by
  rw [Leaf.parseNoting_eq]
  exact Run.proceeds_note h held _ _

end Steps

/-! ### What can be entered -/

def Visit.moment (visit : Visit) : Moment := ⟨visit.held, visit.before⟩

/-- Whether a grammar was built and can be entered: the grammars that are held own all that it
keeps. -/
structure Workspace.Admits (workspace : Workspace) (held : List Grammar) (grammar : Grammar) :
    Prop where
  stands : grammar.Stands workspace.hasTarget
  weak : grammar.putsOffWeakly
  owned : ∀ keepable ∈ grammar.keeps, workspace.Owns held keepable

namespace Workspace.Admits

variable {workspace later : Workspace} {held : List Grammar} {part : Grammar}

theorem mono (h : workspace.Admits held part) (hprecedes : workspace.Precedes later) :
    later.Admits held part where
  stands := h.stands.imp hprecedes.grown.hasTarget
  weak := h.weak
  owned keepable hkept := (h.owned keepable hkept).mono hprecedes fun _ hmem => hmem

theorem unary {operator : UnaryOperator} (h : workspace.Admits held (.unary operator part)) :
    workspace.Admits held part :=
  ⟨⟨h.stands.isBuilt, (Bool.and_eq_true_iff.1 h.stands.leads).2⟩, h.weak, h.owned⟩

theorem traced {label : String} (h : workspace.Admits held (.traced label part)) :
    workspace.Admits held part :=
  ⟨⟨h.stands.isBuilt, (Bool.and_eq_true_iff.1 h.stands.leads).2⟩, h.weak, h.owned⟩

theorem bind {next : Selector} (h : workspace.Admits held (.bind part next)) :
    workspace.Admits held part :=
  ⟨⟨h.stands.isBuilt,
    (Bool.and_eq_true_iff.1 (Bool.and_eq_true_iff.1 h.stands.leads).1).2⟩,
    (Bool.and_eq_true_iff.1 h.weak).1, h.owned⟩

theorem first {operator : BinaryOperator} {second : Grammar}
    (h : workspace.Admits held (.binary operator part second)) : workspace.Admits held part :=
  ⟨⟨(Bool.and_eq_true_iff.1 h.stands.isBuilt).1,
    (Bool.and_eq_true_iff.1 (Bool.and_eq_true_iff.1 h.stands.leads).1).2⟩,
    (Bool.and_eq_true_iff.1 h.weak).1,
    fun keepable hkept => h.owned keepable (List.mem_append_left _ hkept)⟩

theorem second {operator : BinaryOperator} {first : Grammar}
    (h : workspace.Admits held (.binary operator first part)) : workspace.Admits held part :=
  ⟨⟨(Bool.and_eq_true_iff.1 h.stands.isBuilt).2, (Bool.and_eq_true_iff.1 h.stands.leads).2⟩,
    (Bool.and_eq_true_iff.1 h.weak).2,
    fun keepable hkept => h.owned keepable (List.mem_append_right _ hkept)⟩

theorem of_mem {grammar : Grammar} (hstands : grammar.Stands workspace.hasTarget)
    (hweak : grammar.putsOffWeakly) (hmem : grammar ∈ held) : workspace.Admits held grammar :=
  ⟨hstands, hweak, fun _ hkept => owns_of_mem hmem hkept⟩

end Workspace.Admits

section Opening

variable {before : Workspace} {held : List Grammar}

theorem Link.proceeds_opened (h : before.Sound) {target : Link}
    (hadmits : before.Admits held (.linked target)) :
    (target.opened held).Proceeds held before Prod.fst fun opened after =>
      after.Admits opened.1 opened.2 ∧ ∀ grammar ∈ held, grammar ∈ opened.1 := by
  have hupholds := target.opened_upholds h.wellLinked h.weak fun keepable hkept =>
    (hadmits.owned keepable hkept).isAlive
  have hproceeds := Run.proceeds_of hupholds (target.opened_linksWell held h.wellLinked)
    (target.opened_precedes held)
  refine .of_results (fun opened after hrun => ?_) fun _ _ hrun => Lands.of_error hproceeds hrun
  obtain ⟨hsound, hprecedes, hleads, hweak, hstands⟩ := Lands.of_ok hproceeds hrun
  have howned := Link.owned_of_opened hadmits.owned hstands.leads hrun
  exact ⟨hsound, hprecedes, hleads, ⟨hstands, hweak, howned.content⟩, howned.held⟩

theorem Run.proceeds_partContent (h : before.Sound) {part : Grammar}
    (hadmits : before.Admits held (.deferred part)) :
    (Run.partContent part).Proceeds held before (fun built => built :: held) fun built after =>
      after.Admits (built :: held) built ∧ ∀ grammar ∈ held, grammar ∈ built :: held := by
  have hcovers : before.Covers part := (Bool.and_eq_true_iff.1 hadmits.stands.leads).2
  have hupholds : Upholds id held (Run.partContent part) before _ _ :=
    Run.partContent_upholds h.weak hadmits.weak
  have hproceeds := Run.proceeds_of hupholds (Run.partContent_linksWell h.wellLinked hcovers)
    (Run.partContent_appends part).precedes
  refine Lands.imp hproceeds (fun built after hafter => ?_) fun _ _ hafter => hafter
  obtain ⟨hsound, hprecedes, hleads, hweak, hstands⟩ := hafter
  exact ⟨hsound, hprecedes, hleads, .of_mem hstands hweak List.mem_cons_self,
    fun _ hmem => List.mem_cons_of_mem _ hmem⟩

theorem Run.proceeds_link (h : before.Sound) {grammar : Grammar} (hcovers : before.Covers grammar)
    (hweak : grammar.isWeak) :
    (grammar.link none).Proceeds held before (fun built => built :: held) fun built after =>
      after.Admits (built :: held) built ∧ ∀ grammar ∈ held, grammar ∈ built :: held := by
  have hupholds : Upholds id held (grammar.link none) before _ _ :=
    grammar.link_upholds none h.weak hweak
  have hproceeds := Run.proceeds_of hupholds (grammar.link_linksWell none h.wellLinked hcovers)
    (Run.Respects.precedes (grammar.link_appends none))
  refine Lands.imp hproceeds (fun built after hafter => ?_) fun _ _ hafter => hafter
  obtain ⟨hsound, hprecedes, hleads, hweak, hstands⟩ := hafter
  exact ⟨hsound, hprecedes, hleads, .of_mem hstands hweak List.mem_cons_self,
    fun _ hmem => List.mem_cons_of_mem _ hmem⟩

end Opening

/-! ### Courses -/

def Visit.IsAdmitted (visit : Visit) : Prop :=
  ∀ grammar, visit.subject = .built grammar → visit.before.Admits visit.held grammar

theorem Workspace.Admits.visit {workspace : Workspace} {held : List Grammar} {grammar : Grammar}
    (h : workspace.Admits held grammar) {depth : Nat} {chain : Chain} {start : Cursor} :
    Visit.IsAdmitted ⟨.built grammar, depth, held, chain, start, workspace⟩ := by
  rintro _ ⟨⟩
  exact h

/-- That one gets from a moment to another one through the visits that are noted meanwhile, each of
which could be entered, and that what is held at first is held all along. -/
def Diary.Course (before after : Diary) (held held' : List Grammar) : Prop :=
  ∃ visits : List Visit, after.visits = visits.reverse ++ before.visits ∧
    (⟨held, before.workspace⟩ : Moment).LeadsThrough (visits.map Visit.moment)
      ⟨held', after.workspace⟩ ∧
    ∀ visit ∈ visits, visit.IsAdmitted ∧ ∀ grammar ∈ held, grammar ∈ visit.held

namespace Diary.Course

variable {before between after : Diary} {held held' last : List Grammar}

theorem of_leads (hvisits : after.visits = before.visits)
    (hleads : (⟨held, before.workspace⟩ : Moment).Leads ⟨held', after.workspace⟩) :
    before.Course after held held' :=
  ⟨[], hvisits, hleads, fun _ hmem => nomatch hmem⟩

theorem trans (h : before.Course between held held')
    (hheld : ∀ grammar ∈ held, grammar ∈ held') (h' : between.Course after held' last) :
    before.Course after held last := by
  obtain ⟨visits, hvisits, hthrough, hfirstVisits⟩ := h
  obtain ⟨later, hlater, hthrough', hlaterVisits⟩ := h'
  refine ⟨visits ++ later, ?_, ?_, fun visit hvisit => ?_⟩
  · rw [hlater, hvisits, List.reverse_append, List.append_assoc]
  · rw [List.map_append]
    exact hthrough.append hthrough'
  · obtain hvisit | hvisit := List.mem_append.1 hvisit
    · exact hfirstVisits visit hvisit
    · obtain ⟨hself, hmem⟩ := hlaterVisits visit hvisit
      exact ⟨hself, fun grammar hgrammar => hmem grammar (hheld grammar hgrammar)⟩

theorem note {subject : Subject} {depth : Nat} {chain : Chain} {start : Cursor}
    (hadmitted : Visit.IsAdmitted ⟨subject, depth, held, chain, start, before.workspace⟩) :
    before.Course (before.note subject depth held chain start) held held := by
  refine ⟨[_], rfl, ⟨Moment.Leads.refl _, Moment.Leads.refl _⟩, fun visit hvisit => ?_⟩
  rw [List.mem_singleton.1 hvisit]
  exact ⟨hadmitted, fun _ hmem => hmem⟩

end Diary.Course

namespace Watched

variable {α β : Type}

def Survives (held : List Grammar) (run : Watched α) (before : Diary) (held' : α → List Grammar)
    (post : α → Workspace → Prop) : Prop :=
  Lands run before
    (fun value after => after.workspace.Sound ∧ before.workspace.Precedes after.workspace ∧
      before.Course after held (held' value) ∧ post value after.workspace)
    fun _ after => after.workspace.Sound ∧ before.Course after held []

namespace Survives

variable {held : List Grammar} {before : Diary}

theorem bind {run : Watched α} {next : α → Watched β} {between : α → List Grammar}
    {held' : β → List Grammar} {found : α → Workspace → Prop} {post : β → Workspace → Prop}
    (hrun : Survives held run before between found)
    (hheld : ∀ value now, found value now → ∀ grammar ∈ held, grammar ∈ between value)
    (hnext : ∀ value now, now.workspace.Sound → before.workspace.Precedes now.workspace →
      found value now.workspace → Survives (between value) (next value) now held' post) :
    Survives held (run >>= next) before held' post := by
  refine Lands.bind hrun fun value now hnow => ?_
  obtain ⟨hsound, hprecedes, hcourse, hfound⟩ := hnow
  have hheld := hheld value _ hfound
  refine (hnext value now hsound hprecedes hfound).imp (fun last after hafter => ?_)
    fun _ after hafter => ?_
  · obtain ⟨hsound', hprecedes', hcourse', hpost⟩ := hafter
    exact ⟨hsound', hprecedes.trans hprecedes', hcourse.trans hheld hcourse', hpost⟩
  · exact ⟨hafter.1, hcourse.trans hheld hafter.2⟩

theorem ofRun {run : Run α} {held' : α → List Grammar} {post : α → Workspace → Prop}
    (hrun : run.Proceeds held before.workspace held' post) :
    Survives held (ofRun run) before held' post :=
  lands_ofRun (hrun.imp
    (fun _ _ hafter => ⟨hafter.1, hafter.2.1, .of_leads rfl hafter.2.2.1, hafter.2.2.2⟩)
    fun _ _ hafter => ⟨hafter.1, .of_leads rfl hafter.2⟩)

theorem leave {run : Watched α} {outer : List Grammar} {post : α → Workspace → Prop}
    (hrun : Survives held run before (fun _ => held) post)
    (hheld : ∀ grammar ∈ outer, grammar ∈ held) :
    Survives held run before (fun _ => outer) post := by
  refine Lands.imp hrun (fun value after hafter => ?_) fun _ _ hafter => hafter
  obtain ⟨hsound, hprecedes, ⟨visits, hvisits, hthrough, hadmitted⟩, hpost⟩ := hafter
  refine ⟨hsound, hprecedes, ⟨visits, hvisits, hthrough.leave fun keepable hroot => ?_, hadmitted⟩,
    hpost⟩
  refine Workspace.isRoot_iff.2 ((Workspace.isRoot_iff.1 hroot).imp_left ?_)
  exact fun ⟨grammar, hmem, hkept⟩ => ⟨grammar, hheld grammar hmem, hkept⟩

theorem visit {subject : Subject} {depth : Nat} {p : Parser Watched Value} {chain : Chain}
    {start : Cursor} {post : Outcome Value → Workspace → Prop}
    (hsound : before.workspace.Sound)
    (hadmitted : Visit.IsAdmitted ⟨subject, depth, held, chain, start, before.workspace⟩)
    (hp : before.workspace.Sound →
      Survives held (p chain start) (before.note subject depth held chain start)
        (fun _ => held) post) :
    Survives held (Watched.visit subject depth held p chain start) before (fun _ => held) post := by
  have hnote : before.Course (before.note subject depth held chain start) held held :=
    .note hadmitted
  refine lands_visit ((hp hsound).imp (fun value after hafter => ?_) fun _ after hafter => ?_)
  · obtain ⟨hsound, hprecedes, hcourse, hpost⟩ := hafter
    exact ⟨hsound, hprecedes, hnote.trans (fun _ hmem => hmem) hcourse, hpost⟩
  · exact ⟨hafter.1, hnote.trans (fun _ hmem => hmem) hafter.2⟩

end Survives

def surviving (held : List Grammar) (base : Workspace) : Correspondence Watched Watched where
  Relates run _ := ∀ before : Diary, before.workspace.Sound → base.Precedes before.workspace →
    Survives held run before (fun _ => held) fun _ _ => True
  pure _ _ hsound _ := ⟨hsound, .refl _, .of_leads rfl (Moment.Leads.refl _), trivial⟩
  bind hrun hnext before hsound hbase :=
    (hrun before hsound hbase).bind (fun _ _ _ _ hmem => hmem) fun value now hnow hprecedes _ =>
      hnext value now hnow (hbase.trans hprecedes)

end Watched

namespace Grammar

open Watched (Survives surviving ofRun)

def SurvivesAt (depth : Nat) : Prop :=
  ∀ (held : List Grammar) (grammar : Grammar) (chain : Chain) (start : Cursor) (before : Diary),
    before.workspace.Sound → before.workspace.Admits held grammar →
      Survives held (grammar.watchWithin depth held chain start) before (fun _ => held)
        fun _ _ => True

section Parsing

variable {depth : Nat} {held : List Grammar} {base : Workspace}

theorem SurvivesAt.entering (henter : SurvivesAt depth) {β : Type} {run : Run β}
    {held' : β → List Grammar} {opened : β → Grammar} {before : Diary} {chain : Chain}
    {start : Cursor}
    (hrun : run.Proceeds held before.workspace held' fun value after =>
      after.Admits (held' value) (opened value) ∧ ∀ grammar ∈ held, grammar ∈ held' value) :
    Survives held (ofRun run >>= fun value =>
      (opened value).watchWithin depth (held' value) chain start) before (fun _ => held)
      fun _ _ => True :=
  (Survives.ofRun hrun).bind (fun _ _ hafter => hafter.2) fun value now hsound _ hadmits =>
    (henter (held' value) (opened value) chain start now hsound hadmits.1).leave hadmits.2

theorem watchedParser_survives (henter : SurvivesAt depth) : ∀ grammar : Grammar,
    base.Admits held grammar →
      (surviving held base).Parsers (grammar.watchedParser depth (watchWithin depth) held)
        (grammar.watchedParser depth (watchWithin depth) held)
  | leaf matcher, hadmits => fun chain start before hsound hbase =>
      .visit hsound (hadmits.mono hbase).visit fun hsound =>
        .ofRun (Run.proceeds_parseNoting hsound held matcher chain start)
  | unary operator part, hadmits => fun chain start before hsound hbase =>
      .visit hsound (hadmits.mono hbase).visit fun hsound =>
        (watchedParser_survives henter part hadmits.unary).unary operator chain start _ hsound hbase
  | binary operator first second, hadmits => fun chain start before hsound hbase =>
      .visit hsound (hadmits.mono hbase).visit fun hsound =>
        (watchedParser_survives henter first hadmits.first).binary operator
          (watchedParser_survives henter second hadmits.second) chain start _ hsound hbase
  | bind part next, hadmits => by
      have hnext : next.all (leads base.hasTarget) :=
        (Bool.and_eq_true_iff.1 hadmits.stands.leads).2
      have hweak : next.all (leads Link.isWeak) := (Bool.and_eq_true_iff.1 hadmits.weak).2
      have hselected (value : Value) : (surviving held base).Parsers
          ((Subject.selected (next.select value)).watchedParser depth held)
          ((Subject.selected (next.select value)).watchedParser depth held) := by
        intro chain start before hsound hbase
        rw [Subject.watchedParser]
        refine .visit hsound (fun _ hsubject => nomatch hsubject) fun hsound => ?_
        have hcovers := Selector.all_select (selected_leads _) value hnext
        exact henter.entering (Run.proceeds_link hsound
          (all_imp (leads_imp hbase.grown.hasTarget) _ hcovers)
          (Selector.all_select (selected_leads _) value hweak))
      exact fun chain start before hsound hbase =>
        .visit hsound (hadmits.mono hbase).visit fun hsound =>
          ((watchedParser_survives henter part hadmits.bind).bind hselected) chain start _ hsound
            hbase
  | traced label part, hadmits => by
      refine fun chain start before hsound hbase =>
        .visit hsound (hadmits.mono hbase).visit fun hsound => ?_
      refine Survives.bind (.ofRun (Run.proceeds_enter hsound held label part start))
        (fun _ _ _ _ hmem => hmem) fun _ now hnow hlater _ => ?_
      refine (watchedParser_survives henter part hadmits.traced chain start now hnow
        (hbase.trans hlater)).bind (fun _ _ _ _ hmem => hmem) fun outcome now hnow hlater _ => ?_
      refine (Survives.ofRun (Run.proceeds_noteEvent hnow held _)).bind
        (fun _ _ _ _ hmem => hmem) fun _ after hafter _ _ => ?_
      exact ⟨hafter, .refl _, .of_leads rfl (Moment.Leads.refl _), trivial⟩
  | deferred part, hadmits => fun chain start before hsound hbase =>
      .visit hsound (hadmits.mono hbase).visit fun hsound =>
        henter.entering (Run.proceeds_partContent hsound (hadmits.mono hbase))
  | linked target, hadmits => fun chain start before hsound hbase =>
      .visit hsound (hadmits.mono hbase).visit fun hsound =>
        henter.entering (Link.proceeds_opened hsound (hadmits.mono hbase))
  | named _, hadmits | siblingOr _ _, hadmits | shared _ _, hadmits | deferredOnce _, hadmits =>
      nomatch hadmits.stands.isBuilt

/-- **A parse survives**, by induction on the depth. -/
theorem watchWithin_survives (depth : Nat) : SurvivesAt depth := by
  induction depth with
  | zero => exact fun _ _ _ _ _ hsound _ => ⟨hsound, .of_leads rfl (Moment.leads_nil _ _)⟩
  | succ depth ih => exact fun held grammar chain start before hsound hadmits =>
      watchedParser_survives ih grammar hadmits chain start before hsound (.refl _)

end Parsing

end Grammar

end TokenGrammar
