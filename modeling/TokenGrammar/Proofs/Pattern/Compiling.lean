import TokenGrammar.Proofs.Searching

/-!
# Programs find what patterns describe

A search walks through the code of a program, step by step, from the entry to a place that accepts.
A part of a pattern is compiled towards the place that follows it, so a walk that comes to its entry
comes to that place later, and the part describes what it has read by then. Code that is laid out is
not changed later, but for the fork of a loop, which is known only when its body is there.
-/

namespace TokenGrammar

namespace Code

/-! ### Walks -/

/-- A step of a thread, from a place of the code and a position of the input to others. -/
inductive Step (code : Code) (input : List Char) : Nat → Nat → Nat → Nat → Prop
  | reads {place position next : Nat} {members : CharSet} {c : Char}
      (hinstruction : code[place]? = some (.consume members next))
      (hc : input[position]? = some c) (hmember : members.contains c = true) :
      Step code input place position next (position + 1)
  | looks {place position next : Nat} {condition : Look}
      (hinstruction : code[place]? = some (.look condition next))
      (hcondition : condition.holdsAt input position = true) :
      Step code input place position next position
  | prefers {place position preferred other : Nat}
      (hinstruction : code[place]? = some (.fork preferred other)) :
      Step code input place position preferred position
  | resorts {place position preferred other : Nat}
      (hinstruction : code[place]? = some (.fork preferred other)) :
      Step code input place position other position

inductive Walk (code : Code) (input : List Char) : Nat → Nat → Nat → Nat → Nat → Prop
  | stay {place position : Nat} : Walk code input 0 place position place position
  | step {steps place position place' position' last stop : Nat}
      (hstep : Step code input place position place' position')
      (hwalk : Walk code input steps place' position' last stop) :
      Walk code input (steps + 1) place position last stop

variable {code : Code} {input : List Char}

theorem Walk.concat {steps place position last stop last' stop' : Nat}
    (h : Walk code input steps place position last stop)
    (hstep : Step code input last stop last' stop') :
    Walk code input (steps + 1) place position last' stop' := by
  induction h with
  | stay => exact .step hstep .stay
  | step hfirst _ ih => exact .step hfirst (ih hstep)

def Ends (code : Code) (input : List Char) (steps place start stop : Nat) : Prop :=
  ∃ last, code.getD last .accept = .accept ∧ Walk code input steps place start last stop

namespace Ends

variable {steps place start stop next : Nat}

theorem exists_step {instruction : Instruction} (h : Ends code input steps place start stop)
    (hinstruction : code[place]? = some instruction) (hne : instruction ≠ .accept) :
    ∃ fewer < steps, ∃ place' start', Step code input place start place' start' ∧
      Ends code input fewer place' start' stop := by
  obtain ⟨last, haccept, hwalk⟩ := h
  cases hwalk with
  | stay =>
      rw [Array.getD_eq_getD_getElem?, hinstruction] at haccept
      exact absurd haccept hne
  | @step fewer _ _ place' start' _ _ hstep hwalk =>
      exact ⟨fewer, Nat.lt_succ_self _, place', start', hstep, last, haccept, hwalk⟩

theorem of_consume {members : CharSet} (h : Ends code input steps place start stop)
    (hinstruction : code[place]? = some (.consume members next)) :
    ∃ fewer < steps, (∃ c, input[start]? = some c ∧ members.contains c = true) ∧
      Ends code input fewer next (start + 1) stop := by
  obtain ⟨fewer, hfewer, place', start', hstep, hends⟩ := h.exists_step hinstruction nofun
  cases hstep with
  | reads hthis hc hmember =>
      cases hinstruction.symm.trans hthis
      exact ⟨fewer, hfewer, ⟨_, hc, hmember⟩, hends⟩
  | looks hthis | prefers hthis | resorts hthis => cases hinstruction.symm.trans hthis

theorem of_look {condition : Look} (h : Ends code input steps place start stop)
    (hinstruction : code[place]? = some (.look condition next)) :
    ∃ fewer < steps, condition.holdsAt input start = true ∧
      Ends code input fewer next start stop := by
  obtain ⟨fewer, hfewer, place', start', hstep, hends⟩ := h.exists_step hinstruction nofun
  cases hstep with
  | looks hthis hcondition =>
      cases hinstruction.symm.trans hthis
      exact ⟨fewer, hfewer, hcondition, hends⟩
  | reads hthis | prefers hthis | resorts hthis => cases hinstruction.symm.trans hthis

theorem of_fork {preferred other : Nat} (h : Ends code input steps place start stop)
    (hinstruction : code[place]? = some (.fork preferred other)) :
    ∃ fewer < steps, Ends code input fewer preferred start stop ∨
      Ends code input fewer other start stop := by
  obtain ⟨fewer, hfewer, place', start', hstep, hends⟩ := h.exists_step hinstruction nofun
  cases hstep with
  | prefers hthis =>
      cases hinstruction.symm.trans hthis
      exact ⟨fewer, hfewer, .inl hends⟩
  | resorts hthis =>
      cases hinstruction.symm.trans hthis
      exact ⟨fewer, hfewer, .inr hends⟩
  | reads hthis | looks hthis => cases hinstruction.symm.trans hthis

/-- Whether a choice to go on is greedy does not matter for where walks may go. -/
theorem of_choose {greedy : Bool} {goOn halt : Nat} (h : Ends code input steps place start stop)
    (hinstruction : code[place]? = some (choose greedy goOn halt)) :
    ∃ fewer < steps, Ends code input fewer goOn start stop ∨
      Ends code input fewer halt start stop := by
  cases greedy with
  | true => exact h.of_fork hinstruction
  | false =>
      obtain ⟨fewer, hfewer, hends⟩ := h.of_fork hinstruction
      exact ⟨fewer, hfewer, hends.symm⟩

end Ends

/-! ### From place to place -/

/-- That a walk from a place comes to another one, and what it has read by then is described. -/
def Leads (code : Code) (input : List Char) (describes : Nat → Nat → Prop) (place next : Nat) :
    Prop :=
  ∀ steps start stop, code.Ends input steps place start stop →
    ∃ fewer ≤ steps, ∃ middle, describes start middle ∧ code.Ends input fewer next middle stop

def Follows (first second : Nat → Nat → Prop) (start stop : Nat) : Prop :=
  ∃ middle, first start middle ∧ second middle stop

namespace Leads

variable {describes describes' : Nat → Nat → Prop} {place place' next : Nat}

theorem refl (place : Nat) : code.Leads input (· = ·) place place :=
  fun steps start _ hends => ⟨steps, Nat.le_refl _, start, rfl, hends⟩

theorem imp (h : code.Leads input describes place next)
    (himp : ∀ start stop, describes start stop → describes' start stop) :
    code.Leads input describes' place next := by
  intro steps start stop hends
  obtain ⟨fewer, hfewer, middle, hmiddle, hnext⟩ := h steps start stop hends
  exact ⟨fewer, hfewer, middle, himp _ _ hmiddle, hnext⟩

theorem trans (h : code.Leads input describes place place')
    (h' : code.Leads input describes' place' next) :
    code.Leads input (Follows describes describes') place next := by
  intro steps start stop hends
  obtain ⟨fewer, hfewer, middle, hfirst, hrest⟩ := h steps start stop hends
  obtain ⟨fewer', hfewer', last, hsecond, hnext⟩ := h' fewer middle stop hrest
  exact ⟨fewer', Nat.le_trans hfewer' hfewer, last, ⟨middle, hfirst, hsecond⟩, hnext⟩

theorem of_consume {members : CharSet}
    (hinstruction : code[place]? = some (.consume members next)) :
    code.Leads input (Pattern.char members |>.Describes input) place next := by
  intro steps start stop hends
  obtain ⟨fewer, hfewer, hc, hnext⟩ := hends.of_consume hinstruction
  exact ⟨fewer, Nat.le_of_lt hfewer, start + 1, ⟨hc, rfl⟩, hnext⟩

theorem of_look {condition : Look} (hinstruction : code[place]? = some (.look condition next)) :
    code.Leads input (Pattern.look condition |>.Describes input) place next := by
  intro steps start stop hends
  obtain ⟨fewer, hfewer, hcondition, hnext⟩ := hends.of_look hinstruction
  exact ⟨fewer, Nat.le_of_lt hfewer, start, ⟨hcondition, rfl⟩, hnext⟩

theorem of_choose {greedy : Bool} {goOn halt : Nat}
    (hinstruction : code[place]? = some (choose greedy goOn halt))
    (h : code.Leads input describes goOn next) (h' : code.Leads input describes halt next) :
    code.Leads input describes place next := by
  intro steps start stop hends
  obtain ⟨fewer, hfewer, hgoOn | hhalt⟩ := hends.of_choose hinstruction
  · obtain ⟨last, hlast, hmore⟩ := h fewer start stop hgoOn
    exact ⟨last, by omega, hmore⟩
  · obtain ⟨last, hlast, hmore⟩ := h' fewer start stop hhalt
    exact ⟨last, by omega, hmore⟩

/-- A fork that goes into a part from which walks come back to it. By induction on the number of
steps: a walk that comes back has fewer left. -/
theorem of_loop {greedy : Bool} {entry : Nat}
    (hinstruction : code[place]? = some (choose greedy entry next))
    (h : code.Leads input describes entry place) :
    code.Leads input (fun start stop => ∃ count, Pattern.Iterates describes count start stop)
      place next := by
  intro steps
  induction steps using Nat.strongRecOn with
  | _ steps ih =>
      intro start stop hends
      obtain ⟨fewer, hfewer, hentry | hnext⟩ := hends.of_choose hinstruction
      · obtain ⟨later, hlater, middle, hfirst, hback⟩ := h fewer start stop hentry
        obtain ⟨last, hlast, end', ⟨count, hrest⟩, hnext⟩ := ih later (by omega) middle stop hback
        exact ⟨last, by omega, end', ⟨1 + count, (Pattern.Iterates.one hfirst).append hrest⟩, hnext⟩
      · exact ⟨fewer, Nat.le_of_lt hfewer, start, ⟨0, rfl⟩, hnext⟩

end Leads

/-! ### Code that is laid out towards a place -/

/-- That code was laid out behind other code, with an entry. -/
structure Extends (code : Code) (compiled : Code × Nat) : Prop where
  size_le : code.size ≤ compiled.1.size
  unchanged : ∀ place < code.size, compiled.1[place]? = code[place]?
  entry_lt : compiled.2 < compiled.1.size

def Holds (whole : Code) (first : Nat) (compiled : Code) : Prop :=
  ∀ place, first ≤ place → place < compiled.size → whole[place]? = compiled[place]?

/-- That code was laid out behind other code so that its entry leads to a place of that, in every
program that has it. -/
structure Compiles (input : List Char) (describes : Nat → Nat → Prop) (code : Code) (next : Nat)
    (compiled : Code × Nat) : Prop extends Extends code compiled where
  leads : ∀ whole : Code, whole.Holds code.size compiled.1 →
    whole.Leads input describes compiled.2 next

/-- That a way to lay out code does so for what is described. -/
def Sound (input : List Char) (describes : Nat → Nat → Prop) (body : Code → Nat → Code × Nat) :
    Prop :=
  ∀ code next, next < code.size → Compiles input describes code next (body code next)

variable {whole : Code} {describes describes' : Nat → Nat → Prop} {next : Nat}
  {compiled compiled' : Code × Nat}

namespace Extends

theorem stay (hnext : next < code.size) : Extends code (code, next) :=
  ⟨Nat.le_refl _, fun _ _ => rfl, hnext⟩

theorem trans (h : Extends code compiled) (h' : Extends compiled.1 compiled') :
    Extends code compiled' where
  size_le := Nat.le_trans h.size_le h'.size_le
  unchanged place hplace := by
    rw [h'.unchanged place (Nat.lt_of_lt_of_le hplace h.size_le), h.unchanged place hplace]
  entry_lt := h'.entry_lt

theorem emit (code : Code) (instruction : Instruction) :
    Extends code (code.emit instruction) where
  size_le := by simp [Code.emit]
  unchanged place hplace := by
    rw [Code.emit, Array.getElem?_push_lt hplace, Array.getElem?_eq_getElem hplace]
  entry_lt := by simp [Code.emit]

end Extends

namespace Holds

theorem before {earlier : Code} (h : whole.Holds code.size compiled.1)
    (h' : Extends earlier compiled) : whole.Holds code.size earlier := fun place hle hlt => by
  rw [h place hle (Nat.lt_of_lt_of_le hlt h'.size_le), h'.unchanged place hlt]

theorem behind {later : Code} {first : Nat} (h : whole.Holds first later)
    (hle : first ≤ code.size) : whole.Holds code.size later :=
  fun place hplace => h place (Nat.le_trans hle hplace)

theorem getElem?_emit {instruction : Instruction} {first : Nat} (hle : first ≤ code.size)
    (h : whole.Holds first (code.emit instruction).1) :
    whole[code.size]? = some instruction := by
  rw [h code.size hle (by simp [emit])]
  exact Array.getElem?_push_size

end Holds

namespace Compiles

theorem imp (h : Compiles input describes code next compiled)
    (himp : ∀ start stop, describes start stop → describes' start stop) :
    Compiles input describes' code next compiled :=
  ⟨h.toExtends, fun whole hwhole => (h.leads whole hwhole).imp himp⟩

theorem stay (hnext : next < code.size) : Compiles input (· = ·) code next (code, next) :=
  ⟨.stay hnext, fun _ _ => .refl next⟩

theorem trans (h : Compiles input describes code next compiled)
    (h' : Compiles input describes' compiled.1 compiled.2 compiled') :
    Compiles input (Follows describes' describes) code next compiled' where
  toExtends := h.toExtends.trans h'.toExtends
  leads whole hwhole :=
    (h'.leads whole (hwhole.behind h.size_le)).trans (h.leads whole (hwhole.before h'.toExtends))

theorem emit {instruction : Instruction}
    (h : ∀ whole : Code, whole[code.size]? = some instruction →
      whole.Leads input describes code.size next) :
    Compiles input describes code next (code.emit instruction) :=
  ⟨.emit code instruction, fun whole hwhole => h whole (hwhole.getElem?_emit (Nat.le_refl _))⟩

theorem fork (h : Compiles input describes code next compiled)
    (h' : Compiles input describes' compiled.1 next compiled') :
    Compiles input (fun start stop => describes start stop ∨ describes' start stop) code next
      (compiled'.1.emit (.fork compiled.2 compiled'.2)) := by
  have hemit := Extends.emit compiled'.1 (.fork compiled.2 compiled'.2)
  refine ⟨(h.toExtends.trans h'.toExtends).trans hemit, fun whole hwhole => ?_⟩
  have hboth : whole.Holds code.size compiled'.1 := hwhole.before hemit
  have hfirst := h.leads whole (hboth.before h'.toExtends)
  have hsecond := h'.leads whole (hboth.behind h.size_le)
  have hfork : whole[compiled'.1.size]? = some (choose true compiled.2 compiled'.2) :=
    hwhole.getElem?_emit (h.toExtends.trans h'.toExtends).size_le
  exact .of_choose hfork (hfirst.imp fun _ _ => .inl) (hsecond.imp fun _ _ => .inr)

end Compiles

/-! ### Parts of patterns -/

theorem eq_of_contains_single {c d : Char} (h : (CharSet.single c).contains d = true) : d = c := by
  obtain ⟨place, hplace, hle, hge⟩ := Text.exists_range_of_coversBetween _ _ _ _ h
  obtain rfl : place = 0 := Nat.lt_one_iff.1 hplace
  exact Char.toNat_inj.1 (Nat.le_antisymm hge hle)

/-- The characters of a text are read one after the other. By induction on the text, whose first
character is laid out last. -/
theorem sound_text (content : List Char) :
    Sound input (Pattern.literal content |>.Describes input) (text content) := by
  induction content with
  | nil =>
      intro code next hnext
      refine (Compiles.stay hnext).imp ?_
      rintro start _ rfl
      exact ⟨List.nil_prefix, rfl⟩
  | cons c content ih =>
      intro code next hnext
      refine ((ih code next hnext).trans (.emit fun _ => Leads.of_consume)).imp ?_
      rintro start _ ⟨_, ⟨⟨d, hd, hmember⟩, rfl⟩, ⟨rest, hrest⟩, rfl⟩
      obtain rfl := eq_of_contains_single hmember
      refine ⟨⟨rest, ?_⟩, by rw [List.length_cons]; omega⟩
      obtain ⟨hlt, hget⟩ := List.getElem?_eq_some_iff.1 hd
      rw [List.drop_eq_getElem_cons hlt, hget, ← hrest, List.cons_append]

variable {body : Code → Nat → Code × Nat}

theorem Sound.copies (h : Sound input describes body) (count : Nat) :
    Sound input (Pattern.Iterates describes count) (Code.copies body count) := by
  induction count with
  | zero => exact fun _ _ hnext => .stay hnext
  | succ count ih =>
      intro code next hnext
      have hbody := h code next hnext
      exact hbody.trans (ih _ _ hbody.entry_lt)

def AtMost (describes : Nat → Nat → Prop) (bound start stop : Nat) : Prop :=
  ∃ count ≤ bound, Pattern.Iterates describes count start stop

/-- Options lead to where they halt. Each is laid out towards what the ones before it lead to, so
this is by induction on their number, whatever the first was laid out towards. -/
theorem Sound.options (h : Sound input describes body) (greedy : Bool) (halt count : Nat) :
    ∀ code next, next < code.size →
      Extends code (Code.options body greedy halt count code next) ∧
      ∀ (whole : Code) (bound : Nat),
        whole.Holds code.size (Code.options body greedy halt count code next).1 →
        whole.Leads input (AtMost describes bound) next halt →
        whole.Leads input (AtMost describes (bound + count))
          (Code.options body greedy halt count code next).2 halt := by
  induction count with
  | zero => exact fun code next hnext => ⟨.stay hnext, fun _ _ _ hleads => hleads⟩
  | succ count ih =>
      intro code next hnext
      have hbody := h code next hnext
      have hemit := Extends.emit (body code next).1 (choose greedy (body code next).2 halt)
      have hfirst := hbody.toExtends.trans hemit
      obtain ⟨hmore, hleads⟩ := ih _ _ hemit.entry_lt
      refine ⟨hfirst.trans hmore, fun whole bound hwhole hnext => ?_⟩
      have hforked : whole.Holds code.size ((body code next).1.emit
          (choose greedy (body code next).2 halt)).1 := hwhole.before hmore
      have hentry := (hbody.leads whole (hforked.before hemit)).trans hnext
      have hfork :
          whole.Leads input (AtMost describes (bound + 1)) (body code next).1.size halt := by
        refine .of_choose (hforked.getElem?_emit hbody.size_le) (hentry.imp ?_)
          ((Leads.refl halt).imp ?_)
        · rintro start stop ⟨middle, hfirst, count, hcount, hrest⟩
          exact ⟨1 + count, by omega, (Pattern.Iterates.one hfirst).append hrest⟩
        · rintro start _ rfl
          exact ⟨0, Nat.zero_le _, rfl⟩
      have hall := hleads whole (bound + 1) (hwhole.behind hfirst.size_le) hfork
      rw [Nat.add_assoc, Nat.add_comm 1 count] at hall
      exact hall

/-- That a loop was laid out, with its entry and its fork: the entry leads to the fork, and the fork
leads to what follows after any number of turns. -/
structure Loops (input : List Char) (describes : Nat → Nat → Prop) (code : Code) (next : Nat)
    (looped : Code × Nat × Nat) : Prop extends Extends code (looped.1, looped.2.1) where
  fork_lt : looped.2.2 < looped.1.size
  back : ∀ whole : Code, whole.Holds code.size looped.1 →
    whole.Leads input describes looped.2.1 looped.2.2
  leaves : ∀ whole : Code, whole.Holds code.size looped.1 →
    whole.Leads input (fun start stop => ∃ count, Pattern.Iterates describes count start stop)
      looped.2.2 next

theorem Sound.loop (h : Sound input describes body) (greedy : Bool) (code : Code) (next : Nat) :
    Loops input describes code next (Code.loop body greedy code next) := by
  have hemit := Extends.emit code .accept
  have hbody := h (code.emit .accept).1 code.size hemit.entry_lt
  generalize hlaidOut : body (code.emit .accept).1 code.size = laidOut at hbody
  have hloop : Code.loop body greedy code next = (laidOut.1.setIfInBounds code.size
      (choose greedy laidOut.2 next), laidOut.2, code.size) := by
    rw [← hlaidOut]
    rfl
  have hfork : code.size < laidOut.1.size := Nat.lt_of_lt_of_le hemit.entry_lt hbody.size_le
  have hsize : (laidOut.1.setIfInBounds code.size (choose greedy laidOut.2 next)).size
      = laidOut.1.size := Array.size_setIfInBounds
  have hback : ∀ whole : Code, whole.Holds code.size
      (laidOut.1.setIfInBounds code.size (choose greedy laidOut.2 next)) →
        whole.Leads input describes laidOut.2 code.size := fun whole hwhole => by
    refine hbody.leads whole fun place hle hlt => ?_
    have hbehind : code.size < place := Nat.lt_of_lt_of_le hemit.entry_lt hle
    rw [hwhole place (Nat.le_of_lt hbehind) (hsize.symm ▸ hlt),
      Array.getElem?_setIfInBounds_ne (Nat.ne_of_lt hbehind)]
  rw [hloop]
  refine ⟨⟨?_, fun place hplace => ?_, ?_⟩, ?_, hback, fun whole hwhole => ?_⟩
  · rw [hsize]
    exact Nat.le_of_lt hfork
  · rw [Array.getElem?_setIfInBounds_ne (Nat.ne_of_gt hplace),
      hbody.unchanged place (Nat.lt_of_lt_of_le hplace hemit.size_le), hemit.unchanged place hplace]
  · rw [hsize]
    exact hbody.entry_lt
  · rw [hsize]
    exact hfork
  · have hpatched : whole[code.size]? = some (choose greedy laidOut.2 next) := by
      rw [hwhole _ (Nat.le_refl _) (hsize.symm ▸ hfork),
        Array.getElem?_setIfInBounds_self_of_lt hfork]
    exact .of_loop hpatched (hback whole hwhole)

theorem Sound.star (h : Sound input describes body) (nullable greedy : Bool) :
    Sound input (fun start stop => ∃ count, Pattern.Iterates describes count start stop)
      (Code.star body nullable greedy) := by
  intro code next _
  have hloop := h.loop greedy code next
  rw [Code.star]
  generalize Code.loop body greedy code next = looped at hloop
  obtain ⟨compiled, entry, fork⟩ := looped
  cases nullable with
  | false => exact ⟨⟨hloop.size_le, hloop.unchanged, hloop.fork_lt⟩, hloop.leaves⟩
  | true =>
      have hemit := Extends.emit compiled (choose greedy entry next)
      refine ⟨hloop.toExtends.trans hemit, fun whole hwhole => ?_⟩
      have hlooped := hwhole.before hemit
      have hentry := (hloop.back whole hlooped).trans (hloop.leaves whole hlooped)
      refine .of_choose (hwhole.getElem?_emit hloop.size_le) (hentry.imp ?_)
        ((Leads.refl next).imp ?_)
      · rintro start stop ⟨middle, hfirst, count, hrest⟩
        exact ⟨1 + count, (Pattern.Iterates.one hfirst).append hrest⟩
      · rintro start _ rfl
        exact ⟨0, rfl⟩

/-- A repetition with a bound: the copies that are required, and then options. -/
theorem Sound.bounded (h : Sound input describes body) (least most : Nat) (greedy : Bool) :
    Sound input (fun start stop => ∃ count, least ≤ count ∧ count ≤ max least most ∧
        Pattern.Iterates describes count start stop)
      fun code next =>
        let (code, entry) := Code.options body greedy next (most - least) code next
        Code.copies body least code entry := by
  intro code next hnext
  obtain ⟨hextends, hleads⟩ := h.options greedy next (most - least) code next hnext
  have hoptions : Compiles input (AtMost describes (most - least)) code next
      (Code.options body greedy next (most - least) code next) := by
    refine ⟨hextends, fun whole hwhole => ?_⟩
    have hhalt : whole.Leads input (AtMost describes 0) next next :=
      (Leads.refl next).imp fun start stop hstart => ⟨0, Nat.le_refl _, hstart⟩
    have hall := hleads whole 0 hwhole hhalt
    rw [Nat.zero_add] at hall
    exact hall
  refine (hoptions.trans (h.copies least _ _ hoptions.entry_lt)).imp ?_
  rintro start stop ⟨middle, hcopies, count, hcount, hrest⟩
  exact ⟨least + count, by omega, by omega, hcopies.append hrest⟩

/-- A repetition without a bound that is required once at least: the last of the copies that are
required is a loop. -/
theorem Sound.unbounded (h : Sound input describes body) (least : Nat) (greedy : Bool) :
    Sound input (fun start stop => ∃ count, least + 1 ≤ count ∧
        Pattern.Iterates describes count start stop)
      fun code next =>
        let (code, entry, _) := Code.loop body greedy code next
        Code.copies body least code entry := by
  intro code next _
  have hloop := h.loop greedy code next
  dsimp only
  generalize Code.loop body greedy code next = looped at hloop
  have hlooped : Compiles input (Follows describes fun start stop =>
      ∃ count, Pattern.Iterates describes count start stop) code next (looped.1, looped.2.1) :=
    ⟨hloop.toExtends,
      fun whole hwhole => (hloop.back whole hwhole).trans (hloop.leaves whole hwhole)⟩
  refine (hlooped.trans (h.copies least _ _ hloop.entry_lt)).imp ?_
  rintro start stop ⟨middle, hcopies, later, hfirst, count, hrest⟩
  exact ⟨least + (1 + count), by omega,
    hcopies.append ((Pattern.Iterates.one hfirst).append hrest)⟩

/-- What is read on the way through the code of a pattern is described by the pattern. -/
theorem sound_add (pattern : Pattern) :
    Sound input (pattern.Describes input) (Code.add pattern) := by
  induction pattern with
  | empty => exact fun _ _ hnext => .stay hnext
  | literal content => exact sound_text content
  | char members => exact fun _ _ _ => .emit fun _ => .of_consume
  | look condition => exact fun _ _ _ => .emit fun _ => .of_look
  | seq first rest ihFirst ihRest =>
      intro code next hnext
      have hrest := ihRest code next hnext
      exact hrest.trans (ihFirst _ _ hrest.entry_lt)
  | choice first rest ihFirst ihRest =>
      intro code next hnext
      have hfirst := ihFirst code next hnext
      exact hfirst.fork (ihRest _ next (Nat.lt_of_lt_of_le hnext hfirst.size_le))
  | capture _ _ body ih => exact ih
  | repeated body least most? greedy ih =>
      intro code next hnext
      cases most? with
      | some most =>
          refine (ih.bounded least most greedy code next hnext).imp ?_
          rintro start stop ⟨count, hleast, hmost, hcount⟩
          exact ⟨count, hleast, fun _ hsame => Option.some.inj hsame ▸ hmost, hcount⟩
      | none =>
          cases least with
          | zero =>
              refine (ih.star body.mayBeEmpty greedy code next hnext).imp ?_
              rintro start stop ⟨count, hcount⟩
              exact ⟨count, Nat.zero_le _, nofun, hcount⟩
          | succ least =>
              refine (ih.unbounded least greedy code next hnext).imp ?_
              rintro start stop ⟨count, hleast, hcount⟩
              exact ⟨count, hleast, nofun, hcount⟩

end Code

namespace Program

theorem getElem?_of_getD {code : Code} {place : Nat} {instruction : Instruction}
    (hinstruction : code.getD place .accept = instruction) (hne : instruction ≠ .accept) :
    code[place]? = some instruction := by
  rw [Array.getD_eq_getD_getElem?] at hinstruction
  cases hplace : code[place]? with
  | none =>
      rw [hplace] at hinstruction
      exact absurd hinstruction.symm hne
  | some other =>
      rw [hplace] at hinstruction
      exact congrArg some hinstruction

theorem invariant_walk (program : Program) (input : List Char) :
    program.Invariant input fun position thread =>
      ∃ steps, program.code.Walk input steps program.entry thread.start thread.place position where
  begins _ _ := ⟨0, .stay⟩
  reads _ _ _ _ _ _ hwalk hinstruction hc hmember := by
    obtain ⟨steps, hwalk⟩ := hwalk
    exact ⟨steps + 1, hwalk.concat (.reads (getElem?_of_getD hinstruction nofun) hc hmember)⟩
  looks _ _ _ _ _ hwalk hinstruction hcondition := by
    obtain ⟨steps, hwalk⟩ := hwalk
    exact ⟨steps + 1, hwalk.concat (.looks (getElem?_of_getD hinstruction nofun) hcondition)⟩
  forks _ _ _ _ _ hwalk hinstruction := by
    obtain ⟨steps, hwalk⟩ := hwalk
    have hfork := getElem?_of_getD hinstruction nofun
    exact ⟨⟨steps + 1, hwalk.concat (.prefers hfork)⟩, ⟨steps + 1, hwalk.concat (.resorts hfork)⟩⟩

/-- **What a search finds is described by the pattern.** The pattern is compiled towards a place
that accepts, and nothing leads on from there. -/
theorem describes_of_find? {pattern : Pattern} {input : List Char} {span : Span}
    (hfind : (Program.ofPattern pattern).find? input = some span) :
    pattern.Describes input span.start span.stop := by
  obtain ⟨_, last, ⟨steps, hwalk⟩, haccept⟩ := (invariant_walk _ input).of_find? hfind
  have hcompiles := (Code.sound_add pattern : Code.Sound input _ _) #[.accept] 0 Nat.zero_lt_one
  obtain ⟨_, _, middle, hmiddle, last', _, hrest⟩ :=
    hcompiles.leads (ofPattern pattern).code (fun _ _ _ => rfl) steps span.start span.stop
      ⟨last, haccept, hwalk⟩
  have hdone : (ofPattern pattern).code[0]? = some .accept := hcompiles.unchanged 0 Nat.zero_lt_one
  cases hrest with
  | stay => exact hmiddle
  | step hstep =>
      cases hstep with
      | reads hthis | looks hthis | prefers hthis | resorts hthis => cases hdone.symm.trans hthis

end Program

end TokenGrammar
