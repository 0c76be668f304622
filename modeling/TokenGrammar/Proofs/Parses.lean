import TokenGrammar.Proofs.Caching.Histories
import TokenGrammar.Proofs.Watching

/-!
# The parses of sessions

A command that parses links its grammar and parses with what was built. Whatever the command replies
is said by this one parse, and whatever happens in the workspace on the way happens in the visits of
the parse.
-/

namespace TokenGrammar

/-- A parse with a grammar that was built. -/
structure Parse where
  grammar : Grammar
  chain : Chain
  start : Cursor
  before : Workspace

namespace Parse

def result (parse : Parse) : EStateM.Result Fault Workspace (Outcome Value) :=
  parse.grammar.parse parse.chain parse.start parse.before

def visits (parse : Parse) : List Visit :=
  (parse.grammar.visits Grammar.depthLimit [parse.grammar] parse.chain parse.start
    parse.before).reverse

end Parse

/-- What a command parses with: a grammar to be linked, what is made of the grammar that was built,
and the token from which on it is parsed. -/
def Command.parsed? : Command → Option (Grammar × (Grammar → Grammar) × Nat)
  | parse grammar start _ => some (grammar, id, start)
  | trace label grammar start => some (grammar, .traced label, start)
  | _ => none

/-! ### Single steps -/

namespace Step

variable {α β : Type}

theorem ofRun_bind (run : Run α) (next : α → Step β) (session : Session) :
    (ofRun run >>= next) session = match run session.workspace with
      | .ok a after => next a { session with workspace := after }
      | .error fault after => .error (.fault fault) { session with workspace := after } := by
  show EStateM.bind (ofRun run) next session = _
  unfold EStateM.bind ofRun
  cases run session.workspace <;> rfl

theorem slotOf_bind (name : String) (next : Nat → Step α) (session : Session) :
    (slotOf name >>= next) session = match session.workspace.rules.find? name with
      | some slot => next slot session
      | none => .error (.fault (.unbound (.rule name))) session := by
  show (ofRun (Run.demand _ (session.workspace.rules.find? name)) >>= next) session = _
  rw [ofRun_bind]
  cases session.workspace.rules.find? name <;> rfl

theorem moduleOf_bind (name production : String) (next : Nat → Step α) (session : Session) :
    (moduleOf name production >>= next) session
      = match session.workspace.moduleNames.find? name with
        | some place => next place session
        | none => .error (.fault (.unbound (.production name production))) session := by
  show (ofRun (Run.demand _ (session.workspace.moduleNames.find? name)) >>= next) session = _
  rw [ofRun_bind]
  cases session.workspace.moduleNames.find? name <;> rfl

end Step

/-! ### Commands -/

namespace Session

def cleared (session : Session) : Session :=
  { session with workspace := session.workspace.clearJournal }

def attempt (session : Session) (step : Step Reply) : Except Refusal Reply × Session :=
  match step session.cleared with
  | .ok reply session => (.ok reply, session)
  | .error refusal session => (.error refusal, session)

theorem attempt_of_ok {session after : Session} {step : Step Reply} {reply : Reply}
    (h : step session.cleared = .ok reply after) : session.attempt step = (.ok reply, after) := by
  rw [attempt, h]

theorem attempt_of_error {session after : Session} {step : Step Reply} {refusal : Refusal}
    (h : step session.cleared = .error refusal after) :
    session.attempt step = (.error refusal, after) := by
  rw [attempt, h]

theorem attempt_ofRun_bind {α : Type} (session : Session) (run : Run α) (next : α → Step Reply) :
    session.attempt (Step.ofRun run >>= next) = match run session.workspace.clearJournal with
      | .ok a after => match next a { session with workspace := after } with
        | .ok reply session => (.ok reply, session)
        | .error refusal session => (.error refusal, session)
      | .error fault after => (.error (.fault fault), { session with workspace := after }) := by
  rw [attempt, Step.ofRun_bind, cleared]
  cases run session.workspace.clearJournal <;> rfl

theorem attempt_slotOf_bind (session : Session) (name : String) (next : Nat → Step Reply) :
    session.attempt (Step.slotOf name >>= next) = match session.workspace.rules.find? name with
      | some slot => session.attempt (next slot)
      | none => (.error (.fault (.unbound (.rule name))), session.cleared) := by
  rw [attempt, Step.slotOf_bind, show session.cleared.workspace.rules = session.workspace.rules
    from rfl]
  cases session.workspace.rules.find? name <;> rfl

theorem attempt_moduleOf_bind (session : Session) (name production : String)
    (next : Nat → Step Reply) :
    session.attempt (Step.moduleOf name production >>= next)
      = match session.workspace.moduleNames.find? name with
        | some place => session.attempt (next place)
        | none => (.error (.fault (.unbound (.production name production))), session.cleared) := by
  rw [attempt, Step.moduleOf_bind, show session.cleared.workspace.moduleNames
    = session.workspace.moduleNames from rfl]
  cases session.workspace.moduleNames.find? name <;> rfl

def parse? (session : Session) (command : Command) : Option Parse :=
  command.parsed?.bind fun (grammar, wrap, start) =>
    match grammar.link none session.workspace.clearJournal with
    | .error _ _ => none
    | .ok built before => some ⟨wrap built, session.chain, session.chain.cursor start, before⟩

def visits (session : Session) (command : Command) : List Visit :=
  ((session.parse? command).map Parse.visits).getD []

def Each (p : Session → Command → Prop) (session : Session) : List Command → Prop
  | [] => True
  | command :: commands => p session command ∧ Each p (session.perform command).2 commands

theorem Each.of_forall {p : Session → Command → Prop} (h : ∀ session command, p session command)
    (session : Session) (commands : List Command) : session.Each p commands := by
  induction commands generalizing session with
  | nil => trivial
  | cons command commands ih => exact ⟨h session command, ih _⟩

variable {session : Session} {command : Command} {parse : Parse}

theorem parse?_eq_some_iff : session.parse? command = some parse ↔
    ∃ grammar wrap start built before, command.parsed? = some (grammar, wrap, start) ∧
      grammar.link none session.workspace.clearJournal = .ok built before ∧
      parse = ⟨wrap built, session.chain, session.chain.cursor start, before⟩ := by
  constructor
  · intro h
    obtain ⟨⟨grammar, wrap, start⟩, hparsed, hlinked⟩ := Option.bind_eq_some_iff.1 h
    dsimp only at hlinked
    cases hrun : grammar.link none session.workspace.clearJournal with
    | error fault after => simp [hrun] at hlinked
    | ok built before =>
        rw [hrun] at hlinked
        cases hlinked
        exact ⟨grammar, wrap, start, built, before, hparsed, hrun, rfl⟩
  · rintro ⟨grammar, wrap, start, built, before, hparsed, hrun, rfl⟩
    simp [parse?, hparsed, hrun]

theorem parse?_of_link_error {grammar : Grammar} {wrap : Grammar → Grammar} {start : Nat}
    (hparsed : command.parsed? = some (grammar, wrap, start)) {fault : Fault} {after : Workspace}
    (hlink : grammar.link none session.workspace.clearJournal = .error fault after) :
    session.parse? command = none := by
  simp [parse?, hparsed, hlink]

theorem parse?_stored {label : String} {found : Grammar}
    (hfound : session.workspace.parsers.find? label = some found) (start : Nat)
    (represented : Bool) :
    session.parse? (.parse (.named (.parser label)) start represented)
      = some ⟨found, session.chain, session.chain.cursor start,
          session.workspace.clearJournal⟩ := by
  have hlink : (Grammar.named (.parser label)).link none session.workspace.clearJournal
      = .ok found session.workspace.clearJournal := by
    rw [Grammar.link, Name.resolve_eq,
      show session.workspace.clearJournal.bound? none (.parser label) = some found from hfound]
  exact parse?_eq_some_iff.2 ⟨_, _, _, _, _, rfl, hlink, rfl⟩

/-- What is replied to a parse that ended well: its outcome, or that the representation that was
asked for does not exist. -/
def Replies (reply : Outcome Value → Run Reply) : Prop :=
  ∀ outcome after,
    (∃ text?, reply outcome after = .ok (.parsed outcome after.journal.builds.length text?) after) ∨
      reply outcome after = .error .unprintable after

theorem perform_of_parse? (hparse : session.parse? command = some parse) :
    ∃ reply, Replies reply ∧ session.perform command =
      match (parse.grammar.parse parse.chain parse.start >>= reply) parse.before with
      | .ok reply workspace => (.ok reply, { session with workspace })
      | .error fault workspace => (.error (.fault fault), { session with workspace }) := by
  obtain ⟨grammar, wrap, start, built, before, hparsed, hlink, rfl⟩ := parse?_eq_some_iff.1 hparse
  cases command with
  | parse _ _ represented =>
      cases hparsed
      rw [Session.perform_eq rfl (fun _ => Command.noConfusion), Command.reading,
        Run.bind_of_ok hlink]
      refine ⟨_, fun outcome after => ?_, rfl⟩
      cases represented with
      | false => exact .inl ⟨none, rfl⟩
      | true =>
          simp only [if_true, ← bind_pure_comp, bind_assoc, pure_bind, Run.get_bind]
          cases htext : after.textOf? [built] built with
          | none => exact .inr rfl
          | some text => exact .inl ⟨some text, rfl⟩
  | trace label _ _ =>
      cases hparsed
      rw [Session.perform_eq rfl (fun _ => Command.noConfusion), Command.reading,
        Run.bind_of_ok hlink]
      exact ⟨_, fun outcome after => .inl ⟨none, rfl⟩, rfl⟩
  | _ => cases hparsed

theorem perform_of_link_error {grammar : Grammar} {wrap : Grammar → Grammar} {start : Nat}
    (hparsed : command.parsed? = some (grammar, wrap, start)) {fault : Fault} {after : Workspace}
    (hlink : grammar.link none session.workspace.clearJournal = .error fault after) :
    session.perform command = (.error (.fault fault), { session with workspace := after }) := by
  cases command with
  | parse _ _ _ =>
      cases hparsed
      rw [Session.perform_eq rfl (fun _ => Command.noConfusion), Command.reading,
        Run.bind_of_error hlink]
  | trace label _ _ =>
      cases hparsed
      rw [Session.perform_eq rfl (fun _ => Command.noConfusion), Command.reading,
        Run.bind_of_error hlink]
  | _ => cases hparsed

theorem perform_of_parse_error (hparse : session.parse? command = some parse) {fault : Fault}
    {after : Workspace} (hresult : parse.result = .error fault after) :
    session.perform command = (.error (.fault fault), { session with workspace := after }) := by
  obtain ⟨reply, -, hperform⟩ := perform_of_parse? hparse
  rw [hperform, Run.bind_of_error hresult]

/-- The outcome of the parse is what is replied, unless the representation that was asked for does
not exist. -/
theorem perform_of_parse_ok (hparse : session.parse? command = some parse)
    {outcome : Outcome Value} {after : Workspace} (hresult : parse.result = .ok outcome after) :
    (session.perform command).2 = { session with workspace := after } ∧
      ((∃ text?, (session.perform command).1
          = .ok (.parsed outcome after.journal.builds.length text?)) ∨
        (session.perform command).1 = .error (.fault .unprintable)) := by
  obtain ⟨reply, hreplies, hperform⟩ := perform_of_parse? hparse
  rw [hperform, Run.bind_of_ok hresult]
  obtain ⟨text?, hreply⟩ | hreply := hreplies outcome after
  · rw [hreply]
    exact ⟨rfl, .inl ⟨text?, rfl⟩⟩
  · rw [hreply]
    exact ⟨rfl, .inr rfl⟩

end Session

end TokenGrammar
