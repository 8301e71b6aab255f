/-
What patterns that cannot be compiled do to a conversation.

The pattern is the last of the rules, so an input is checked as it would be without its pattern, and
only an answer that is accepted there comes to the pattern (`Input.check_split`). A pattern that is
malformed then counts for nothing. Four other reasons for which a pattern is not compiled are not
passed over (`Pattern.ReadError.fault?`): they end the run, and nothing else does (`run_faults`).
-/
import FrontDesk.Proofs.Answer.Rules
import FrontDesk.Proofs.Conversation.Ending

namespace FrontDesk

open AnswerRules

namespace Pattern

/-- What comes of the reason for which a pattern was not compiled: a malformed pattern is passed
over, and the other reasons are faults. -/
def ReadError.fault? : ReadError → Option PatternFault
  | malformed => none
  | repetitionTooLarge => some .repetitionTooLarge
  | numberTooLong digits => some (.numberTooLong digits)
  | codeTooLarge => some .codeTooLarge
  | clashingCharacterSets => some .clashingCharacterSets

instance (source : String) (e : ReadError) : Decidable (compile source = .error e) :=
  match compile source with
  | .error e' => decidable_of_iff (e' = e) (by simp)
  | .ok _ => .isFalse (by simp)

variable {source text : String}

theorem foundIn_uncompiled {e : ReadError} (h : compile source = .error e) :
    foundIn source text = match e.fault? with
      | some fault => .error fault
      | none => .ok true := by
  unfold foundIn
  rw [h]
  cases e <;> rfl

theorem foundIn_eq_error {fault : PatternFault} :
    foundIn source text = .error fault ↔
      ∃ e, compile source = .error e ∧ e.fault? = some fault := by
  cases hc : compile source with
  | ok p =>
    have hfound : foundIn source text = .ok (p.search text) := by
      unfold foundIn
      rw [hc]
    simp [hfound]
  | error e =>
    rw [foundIn_uncompiled hc]
    cases hf : e.fault? <;> simp [hf]

end Pattern

namespace Input

/-- The pattern that is asked for. -/
def pattern? (i : Input) : Option String := i.rules.bind (·.pattern)

/-- The input as it is without its pattern. -/
def unpatterned (i : Input) : Input :=
  { i with rules := i.rules.map ({ · with pattern := none }) }

theorem rulesInOrder_split (i : Input) :
    i.rulesInOrder = i.unpatterned.rulesInOrder ++ (i.pattern?.map Rule.pattern).toList := by
  unfold rulesInOrder pattern? unpatterned
  cases i.rules with
  | none => rfl
  | some r => simp [inOrder]

@[simp] theorem refusal_unpatterned (i : Input) (r : Rule) :
    i.unpatterned.refusal r = i.refusal r := by
  unfold refusal unpatterned
  cases i.rules <;> rfl

end Input

theorem AnswerRules.Rule.firstFailing_append (answer : String) (rules last : List Rule) :
    firstFailing answer (rules ++ last) = do
      match ← firstFailing answer rules with
      | none => firstFailing answer last
      | some r => return some r := by
  induction rules with
  | nil => rfl
  | cons first rest ih =>
    rw [List.cons_append, firstFailing, firstFailing, ih]
    rcases first.holds answer with e | met
    · rfl
    · cases met <;> rfl

namespace Input

variable {i : Input} {answer source : String}

/-- A check without the pattern, and then the pattern for an answer that was accepted. -/
theorem check_split (hp : i.pattern? = some source) :
    i.check answer = do
      match ← i.unpatterned.check answer with
      | .rejected message => return .rejected message
      | .accepted =>
        if ← Pattern.foundIn source (Text.trim answer) then return .accepted
        else return .rejected (i.refusal (.pattern source)) := by
  unfold check
  rw [rulesInOrder_split, hp, Rule.firstFailing_append]
  rcases Rule.firstFailing (Text.trim answer) i.unpatterned.rulesInOrder with e | failing
  · rfl
  · cases failing with
    | some r => simp [bind, Except.bind, pure, Except.pure]
    | none =>
      have hholds : (Rule.pattern source).holds (Text.trim answer) =
          Pattern.foundIn source (Text.trim answer) := rfl
      simp only [Option.map_some, Option.toList_some, Rule.firstFailing, hholds, bind, Except.bind]
      rcases Pattern.foundIn source (Text.trim answer) with e | found
      · rfl
      · cases found <;> rfl

theorem check_unpatterned (hp : i.pattern? = none) :
    i.check answer = i.unpatterned.check answer := by
  unfold check
  rw [rulesInOrder_split, hp]
  simp

/-- Without its pattern an input is checked without fault. -/
theorem check_unpatterned_ne_error (i : Input) (answer : String) (fault : PatternFault) :
    i.unpatterned.check answer ≠ .error fault := by
  intro h
  obtain ⟨source, ⟨hasked, -⟩, -⟩ := check_eq_error.1 h
  obtain ⟨r, hr, hsource⟩ := hasked
  unfold unpatterned at hr
  obtain ⟨r', -, rfl⟩ := Option.map_eq_some_iff.1 hr
  cases hsource

/-- Where the pattern cannot be compiled, its fault comes in place of acceptance. -/
theorem check_uncompiled {e : Pattern.ReadError} (hp : i.pattern? = some source)
    (hc : Pattern.compile source = .error e) :
    i.check answer = match e.fault?, i.unpatterned.check answer with
      | some fault, .ok .accepted => .error fault
      | _, verdict => verdict := by
  rw [check_split hp, Pattern.foundIn_uncompiled hc]
  rcases i.unpatterned.check answer with fault | verdict
  · cases e.fault? <;> rfl
  · cases verdict <;> cases e.fault? <;> rfl

/-- A check has a fault just if all rules before the pattern are met and the pattern has it. -/
theorem check_eq_fault {fault : PatternFault} :
    i.check answer = .error fault ↔
      i.unpatterned.check answer = .ok .accepted ∧ ∃ source e, i.pattern? = some source ∧
        Pattern.compile source = .error e ∧ e.fault? = some fault := by
  cases hp : i.pattern? with
  | none => simp [check_unpatterned hp, check_unpatterned_ne_error]
  | some source =>
    rw [check_split hp]
    have hsame : (∃ source' e, some source = some source' ∧
        Pattern.compile source' = .error e ∧ e.fault? = some fault) ↔
        Pattern.foundIn source (Text.trim answer) = .error fault := by
      rw [Pattern.foundIn_eq_error]
      simp
    rw [hsame]
    cases hu : i.unpatterned.check answer with
    | error e => exact absurd hu (check_unpatterned_ne_error i answer e)
    | ok verdict =>
      cases verdict with
      | rejected message => simp [bind, Except.bind, pure, Except.pure]
      | accepted =>
        rcases Pattern.foundIn source (Text.trim answer) with e | found
        · simp [bind, Except.bind]
        · cases found <;> simp [bind, Except.bind, pure, Except.pure]

end Input

namespace Graph

variable {g : Graph} {limit : Int} {stamp : String} {s : State} {current : Option String}

theorem run_eq_error {incoming : Incoming} {fault : PatternFault} :
    g.run limit stamp s current incoming = .error fault ↔
      ∃ text n i, incoming = .answer text ∧ s.waiting = some ⟨n.id, .input⟩ ∧
        g.node? n.id = some n ∧ n.body = .input i ∧ i.check text = .error fault := by
  constructor
  · exact run_error
  · rintro ⟨text, n, i, rfl, hw, hn, hi, hc⟩
    rw [run_input hw hn hi, hc]
    rfl

/-- **A pattern that is not compiled counts for nothing if it is malformed, and otherwise ends the
run.** Answers to an input with a pattern that is not compiled are checked as they are without it,
with one exception. If the pattern is not just malformed (a number of repetitions is too large or
too long, a code point is too large, or two character sets clash), an answer that would be accepted
has that fault instead. A run of any graph fails with a fault just if the message answers an input
that waits for it, the answer would be accepted but for the pattern, and the pattern has the
fault. -/
theorem run_faults (g : Graph) (limit : Int) (stamp : String) (s : State)
    (current : Option String) :
    (∀ (i : Input) (source text : String) (e : Pattern.ReadError), i.pattern? = some source →
      Pattern.compile source = .error e →
      i.check text = match e.fault?, i.unpatterned.check text with
        | some fault, .ok .accepted => .error fault
        | _, verdict => verdict) ∧
    ∀ incoming fault, g.run limit stamp s current incoming = .error fault ↔
      ∃ text n i, incoming = .answer text ∧ s.waiting = some ⟨n.id, .input⟩ ∧
        g.node? n.id = some n ∧ n.body = .input i ∧ i.unpatterned.check text = .ok .accepted ∧
        ∃ source e, i.pattern? = some source ∧ Pattern.compile source = .error e ∧
          e.fault? = some fault := by
  refine ⟨fun i source text e hp hc => Input.check_uncompiled hp hc, fun incoming fault => ?_⟩
  simp only [run_eq_error, Input.check_eq_fault]

/-- An input for a code that has to be of a form. -/
def codeInput (form : String) : Input where
  content := "Your code?"
  field := "code"
  storeField := none
  rules := some ⟨none, none, none, some form, none⟩
  next := none

/-- A definition that asks for a code of a form. -/
def coded (form : String) : Json :=
  .object
    [("entryNodeId", .string "code"),
     ("nodes", .list
      [.object
        [("id", .string "code"), ("type", .string "input"), ("content", .string "Your code?"),
         ("validation", .object [("regex", .string form)])]])]

/-- The node for the code. -/
def codeNode (form : String) : Node := ⟨"code", .input (codeInput form)⟩

/-- What is read of the definition. -/
def coding (form : String) : Graph where
  entry := "code"
  nodes := [codeNode form]
  version := ""
  metadata := none

/-- A form with more repetitions than are counted. -/
def countless : String := "B\x7b99999999999\x7d"

/-- A malformed form takes any code, and of one that is not counted any code is a fault. -/
theorem codes_fault :
    (codeInput "(").check "B-12" = .ok .accepted ∧
      ∀ limit stamp current,
        (coding countless).run limit stamp { waiting := some ⟨"code", .input⟩ } current
          (.answer "B-12") = .error .repetitionTooLarge := by
  constructor
  · have hmalformed : Pattern.compile "(" = .error .malformed := by decide +kernel
    rw [(run_faults (coding "(") 50 "now" {} none).1 (codeInput "(") "(" "B-12" .malformed rfl
      hmalformed]
    decide +kernel
  · intro limit stamp current
    have hcount : Pattern.compile countless = .error .repetitionTooLarge := by decide +kernel
    have haccepted : (codeInput countless).unpatterned.check "B-12" = .ok .accepted := rfl
    exact ((run_faults (coding countless) limit stamp _ current).2 _ _).2
      ⟨"B-12", codeNode countless, codeInput countless, rfl, rfl, rfl, rfl, haccepted,
        countless, _, rfl, hcount, rfl⟩

/-- A conversation can be stuck at a pattern that is not compiled: the definition is read, and no
other rule is broken, but the run fails. -/
theorem countless_stuck :
    ofJson (coded countless) = .ok (coding countless) ∧
    (codeInput countless).unpatterned.check "B-12" = .ok .accepted ∧
    (codeInput countless).check "B-12" = .error .repetitionTooLarge ∧
    (coding countless).run 50 "now" { waiting := some ⟨"code", .input⟩ } (some "code")
      (.answer "B-12") = .error .repetitionTooLarge := by
  have hchecked : (codeInput countless).check "B-12" = .error .repetitionTooLarge := by
    decide +kernel
  refine ⟨rfl, rfl, hchecked, ?_⟩
  exact run_eq_error.2
    ⟨"B-12", codeNode countless, codeInput countless, rfl, rfl, rfl, rfl, hchecked⟩

end Graph

end FrontDesk
