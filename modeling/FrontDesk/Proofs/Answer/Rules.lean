/-
What comes of checking an answer.

An answer is accepted if it meets every rule that is asked of it, and otherwise refused by the first
that it breaks, in the words of the author or else in the words of that rule
(`Input.check_eq_iff`). Where only a kind is asked for, the rules come to the grammar of the kind.
-/
import FrontDesk.Answer.Rules
import FrontDesk.Proofs.Answer.Kind

namespace FrontDesk

open AnswerKind AnswerRules

/-- Whether a text that is trimmed, and is not empty, is an answer of the kind. -/
def AnswerKind.Suits (v : String) : AnswerKind → Prop
  | number => IsNumeral v
  | email => IsAddress v
  | phone => 10 ≤ v.toList.countP Text.isDecimalDigit ∧ v.toList.countP Text.isDecimalDigit ≤ 14
  | text | freeform => True

/-- The answers of a kind, or of no kind in particular. None is empty. -/
def AnswerKind.Grammar (v : String) : Option AnswerKind → Prop
  | some number => IsNumeral v
  | some email => IsAddress v
  | some phone =>
    10 ≤ v.toList.countP Text.isDecimalDigit ∧ v.toList.countP Text.isDecimalDigit ≤ 14
  | some text | some freeform | none => v ≠ ""

namespace AnswerKind

theorem accepts_iff (s : String) (k : AnswerKind) :
    k.accepts (Text.trim s) = true ↔ k.Suits (Text.trim s) := by
  cases k with
  | number => exact accepts_number s
  | email => exact accepts_email s
  | phone => exact accepts_phone (Text.trim s)
  | text | freeform => simp [accepts, Suits]

theorem grammar_iff {v : String} {kind : Option AnswerKind} :
    Grammar v kind ↔ v ≠ "" ∧ ∀ k ∈ kind, k.Suits v := by
  have hdigits : 10 ≤ v.toList.countP Text.isDecimalDigit → v ≠ "" := by
    rintro h rfl
    simp at h
  have hnumeral : IsNumeral v → v ≠ "" := by
    rintro ⟨sign, whole, part, hsplit, -, ⟨hwhole, -⟩, -⟩ rfl
    simp [hwhole] at hsplit
  have haddress : IsAddress v → v ≠ "" := by
    rintro ⟨-, user, host, hsplit, -⟩ rfl
    simp at hsplit
  match kind with
  | some .number => simpa [Grammar, Suits] using hnumeral
  | some .email => simpa [Grammar, Suits] using haddress
  | some .phone => simpa [Grammar, Suits] using fun h _ => hdigits h
  | some .text | some .freeform | none => simp [Grammar, Suits]

end AnswerKind

namespace AnswerRules.Rule

/-! ## One rule -/

/-- The place of a rule in the order in which rules are tried. -/
def rank : Rule → Nat
  | required => 0
  | minLength _ => 1
  | maxLength _ => 2
  | kind _ => 3
  | pattern _ => 4

/-- Whether a trimmed answer meets the rule. -/
def Met (v : String) : Rule → Prop
  | required => v ≠ ""
  | minLength n => n ≤ v.length
  | maxLength n => v.length ≤ n
  | kind k => k.Suits v
  | pattern source => Pattern.foundIn source v = .ok true

/-- Whether a trimmed answer breaks the rule. For a pattern this is to say that it is not found;
there may be neither, if the pattern is at fault. -/
def Broken (v : String) : Rule → Prop
  | pattern source => Pattern.foundIn source v = .ok false
  | rule => ¬ rule.Met v

theorem Broken.not_met {v : String} {rule : Rule} (h : rule.Broken v) : ¬ rule.Met v := by
  cases rule with
  | pattern source =>
    intro hmet
    rw [Met, h] at hmet
    cases hmet
  | required | minLength n | maxLength n | kind k => exact h

variable {answer : String}

theorem holds_eq_true {rule : Rule} :
    rule.holds (Text.trim answer) = .ok true ↔ rule.Met (Text.trim answer) := by
  cases rule with
  | kind k => simp [holds, Met, accepts_iff]
  | required | minLength n | maxLength n | pattern source => simp [holds, Met]

theorem holds_eq_false {rule : Rule} :
    rule.holds (Text.trim answer) = .ok false ↔ rule.Broken (Text.trim answer) := by
  cases rule with
  | kind k => simp [holds, Broken, Met, ← accepts_iff]
  | required | minLength n | maxLength n | pattern source => simp [holds, Broken, Met]

/-- Only patterns can be at fault. -/
theorem holds_eq_error {rule : Rule} {e : PatternFault} :
    rule.holds answer = .error e ↔
      ∃ source, rule = .pattern source ∧ Pattern.foundIn source answer = .error e := by
  cases rule <;> simp [holds]

/-! ## Rules in order -/

/-- The checks of rules in order end with the first that is not met, if there is one. -/
theorem firstFailing_cases (answer : String) {rules : List Rule}
    (hranked : rules.Pairwise fun a b => a.rank < b.rank) :
    (firstFailing answer rules = .ok none ∧ ∀ rule ∈ rules, rule.holds answer = .ok true) ∨
      ∃ rule ∈ rules, rule.holds answer ≠ .ok true ∧
        (∀ earlier ∈ rules, earlier.rank < rule.rank → earlier.holds answer = .ok true) ∧
        firstFailing answer rules = (rule.holds answer).map fun _ => some rule := by
  induction rules with
  | nil => exact .inl ⟨rfl, by simp⟩
  | cons first rest ih =>
    obtain ⟨hfirst, hrest⟩ := List.pairwise_cons.1 hranked
    by_cases hmet : first.holds answer = .ok true
    · have hnext : firstFailing answer (first :: rest) = firstFailing answer rest := by
        rw [firstFailing, hmet]
        rfl
      rw [hnext]
      rcases ih hrest with ⟨hnone, hall⟩ | ⟨rule, hmem, hunmet, hearlier, hends⟩
      · exact .inl ⟨hnone, List.forall_mem_cons.2 ⟨hmet, hall⟩⟩
      · exact .inr ⟨rule, List.mem_cons_of_mem first hmem, hunmet,
          List.forall_mem_cons.2 ⟨fun _ => hmet, hearlier⟩, hends⟩
    · refine .inr ⟨first, List.mem_cons_self, hmet, ?_, ?_⟩
      · refine List.forall_mem_cons.2 ⟨fun hlt => absurd hlt (Nat.lt_irrefl _),
          fun later hlater hlt => ?_⟩
        exact absurd (hfirst later hlater) (Nat.not_lt.2 (Nat.le_of_lt hlt))
      · rw [firstFailing]
        rcases hholds : first.holds answer with e | met
        · rfl
        · cases met
          · rfl
          · exact absurd hholds hmet

end AnswerRules.Rule

namespace Input

/-- Whether an input asks for a rule to be met. -/
def Asks (i : Input) : Rule → Prop
  | .required => True
  | .minLength n => ∃ r ∈ i.rules, r.minLength = some n
  | .maxLength n => ∃ r ∈ i.rules, r.maxLength = some n
  | .kind k => ∃ r ∈ i.rules, r.kind = some k
  | .pattern source => ∃ r ∈ i.rules, r.pattern = some source

/-- A rule is asked for, and the answer meets all that come before it. -/
structure Reaches (i : Input) (v : String) (rule : Rule) : Prop where
  asked : i.Asks rule
  earlier : ∀ other, i.Asks other → other.rank < rule.rank → other.Met v

variable {i : Input} {answer : String}

theorem mem_rulesInOrder {rule : Rule} : rule ∈ i.rulesInOrder ↔ i.Asks rule := by
  unfold rulesInOrder
  cases hrules : i.rules <;> cases rule <;> simp [Asks, inOrder, hrules]

theorem rulesInOrder_ranked (i : Input) :
    i.rulesInOrder.Pairwise fun a b => a.rank < b.rank := by
  unfold rulesInOrder
  cases i.rules with
  | none => exact List.pairwise_singleton _ _
  | some r =>
    simp [inOrder, List.pairwise_append, or_imp, forall_and, Rule.rank]

/-- An answer meets all rules and is accepted, or reaches one that it does not meet. -/
theorem check_cases (i : Input) (answer : String) :
    ((∀ rule, i.Asks rule → rule.Met (Text.trim answer)) ∧ i.check answer = .ok .accepted) ∨
      ∃ rule, i.Reaches (Text.trim answer) rule ∧ ¬ rule.Met (Text.trim answer) ∧
        i.check answer =
          (rule.holds (Text.trim answer)).map fun _ => .rejected (i.refusal rule) := by
  rcases Rule.firstFailing_cases (Text.trim answer) i.rulesInOrder_ranked with
    ⟨hnone, hall⟩ | ⟨rule, hmem, hunmet, hearlier, hends⟩
  · refine .inl
      ⟨fun rule hasked => Rule.holds_eq_true.1 (hall rule (mem_rulesInOrder.2 hasked)), ?_⟩
    rw [check, hnone]
    rfl
  · refine .inr ⟨rule, ⟨mem_rulesInOrder.1 hmem, fun other hasked hlt => ?_⟩,
      mt Rule.holds_eq_true.2 hunmet, ?_⟩
    · exact Rule.holds_eq_true.1 (hearlier other (mem_rulesInOrder.2 hasked) hlt)
    · rw [check, hends]
      cases rule.holds (Text.trim answer) <;> rfl

theorem Asks.eq_of_rank {rule other : Rule} (h : i.Asks rule) (h' : i.Asks other)
    (hrank : rule.rank = other.rank) : rule = other := by
  cases hrules : i.rules with
  | none => cases rule <;> cases other <;> simp_all [Asks]
  | some r => cases rule <;> cases other <;> simp_all [Asks, Rule.rank]

/-- Of the rules that are reached, only one is not met. -/
theorem Reaches.unique {v : String} {rule other : Rule} (h : i.Reaches v rule)
    (hrule : ¬ rule.Met v) (h' : i.Reaches v other) (hother : ¬ other.Met v) : rule = other := by
  rcases Nat.lt_trichotomy rule.rank other.rank with hlt | heq | hlt
  · exact absurd (h'.earlier rule h.asked hlt) hrule
  · exact h.asked.eq_of_rank h'.asked heq
  · exact absurd (h.earlier other h'.asked hlt) hother

theorem check_of_reaches {rule : Rule} (h : i.Reaches (Text.trim answer) rule)
    (hunmet : ¬ rule.Met (Text.trim answer)) :
    i.check answer =
      (rule.holds (Text.trim answer)).map fun _ => .rejected (i.refusal rule) := by
  rcases i.check_cases answer with ⟨hall, -⟩ | ⟨other, hother, hunmet', hcheck⟩
  · exact absurd (hall rule h.asked) hunmet
  · rwa [h.unique hunmet hother hunmet']

theorem check_eq_accepted :
    i.check answer = .ok .accepted ↔ ∀ rule, i.Asks rule → rule.Met (Text.trim answer) := by
  constructor
  · intro h rule hasked
    rcases i.check_cases answer with ⟨hall, -⟩ | ⟨other, -, -, hcheck⟩
    · exact hall rule hasked
    · rw [hcheck] at h
      cases hholds : other.holds (Text.trim answer) <;> simp [hholds, Except.map] at h
  · intro hall
    rcases i.check_cases answer with ⟨-, hcheck⟩ | ⟨other, hother, hunmet, -⟩
    · exact hcheck
    · exact absurd (hall other hother.asked) hunmet

theorem check_eq_rejected {message : String} :
    i.check answer = .ok (.rejected message) ↔
      ∃ rule, i.Reaches (Text.trim answer) rule ∧ rule.Broken (Text.trim answer) ∧
        message = i.refusal rule := by
  constructor
  · intro h
    rcases i.check_cases answer with ⟨-, hcheck⟩ | ⟨rule, hrule, hunmet, hcheck⟩
    · rw [hcheck] at h
      cases h
    · rw [hcheck] at h
      refine ⟨rule, hrule, ?_⟩
      cases hholds : rule.holds (Text.trim answer) with
      | error e => simp [hholds, Except.map] at h
      | ok met =>
        cases met with
        | true => exact absurd (Rule.holds_eq_true.1 hholds) hunmet
        | false =>
          rw [hholds] at h
          cases h
          exact ⟨Rule.holds_eq_false.1 hholds, rfl⟩
  · rintro ⟨rule, hrule, hbroken, rfl⟩
    rw [check_of_reaches hrule hbroken.not_met, Rule.holds_eq_false.2 hbroken]
    rfl

theorem check_eq_error {e : PatternFault} :
    i.check answer = .error e ↔
      ∃ source, i.Reaches (Text.trim answer) (.pattern source) ∧
        Pattern.foundIn source (Text.trim answer) = .error e := by
  constructor
  · intro h
    rcases i.check_cases answer with ⟨-, hcheck⟩ | ⟨rule, hrule, -, hcheck⟩
    · rw [hcheck] at h
      cases h
    · rw [hcheck] at h
      cases hholds : rule.holds (Text.trim answer) with
      | ok met => simp [hholds, Except.map] at h
      | error e' =>
        rw [hholds] at h
        cases h
        obtain ⟨source, rfl, hfault⟩ := Rule.holds_eq_error.1 hholds
        exact ⟨source, hrule, hfault⟩
  · rintro ⟨source, hrule, hfault⟩
    have hunmet : ¬ (Rule.pattern source).Met (Text.trim answer) := fun hmet => by
      rw [Rule.Met, hfault] at hmet
      cases hmet
    rw [check_of_reaches hrule hunmet, Rule.holds, hfault]
    rfl

theorem check_typed (kind : Option AnswerKind) (message : Option String) :
    { i with rules := some ⟨kind, none, none, none, message⟩ }.check answer = .ok .accepted ↔
      Grammar (Text.trim answer) kind := by
  rw [check_eq_accepted, grammar_iff]
  constructor
  · intro hall
    exact ⟨hall .required trivial, fun k hk => hall (.kind k) ⟨_, rfl, hk⟩⟩
  · rintro ⟨hne, hkind⟩ rule hasked
    cases rule with
    | required => exact hne
    | kind k =>
      obtain ⟨_, ⟨⟩, hk⟩ := hasked
      exact hkind k hk
    | minLength n | maxLength n | pattern source =>
      obtain ⟨_, ⟨⟩, hnone⟩ := hasked
      cases hnone

/-- **Typed rules accept their grammar, and the first rule that fails has the word.** An input that
asks for a kind alone accepts the answers that, when they are trimmed, are of the kind: numerals,
addresses, texts with 10 to 14 digits, or whatever is not empty; so does one without rules. Any
input accepts an answer just if it meets all rules that the input asks for. It refuses an answer
just if it breaks one and meets all that come before that one in the order (required, least length,
greatest length, kind, pattern); what is said then is the author's message, if there is one, and
else the rule's own text. Where a search for the pattern has an outcome there is no third case: a
check fails only with the fault of a pattern, which is reached after all other rules are met. -/
theorem check_eq_iff (i : Input) (answer : String) :
    let v := Text.trim answer
    (∀ kind message, { i with rules := some ⟨kind, none, none, none, message⟩ }.check answer =
      .ok .accepted ↔ Grammar v kind) ∧
    ({ i with rules := none }.check answer = .ok .accepted ↔ Grammar v none) ∧
    (i.check answer = .ok .accepted ↔ ∀ rule, i.Asks rule → rule.Met v) ∧
    (∀ said, i.check answer = .ok (.rejected said) ↔
      ∃ rule, i.Reaches v rule ∧ rule.Broken v ∧
        said = (i.rules.bind (·.message)).getD rule.refusal) ∧
    ∀ e, i.check answer = .error e ↔
      ∃ source, i.Reaches v (.pattern source) ∧ Pattern.foundIn source v = .error e := by
  refine ⟨check_typed, ?_, check_eq_accepted, fun _ => check_eq_rejected, fun _ => check_eq_error⟩
  rw [check_eq_accepted]
  constructor
  · exact fun hall => hall .required trivial
  · intro hne rule hasked
    cases rule with
    | required => exact hne
    | minLength n | maxLength n | kind k | pattern source =>
      obtain ⟨_, ⟨⟩, -⟩ := hasked

end Input

end FrontDesk
