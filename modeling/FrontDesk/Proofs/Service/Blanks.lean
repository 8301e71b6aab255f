/-
Blanks around messages.

Whoever tries a flow out has the messages trimmed before they are answers, and a contact has not.
This makes no difference to the way that a conversation goes (`World.talk_trimmed`): what is left of
it at the reception is what was foretold, but for blanks around what the contact said.
-/
import FrontDesk.Proofs.Conversation.Blanks
import FrontDesk.Proofs.Service.Rehearsed
import FrontDesk.Web.Interface

namespace FrontDesk

open Calendar Service Line Text

/-! ## Lines up to blanks -/

namespace Line

theorem onRecord_trimmed (l : Line) : onRecord l.trimmed = (onRecord l).map trimmed := by
  obtain ⟨sender, text⟩ := l
  cases sender with
  | bot => cases h : trimmed? text <;> simp [onRecord, trimmed, h]
  | contact => rfl

theorem heard_trimmed (ls : List Line) : heard (ls.map trimmed) = (heard ls).map trimmed := by
  simp only [heard, List.filterMap_map, List.map_filterMap]
  exact List.filterMap_congr fun l _ => onRecord_trimmed l

theorem spoken_trimmed (ls : List Line) : spoken (ls.map trimmed) = spoken ls := by
  induction ls with
  | nil => rfl
  | cons l rest ih =>
    obtain ⟨sender, text⟩ := l
    cases sender with
    | bot => simpa [spoken, trimmed] using ih
    | contact => simpa [spoken, trimmed] using ih

end Line

/-! ## Trying a flow out -/

namespace Web

/-- The body of a request to try a flow out on some messages. -/
def trial (texts : List String) : Json := .object [("messages", .list (texts.map .string))]

theorem items_any (index : Nat) (vs : List Json) : Form.items Form.any index vs = .good vs := by
  induction vs generalizing index with
  | nil => rfl
  | cons v rest ih =>
    rw [Form.items, ih]
    rfl

/-- Messages of nothing but blanks are left out, and the others are trimmed. -/
theorem script_trial (texts : List String) :
    script (trial texts) = .good (texts.filterMap trimmed?) := by
  have hlist : Form.list Form.any (.list (texts.map .string)) = .good (texts.map .string) :=
    items_any 0 _
  have htexts : (texts.map Json.string).filterMap (fun v => v.string?.bind trimmed?) =
      texts.filterMap trimmed? := by
    rw [List.filterMap_map]
    rfl
  rw [← htexts]
  unfold script trial Form.fields
  simp only [Form.required, Entries.find?_cons, beq_self_eq_true, if_true, hlist]
  rfl

theorem script_trial_of_ne {texts : List String} (h : ∀ text ∈ texts, trim text ≠ "") :
    script (trial texts) = .good (texts.map trim) := by
  rw [script_trial, ← List.filterMap_eq_map]
  exact congrArg Checked.good (List.filterMap_congr fun text htext => trimmed?_of_ne (h text htext))

end Web

/-! ## Conversations -/

/-- A conversation went as it was rehearsed, but for blanks around what the contact said. -/
structure Rehearsal.Foretells (reh : Rehearsal) (opening : String) (s : Session)
    (trail : List Interaction) (sent : List String) : Prop where
  state : s.state.trimmed = reh.state.trimmed
  completed : s.completedAt.isSome = reh.completed
  lines : (trail.map Interaction.line).map Line.trimmed =
    (⟨.contact, opening⟩ :: heard reh.transcript).map Line.trimmed
  sent : sent = spoken (heard reh.transcript)

theorem Rehearsal.foretells_of_trimmed {reh reh' : Rehearsal} (h : reh'.trimmed = reh.trimmed)
    {opening : String} {s : Session} {trail : List Interaction} (hstate : s.state = reh'.state)
    (hcompleted : s.completedAt.isSome = reh'.completed)
    (hlines : trail.map Interaction.line = ⟨.contact, opening⟩ :: heard reh'.transcript) :
    reh.Foretells opening s trail (spoken (trail.map Interaction.line)) := by
  have hheard :
      (heard reh'.transcript).map Line.trimmed = (heard reh.transcript).map Line.trimmed := by
    rw [← heard_trimmed, ← heard_trimmed]
    exact congrArg heard (congrArg Rehearsal.transcript h :)
  refine ⟨?_, ?_, ?_, ?_⟩
  · rw [hstate]
    exact (congrArg Rehearsal.state h :)
  · rw [hcompleted]
    exact (congrArg Rehearsal.completed h :)
  · rw [hlines, List.map_cons, hheard, List.map_cons]
  · rw [hlines, spoken_contact, ← spoken_trimmed, hheard, spoken_trimmed]

theorem World.talk_trimmed {w : World} {r : Reception} {now : Moment} {key text : String}
    {t : Ticket} {f : Flow} (hw : w.view.Fine now) (hopens : w.view.Opens r now key text t f)
    (messageId : String) (ms : List (String × String)) {reh : Rehearsal}
    (hreh : ((Rehearsal.ofFlow r.limit now f.id ((ms.map Prod.snd).map trim)).run w).1 = .ok reh) :
    let after := w.talk r now key ((messageId, text) :: ms)
    ∃ (s : Session) (trail : List Interaction) (sent : List String),
      ((Job.store (.session w.view.freshId)).run after).1 = .ok (some s) ∧
      ((Job.store (.interactions w.view.freshId)).run after).1 = .ok trail ∧
      after.desk.deliveredTo t.id = w.desk.deliveredTo t.id ++ sent ∧
      reh.Foretells text s trail sent := by
  intro after
  obtain ⟨g, hg, hplay⟩ := Rehearsal.ofFlow_run hw.calm hopens.flow hreh
  obtain ⟨reh', hplay', htrimmed⟩ := Rehearsal.exists_play hplay
  obtain ⟨s, hlive, hid, hstate, hcompleted⟩ := hopens.talk hw hg messageId ms hplay'
  obtain ⟨hsession, trail, htrail, hlines, hsent⟩ := hlive.found_and_sent
  rw [hid] at hsession htrail
  exact ⟨s, trail, _, hsession, htrail, hsent,
    Rehearsal.foretells_of_trimmed htrimmed hstate hcompleted hlines⟩

/-- **Blanks around a text never matter.** They are not seen in its normal form, by the rules of an
input, or by the choices of a question; so a flow leads the same way on messages as they are and
trimmed, and a contact who does not trim them has the conversation that was foretold when the flow
was tried out on the same messages. What an input stores has no blanks around it, is not empty, and
would be accepted again. -/
theorem blanks_unseen :
    (∀ w₁ w₂ v : String, (∀ c ∈ w₁.toList, isBlank c = true) →
      (∀ c ∈ w₂.toList, isBlank c = true) →
      normal (w₁ ++ v ++ w₂) = normal v ∧
      (∀ i : Input, i.check (w₁ ++ v ++ w₂) = i.check v) ∧
      ∀ q : Question, Option.Rel Pick.Alike (q.pick (w₁ ++ v ++ w₂)) (q.pick v)) ∧
    (∀ (g : Graph) (limit : Int) (stamp : String) (texts : List String),
      (Rehearsal.play g limit stamp (texts.map trim)).map Rehearsal.trimmed =
        (Rehearsal.play g limit stamp texts).map Rehearsal.trimmed) ∧
    (∀ (w : World) (r : Reception) (now : Moment) (key text messageId : String) (t : Ticket)
      (f : Flow) (ms : List (String × String)) (script : List String) (reh : Rehearsal),
      w.view.Fine now → w.view.Opens r now key text t f → (∀ m ∈ ms, trim m.2 ≠ "") →
      Web.script (Web.trial (ms.map Prod.snd)) = .good script →
      ((Rehearsal.ofFlow r.limit now f.id script).run w).1 = .ok reh →
      let after := w.talk r now key ((messageId, text) :: ms)
      ∃ (s : Session) (trail : List Interaction) (sent : List String),
        ((Job.store (.session w.view.freshId)).run after).1 = .ok (some s) ∧
        ((Job.store (.interactions w.view.freshId)).run after).1 = .ok trail ∧
        after.desk.deliveredTo t.id = w.desk.deliveredTo t.id ++ sent ∧
        reh.Foretells text s trail sent) ∧
    ∀ (g : Graph) (limit : Int) (stamp answer : String) (st : State) (current : Option String)
      (n : Node) (i : Input),
      st.waiting = some ⟨n.id, .input⟩ → g.node? n.id = some n → n.body = .input i →
      i.check answer = .ok .accepted →
      ∃ o v, g.run limit stamp st current (.answer answer) = .ok o ∧
        o.state.collected.find? i.storageKey = some v ∧ IsTrimmed v ∧
        i.check v = .ok .accepted := by
  refine ⟨fun w₁ w₂ v h₁ h₂ => ?_, fun g limit stamp texts => Rehearsal.play_trimmed texts, ?_, ?_⟩
  · have htrim : trim (w₁ ++ v ++ w₂) = trim v := trim_margins h₁ h₂ v
    exact ⟨normal_congr htrim, fun i => i.check_congr htrim, fun q => q.pick_alike htrim⟩
  · intro w r now key text messageId t f ms script reh hw hopens hsaid hscript hreh
    have hsaid' : ∀ said ∈ ms.map Prod.snd, trim said ≠ "" := by
      rintro _ hmem
      obtain ⟨m, hm, rfl⟩ := List.mem_map.1 hmem
      exact hsaid m hm
    obtain rfl := Checked.good.inj ((Web.script_trial_of_ne hsaid').symm.trans hscript)
    exact World.talk_trimmed hw hopens messageId ms hreh
  · intro g limit stamp answer st current n i hw hn hi hc
    exact Graph.run_stores hw hn hi hc

/-- An input for an address. -/
def addressee : Input where
  content := "Where to?"
  field := "mail"
  storeField := none
  rules := some
    { kind := some .email
      minLength := some 6
      maxLength := none
      pattern := none
      message := none }
  next := none

/-- A node that asks for an address. -/
def postbox : Node where
  id := "to"
  body := .input addressee

/-- A graph of that node. -/
def postcard : Graph where
  entry := "to"
  nodes := [postbox]
  version := "1"
  metadata := none

/-- A text between blanks, a conversation with blanks around its messages, and an address with
blanks around it. -/
theorem parting_unseen :
    normal ("\u2003" ++ "Zoe\u0308" ++ " \u001f\n") = normal "Zoe\u0308" ∧
    (let after := office.talk {} (.utc 1) "ticket"
      [("m1", "Hi"), ("m2", " Maybe\n"), ("m3", "\u2003Yes ")]
    ∃ (s : Session) (trail : List Interaction),
      ((Job.store (.session office.view.freshId)).run after).1 = .ok (some s) ∧
      ((Job.store (.interactions office.view.freshId)).run after).1 = .ok trail ∧
      s.completedAt.isSome = true ∧
      after.desk.deliveredTo "ticket" = ["Hello", "Done?\n1. Yes", "Well?"]) ∧
    ∃ o v, postcard.run 50 "now" { waiting := some ⟨"to", .input⟩ } none
        (.answer " a@b.cd\n") = .ok o ∧
      o.state.collected.find? "mail" = some v ∧ IsTrimmed v ∧
      addressee.check v = .ok .accepted := by
  obtain ⟨hmargins, -, htalk, hstores⟩ := blanks_unseen
  have hplays : (((Rehearsal.ofFlow 50 (.utc 1) "flow" ["Maybe", "Yes"]).run
      office).1.toOption.map fun reh => (spoken (heard reh.transcript), reh.completed)) =
      some (["Hello", "Done?\n1. Yes", "Well?"], true) := by decide +kernel
  have hscript : Web.script (Web.trial [" Maybe\n", "\u2003Yes "]) = .good ["Maybe", "Yes"] := by
    rfl
  refine ⟨(hmargins _ _ _ (List.all_eq_true.1 rfl) (List.all_eq_true.1 rfl)).1, ?_, ?_⟩
  · obtain ⟨reh, hreh, hforetold⟩ := Option.map_eq_some_iff.1 hplays
    obtain ⟨hsaid, hcompleted⟩ := Prod.ext_iff.1 hforetold
    cases hrun : ((Rehearsal.ofFlow 50 (.utc 1) "flow" ["Maybe", "Yes"]).run office).1 with
    | error e => rw [hrun] at hreh; cases hreh
    | ok reh' =>
      rw [hrun] at hreh
      cases hreh
      obtain ⟨s, trail, sent, hs, htrail, hsent, hforetells⟩ :=
        htalk office {} (.utc 1) "ticket" "Hi" "m1" _ parting
          [("m2", " Maybe\n"), ("m3", "\u2003Yes ")] _ reh office_fine office_opens
          (by decide) hscript hrun
      refine ⟨s, trail, hs, htrail, hforetells.completed.trans hcompleted, ?_⟩
      exact hsent.trans (congrArg ([] ++ ·) (hforetells.sent.trans hsaid))
  · exact hstores postcard 50 "now" " a@b.cd\n" _ none postbox addressee rfl rfl rfl
      (by decide +kernel)

end FrontDesk
