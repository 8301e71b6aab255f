/-
Sample flows, with which a new catalog can be filled: a main menu, and one for cancellations.
-/
import FrontDesk.Catalog.Flow

namespace FrontDesk.Samples

/-- A text under a key. -/
def text (key value : String) : String × Json := (key, .string value)

/-- A node. -/
def node (id kind : String) (rest : List (String × Json)) : Json :=
  .object (text "id" id :: text "type" kind :: rest)

/-- A choice of a menu that leads to a node. -/
def choice (value label next : String) (keywords : List String) : Json :=
  .object
    ([text "value" value, text "label" label]
      ++ (if keywords.isEmpty then [] else [("keywords", .ofStrings keywords)])
      ++ [text "next" next])

/-- A graph. -/
def graph (entry : String) (nodes : List Json) : Entries Json :=
  [text "version" "1", text "entryNodeId" entry, ("nodes", .list nodes)]

/-- The main menu: it greets whoever no keyword leads elsewhere. -/
def welcomeGraph : Entries Json :=
  graph "welcome"
    [node "welcome" "message"
      [text "content" "Hello! Thanks for contacting our support.", text "next" "menu"],
     node "menu" "question"
      [text "content" "How can we help you today?",
       text "storeField" "topic",
       text "retryMessage" "Please answer with the number of one of the options.",
       ("options", .list
        [choice "billing" "Billing and invoices" "ask_document" ["invoice", "payment"],
         choice "technical" "Technical support" "ask_email" ["error", "bug"],
         choice "agent" "Talk to an agent" "to_agent" ["human", "person"]])],
     node "ask_document" "input"
      [text "content" "Please send the number of your invoice.",
       text "field" "invoice_number",
       ("validation", .object
        [text "type" "number", text "message" "The invoice number only has digits."]),
       text "next" "billing_done"],
     node "billing_done" "transfer"
      [text "message" "Thanks! Our billing team will continue from here.",
       text "queueId" "billing"],
     node "ask_email" "input"
      [text "content" "What is the email address of your account?",
       text "field" "email",
       ("validation", .object [text "type" "email"]),
       text "next" "describe"],
     node "describe" "input"
      [text "content" "Describe the problem in a few words.",
       text "field" "problem",
       ("validation", .object [text "type" "text", ("minLength", .int 10)]),
       text "next" "to_agent"],
     node "to_agent" "transfer" [text "message" "One moment, an agent will answer you shortly."]]

/-- Cancellations: asks back, and hands those over who insist. -/
def cancellationGraph : Entries Json :=
  graph "confirm"
    [node "confirm" "question"
      [text "content" "Do you want to cancel your subscription?",
       text "storeField" "cancel",
       ("options", .list
        [choice "yes" "Yes" "reason" ["sim", "si"], choice "no" "No" "kept" []])],
     node "reason" "input"
      [text "content" "Sorry to see you go. Could you tell us why?",
       text "field" "cancel_reason",
       text "next" "cancel_agent"],
     node "cancel_agent" "transfer"
      [text "message" "An agent will confirm the cancellation with you."],
     node "kept" "end" [text "content" "Great! Your subscription stays active."]]

/-- Weekdays from eight to six. -/
def officeHours : Entries Json :=
  [("enabled", .bool true),
   text "timezone" "America/Sao_Paulo",
   ("windows", .list
    [.object
      [("days", .list ([1, 2, 3, 4, 5].map Json.int)), text "start" "08:00", text "end" "18:00"]]),
   text "fallbackMessage" "Our team is available Monday to Friday, 8am to 6pm."]

/-- The flow of the main menu. -/
def welcome (now : Calendar.Moment) : Flow :=
  { id := "00000000-0000-0000-0000-000000000001"
    name := "Welcome menu"
    description := some "Main menu for new conversations."
    isActive := true
    isPrimary := true
    trigger := .default
    keywords := []
    entryNode := "welcome"
    definition := welcomeGraph
    schedule := some officeHours
    offlineMessage := none
    transferQueue := none
    createdAt := now
    updatedAt := now }

/-- The flow for cancellations. -/
def cancellation (now : Calendar.Moment) : Flow :=
  { id := "00000000-0000-0000-0000-000000000002"
    name := "Cancellation"
    description := none
    isActive := true
    isPrimary := false
    trigger := .keyword
    keywords := ["cancel", "cancelar"]
    entryNode := "confirm"
    definition := cancellationGraph
    schedule := none
    offlineMessage := none
    transferQueue := none
    createdAt := now
    updatedAt := now }

/-- All sample flows. -/
def all (now : Calendar.Moment) : List Flow := [welcome now, cancellation now]

end FrontDesk.Samples
