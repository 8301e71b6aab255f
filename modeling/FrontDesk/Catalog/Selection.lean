/-
Which flow starts a conversation: the first one with a keyword in the message, else the first that
is a default. The flows are considered in the order in which they come.
-/
import FrontDesk.Catalog.Flow
import FrontDesk.Text.Normal

namespace FrontDesk

open Text

/-- Whether a keyword occurs in a text, both in normal form. A keyword that comes to nothing does
not. -/
def keywordOccurs (text keyword : String) : Bool :=
  let needle := normalChars keyword.toList
  !needle.isEmpty && occursIn needle (normalChars text.toList)

/-- Whether any of the keywords occurs in the text. -/
def keywordsOccur (keywords : List String) (text : String) : Bool :=
  keywords.any (keywordOccurs text)

/-- Whether a message starts the flow by a keyword. -/
def Flow.isCalledBy (text : String) (f : Flow) : Bool :=
  f.trigger == .keyword && keywordsOccur f.keywords text

/-- The flow that a message starts. -/
def selectFlow (fs : List Flow) (message : String) : Option Flow :=
  let text := trim message
  fs.find? (Flow.isCalledBy text) <|> fs.find? fun f => f.trigger == .default

end FrontDesk
