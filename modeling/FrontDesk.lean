import FrontDesk.Helpdesk.Client
import FrontDesk.Json.Printer
import FrontDesk.Main
import FrontDesk.Service.Counter
import FrontDesk.Web.Interface
import FrontDesk.Proofs.Graph.Faults
import FrontDesk.Proofs.Conversation.Image
import FrontDesk.Proofs.Conversation.Refusal
import FrontDesk.Proofs.Conversation.Storage
import FrontDesk.Proofs.Conversation.Record
import FrontDesk.Proofs.Service.Terms
import FrontDesk.Proofs.Store.Record
import FrontDesk.Proofs.Service.Record
import FrontDesk.Proofs.Service.Calm
import FrontDesk.Proofs.Service.Live
import FrontDesk.Proofs.Service.Rehearsed
import FrontDesk.Proofs.Store.Catalog
import FrontDesk.Proofs.Service.Edits
import FrontDesk.Proofs.Service.Primary
import FrontDesk.Proofs.Store.Versions
import FrontDesk.Proofs.Store.Integrity
import FrontDesk.Proofs.Service.Serial
import FrontDesk.Proofs.Catalog.Proper
import FrontDesk.Proofs.Catalog.Choice
import FrontDesk.Proofs.Service.Calls
import FrontDesk.Proofs.Service.Moments
import FrontDesk.Proofs.Service.Deletion
import FrontDesk.Proofs.Service.Backends
import FrontDesk.Proofs.Service.Turnout
import FrontDesk.Proofs.Service.Isolation
import FrontDesk.Proofs.Conversation.Ending
import FrontDesk.Proofs.Conversation.Limit
import FrontDesk.Proofs.Conversation.Circles
import FrontDesk.Proofs.Calendar.Week
import FrontDesk.Proofs.Calendar.Zones
import FrontDesk.Proofs.Service.Succession
import FrontDesk.Proofs.Service.Silence
import FrontDesk.Proofs.Service.Patience
import FrontDesk.Proofs.Service.Transfer
import FrontDesk.Proofs.Catalog.Keywords
import FrontDesk.Proofs.Answer.Menu
import FrontDesk.Proofs.Service.Blanks
import FrontDesk.Proofs.Conversation.Patterns
import FrontDesk.Proofs.Store.Returned
import FrontDesk.Proofs.Service.Patch
import FrontDesk.Proofs.Service.Creation
import FrontDesk.Proofs.Answer.NormalForm
import FrontDesk.Proofs.Graph.Nodes
import FrontDesk.Proofs.Service.Reports
