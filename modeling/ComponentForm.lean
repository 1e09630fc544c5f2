import ComponentForm.Main
import ComponentForm.Proofs.Pane.History
import ComponentForm.Proofs.Pane.Isolation
import ComponentForm.Proofs.Pane.Tickets
import ComponentForm.Proofs.Pane.Race
import ComponentForm.Proofs.Pane.Changes
import ComponentForm.Proofs.Pane.Delivery
import ComponentForm.Proofs.Document.Walk
import ComponentForm.Proofs.Document.Order
import ComponentForm.Proofs.Document.Parting
import ComponentForm.Proofs.Form.Elements
import ComponentForm.Proofs.Form.Independence
import ComponentForm.Proofs.Console.Run
import ComponentForm.Proofs.Console.Commitment
import ComponentForm.Proofs.Console.Accounting
import ComponentForm.Proofs.Console.Service
import ComponentForm.Proofs.Document.Obstacle
import ComponentForm.Proofs.Form.Places
import ComponentForm.Proofs.Form.Structure
import ComponentForm.Proofs.Document.Distinct
import ComponentForm.Proofs.Outline.Documents
import ComponentForm.Proofs.Form.RoundTrip
import ComponentForm.Proofs.Server.Keeping
import ComponentForm.Proofs.Document.Step
import ComponentForm.Proofs.Document.Target
import ComponentForm.Proofs.Document.Reading
import ComponentForm.Proofs.Document.Sameness
import ComponentForm.Proofs.Form.Answers
import ComponentForm.Proofs.Form.Repetition
import ComponentForm.Proofs.Document.Agreement
import ComponentForm.Proofs.Document.Twins
import ComponentForm.Proofs.Outline.Records
import ComponentForm.Proofs.Form.MemberOrder
import ComponentForm.Proofs.Form.Focus
import ComponentForm.Proofs.Document.Leaves
import ComponentForm.Proofs.Form.Listing
import ComponentForm.Proofs.Form.SearchOrder
import ComponentForm.Proofs.Form.FiringBody
import ComponentForm.Proofs.Form.MessageCalls
import ComponentForm.Proofs.Url.Percent
import ComponentForm.Proofs.Url.Segment
import ComponentForm.Proofs.Server.Addresses
import ComponentForm.Proofs.Document.Parents
import ComponentForm.Proofs.Outline.ReadBack
import ComponentForm.Proofs.Form.Interchange
import ComponentForm.Proofs.Pane.Interchange
import ComponentForm.Proofs.Outline.Slots
import ComponentForm.Proofs.Form.TriggerEntries
