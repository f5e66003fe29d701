import Terminal.Main
import Terminal.Outside
import Terminal.Proofs.Files.Making
import Terminal.Proofs.Files.Splice
import Terminal.Proofs.Path.Settle
import Terminal.Session.Trial
import Terminal.Web.Service
import Terminal.Proofs.Files.Order
import Terminal.Proofs.Files.Operations
import Terminal.Proofs.Files.PathMap
import Terminal.Proofs.Files.Refinement
import Terminal.Proofs.Files.Reachable
import Terminal.Proofs.Session.Files
import Terminal.Proofs.Removal.Search
import Terminal.Proofs.Removal.Walk
import Terminal.Proofs.Removal.Ending
import Terminal.Proofs.Files.Clearing
import Terminal.Proofs.Removal.Recursive
import Terminal.Proofs.Session.Change
import Terminal.Proofs.Session.Effect
import Terminal.Proofs.Session.Scene
import Terminal.Proofs.Session.Exclusion
import Terminal.Proofs.Session.Ledger
import Terminal.Proofs.Session.Cancelling
import Terminal.Proofs.Web.Plan
import Terminal.Proofs.Web.View
import Terminal.Proofs.Commands.Footprint
import Terminal.Proofs.Commands.Catalogue
import Terminal.Proofs.Commands.Excerpt
import Terminal.Proofs.Commands.Selecting
import Terminal.Proofs.Commands.Recounting
import Terminal.Proofs.Commands.MakingWay
import Terminal.Proofs.Session.Directory
import Terminal.Proofs.Session.Audit
import Terminal.Proofs.Session.Failing
import Terminal.Proofs.Decimal.Rounding
import Terminal.Proofs.Ping.Report
import Terminal.Proofs.Ping.Summary
import Terminal.Proofs.Session.History
import Terminal.Proofs.Files.Ticking
import Terminal.Proofs.Files.WellFormed
import Terminal.Proofs.Files.Outline
import Terminal.Proofs.Files.Drawing
import Terminal.Proofs.Session.Printed
import Terminal.Proofs.Ping.Steady
import Terminal.Proofs.Ping.Undisturbed
import Terminal.Proofs.Ping.Cut
import Terminal.Proofs.Path.Laws
import Terminal.Proofs.Session.Links
import Terminal.Proofs.Commands.Own
import Terminal.Proofs.Web.Exchange
import Terminal.Proofs.Session.Frame
import Terminal.Proofs.Commands.Blind
import Terminal.Proofs.Session.Alike
import Terminal.Proofs.Session.Stray
import Terminal.Proofs.Files.Independence
import Terminal.Proofs.Session.Waiting
import Terminal.Proofs.Session.Entering
import Terminal.Proofs.Commands.Sparing
import Terminal.Proofs.Session.Toggling
import Terminal.Proofs.Text.Fields
import Terminal.Proofs.Files.Names
import Terminal.Proofs.Completion.Candidates
import Terminal.Proofs.Completion.Extension
import Terminal.Proofs.Completion.Mode
import Terminal.Proofs.Session.Composing
import Terminal.Proofs.Completion.Ordering
import Terminal.Proofs.Recall.Steering
import Terminal.Proofs.Recall.Restart
import Terminal.Proofs.Table
import Terminal.Proofs.Commands.Register
import Terminal.Proofs.Session.Variables
import Terminal.Proofs.Commands.Assigning
import Terminal.Proofs.Commands.Listing
import Terminal.Proofs.Session.Telling
import Terminal.Proofs.Console.Transcript
import Terminal.Proofs.Console.Sitting
import Terminal.Proofs.Commands.Decoding
import Terminal.Proofs.Removal.Order
import Terminal.Proofs.Log
import Terminal.Proofs.Token
