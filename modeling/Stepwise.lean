import Stepwise.Bridge.Switchboard
import Stepwise.Json.Writer
import Stepwise.Main
import Stepwise.Proofs.Run.Integrity
import Stepwise.Proofs.Script.Reach
import Stepwise.Runner.Scripted
import Stepwise.Proofs.Record.Fields
import Stepwise.Proofs.Script.Schema
import Stepwise.Proofs.Script.RoundTrip
import Stepwise.Proofs.Script.Pruned
import Stepwise.Proofs.Run.Pruned
import Stepwise.Proofs.Bridge.Journal
import Stepwise.Proofs.Bridge.Agreement
import Stepwise.Proofs.Session.Scene
import Stepwise.Proofs.Session.Serve
import Stepwise.Proofs.Session.Course
import Stepwise.Proofs.Session.Stage
import Stepwise.Proofs.Session.Moves
import Stepwise.Proofs.Run.Replay
import Stepwise.Proofs.Session.Played
import Stepwise.Proofs.Session.Retraced
import Stepwise.Proofs.Session.Replay
import Stepwise.Proofs.Bridge.Calm
import Stepwise.Proofs.Session.Schedule
import Stepwise.Proofs.Run.Trail
import Stepwise.Proofs.Session.Standing
import Stepwise.Proofs.Session.Order
import Stepwise.Proofs.Session.Spared
import Stepwise.Proofs.Session.Chronicle
import Stepwise.Proofs.Session.Recorded
import Stepwise.Proofs.Session.Coherent
import Stepwise.Proofs.Session.Deferral
import Stepwise.Proofs.Session.Lifecycle
import Stepwise.Proofs.Session.Abandoned
import Stepwise.Proofs.Session.Cancelled
import Stepwise.Proofs.Session.Failed
import Stepwise.Proofs.Run.Budget
import Stepwise.Proofs.Bridge.Replayed
import Stepwise.Proofs.Run.Leads
import Stepwise.Proofs.Bridge.Interview
import Stepwise.Proofs.Bridge.Retold
import Stepwise.Proofs.Run.Posed
import Stepwise.Proofs.Run.Latest
import Stepwise.Proofs.Bridge.Heeds
import Stepwise.Proofs.Session.Minds
import Stepwise.Proofs.Session.Attends
import Stepwise.Proofs.Session.Returned
import Stepwise.Proofs.Run.Truth
import Stepwise.Proofs.Guard.Confined
import Stepwise.Proofs.Store.Refinement
import Stepwise.Proofs.Bridge.Closed
import Stepwise.Proofs.Run.Chosen
import Stepwise.Proofs.Surface.Attended
import Stepwise.Proofs.Surface.Verdict
import Stepwise.Proofs.Cli.Agreed
import Stepwise.Proofs.Bridge.Awaited
import Stepwise.Proofs.Run.Account
import Stepwise.Proofs.Run.Guided
import Stepwise.Proofs.Run.Bypassed
import Stepwise.Proofs.Script.Violation
import Stepwise.Proofs.Bundle.Listed
import Stepwise.Proofs.Bundle.Source
import Stepwise.Proofs.Bundle.Named
import Stepwise.Proofs.Text.Digits
import Stepwise.Proofs.Runner.Menu
import Stepwise.Proofs.Json.Keys
import Stepwise.Proofs.Bundle.Discovered
import Stepwise.Proofs.Console.Markup
import Stepwise.Proofs.Cli.Checked
import Stepwise.Proofs.Runner.Reported
import Stepwise.Proofs.Run.Commanded
import Stepwise.Proofs.Guard.Named
