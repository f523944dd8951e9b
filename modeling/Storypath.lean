import Storypath.Main
import Storypath.Playthrough.Demo
import Storypath.Playthrough.Run
import Storypath.Proofs.Script.Outline
import Storypath.Proofs.Script.Reading
import Storypath.Proofs.Script.Search
import Storypath.Proofs.Script.Hops
import Storypath.Proofs.Script.Continuation
import Storypath.Proofs.Script.Story
import Storypath.Proofs.Script.StoryRoundTrip
import Storypath.Proofs.Script.Strictness
import Storypath.Proofs.Session.Failure
import Storypath.Proofs.Session.Ledger
import Storypath.Proofs.Session.Isolation
import Storypath.Proofs.Script.BranchLimit
import Storypath.Proofs.Delivery.Planning
import Storypath.Proofs.Script.TokenLimit
import Storypath.Proofs.Script.Truncation
import Storypath.Proofs.Session.Offering
import Storypath.Proofs.Session.Addressing
import Storypath.Proofs.Playthrough.Agreement
import Storypath.Proofs.Script.Grammar
import Storypath.Proofs.Script.LineEndings
import Storypath.Proofs.Json.Record
import Storypath.Proofs.Json.Magnitude
import Storypath.Proofs.Playthrough.CaseText
import Storypath.Proofs.Playthrough.Recording
import Storypath.Proofs.Delivery.Timing
import Storypath.Proofs.Script.Following
import Storypath.Proofs.Script.Provenance
import Storypath.Proofs.CommandLine.Payload
import Storypath.Proofs.CommandLine.Labels
import Storypath.Proofs.CommandLine.Report
import Storypath.Proofs.Playthrough.Obstacle
import Storypath.Proofs.Playthrough.Waiting
import Storypath.Proofs.Script.Position
import Storypath.Proofs.Script.Malformed
import Storypath.Proofs.Script.Lookahead
import Storypath.Proofs.Script.Spelling
import Storypath.Proofs.Delivery.Range
import Storypath.Proofs.Delivery.Horizon
import Storypath.Proofs.Session.Store
import Storypath.Proofs.CommandLine.Cutting
import Storypath.Proofs.Disk.Components
import Storypath.Proofs.Text.ByteOrder
import Storypath.Proofs.Playthrough.Discovery
import Storypath.Proofs.Script.Coordinates
import Storypath.Proofs.Script.Lines
import Storypath.Proofs.Script.Cursor
import Storypath.Proofs.Script.Calls
import Storypath.Proofs.Script.Slot
