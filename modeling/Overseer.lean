import Overseer.Text.Lowercase
import Overseer.Text.Quoted
import Overseer.Text.Unsigned
import Overseer.Text.Blank
import Overseer.Agent.Config
import Overseer.Agent.Daemon
import Overseer.Agent.Dotenv
import Overseer.Agent.Hosted
import Overseer.Agent.Log
import Overseer.Agent.Program
import Overseer.Capture.Pipeline
import Overseer.Json.Value
import Overseer.Processes.Memory
import Overseer.Supervision.Control
import Overseer.Supervision.Execute
import Overseer.Main
import Overseer.Proofs.Terminal.Cleaning
import Overseer.Proofs.Terminal.Scanning
import Overseer.Proofs.Terminal.Sequences
import Overseer.Proofs.Terminal.NormalForm
import Overseer.Proofs.Capture.Lines
import Overseer.Proofs.Capture.LaneRuns
import Overseer.Proofs.Capture.Runs
import Overseer.Proofs.Capture.Drain
import Overseer.Proofs.Capture.CapturedText
import Overseer.Proofs.Capture.CutShort
import Overseer.Proofs.Supervision.CaptureRuns
import Overseer.Proofs.Supervision.Kills
import Overseer.Proofs.Supervision.Programs
import Overseer.Proofs.Agent.Deadlines
import Overseer.Proofs.Script.Sights
import Overseer.Proofs.Script.Calls
import Overseer.Proofs.Script.Looks
import Overseer.Proofs.Script.Outcomes
import Overseer.Proofs.Host.Places
import Overseer.Proofs.Script.Creation
import Overseer.Proofs.Script.Leftovers
import Overseer.Proofs.Script.Writers
import Overseer.Proofs.Script.Truncation
import Overseer.Proofs.Processes.Sweeps
import Overseer.Proofs.Processes.MemorySweeps
import Overseer.Proofs.Processes.Matching
import Overseer.Proofs.Agent.StartSweep
import Overseer.Proofs.Capture.Settling
import Overseer.Proofs.Supervision.Timelines
import Overseer.Proofs.Supervision.KeepingUp
import Overseer.Proofs.Supervision.TimedRuns
import Overseer.Proofs.Supervision.Courses
import Overseer.Proofs.Capture.Plumbing
import Overseer.Proofs.Capture.Delivery
import Overseer.Proofs.Processes.KillCalls
import Overseer.Proofs.Supervision.KillNotes
import Overseer.Proofs.Script.Readers
import Overseer.Proofs.Script.Watching
import Overseer.Proofs.Script.Deadline
import Overseer.Proofs.Host.Entries
import Overseer.Proofs.Host.SoundTrees
import Overseer.Proofs.Script.WrittenFiles
import Overseer.Proofs.Script.Holdings
import Overseer.Proofs.Script.Ownership
import Overseer.Proofs.Script.Removal
import Overseer.Proofs.Text.FinalSigma
import Overseer.Proofs.Processes.ContainedNames
import Overseer.Proofs.Capture.KeptLines
import Overseer.Proofs.Capture.LateLines
import Overseer.Proofs.Terminal.SeparateLines
import Overseer.Proofs.Terminal.LineEndings
import Overseer.Proofs.Processes.AsciiNames
import Overseer.Proofs.Text.Numerals
import Overseer.Proofs.Agent.Settings
import Overseer.Proofs.Load.Fallback
import Overseer.Proofs.Load.ScriptedLoad
import Overseer.Proofs.Agent.Stopping
import Overseer.Proofs.Agent.Bursts
import Overseer.Proofs.Supervision.Requests
import Overseer.Proofs.Supervision.Attendance
import Overseer.Proofs.Supervision.Statuses
import Overseer.Proofs.Text.DigitRuns
import Overseer.Proofs.Json.Grammar
import Overseer.Proofs.Json.Reading
import Overseer.Proofs.Time.Dates
import Overseer.Proofs.Time.WrittenTimes
import Overseer.Proofs.Supervision.WrittenResults
