import StepRunner.Main
import StepRunner.Proofs.Artifacts.Dimensions
import StepRunner.Proofs.Artifacts.Secrecy
import StepRunner.Proofs.Artifacts.Thumbnails
import StepRunner.Proofs.Bridge.Addresses
import StepRunner.Proofs.Bridge.Budgets
import StepRunner.Proofs.Bridge.Conversation
import StepRunner.Proofs.Bridge.Framing
import StepRunner.Proofs.Bridge.Limits
import StepRunner.Proofs.Engine.Agreement
import StepRunner.Proofs.Engine.Cancels
import StepRunner.Proofs.Engine.Chronicle
import StepRunner.Proofs.Engine.Deadlines
import StepRunner.Proofs.Engine.Evidence
import StepRunner.Proofs.Engine.Intrusions
import StepRunner.Proofs.Engine.Lifetimes
import StepRunner.Proofs.Engine.Outcome
import StepRunner.Proofs.Engine.Reasons
import StepRunner.Proofs.Engine.Reports
import StepRunner.Proofs.Engine.Snapshots
import StepRunner.Proofs.Engine.Starts
import StepRunner.Proofs.Engine.Stories
import StepRunner.Proofs.Engine.Timelines
import StepRunner.Proofs.Installs.Announcements
import StepRunner.Proofs.Installs.Endings
import StepRunner.Proofs.Installs.Probes
import StepRunner.Proofs.Rehearsal
import StepRunner.Proofs.Service.Desk
import StepRunner.Proofs.Service.Streams
import StepRunner.Proofs.Settings.Saving
import StepRunner.Proofs.Step.Checks
import StepRunner.Proofs.Step.Layout
import StepRunner.Proofs.Step.Storage
import StepRunner.Proofs.Store.Contention
import StepRunner.Proofs.Store.Withdrawals
import StepRunner.Proofs.Toml.Ranges
import StepRunner.Proofs.Wire.Formats
import StepRunner.Rehearsal.Schedule
import StepRunner.Rehearsal.Script
import StepRunner.Service.Stream
import StepRunner.Wire.Canonical
