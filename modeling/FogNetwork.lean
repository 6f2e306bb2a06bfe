import FogNetwork.Actuator
import FogNetwork.Agenda
import FogNetwork.Application.Declaration
import FogNetwork.Application.Graph
import FogNetwork.Coding.Basic
import FogNetwork.Coding.Forms
import FogNetwork.CommandLine.Command
import FogNetwork.CommandLine.Options
import FogNetwork.Config.Basic
import FogNetwork.Config.Reader
import FogNetwork.Decimal.Binary
import FogNetwork.Decimal.Nearest
import FogNetwork.Decimal.Shortest
import FogNetwork.Demo
import FogNetwork.Device.Basic
import FogNetwork.Device.Links
import FogNetwork.Device.Recorder
import FogNetwork.Device.Relay
import FogNetwork.Event
import FogNetwork.Identifier
import FogNetwork.Json.Basic
import FogNetwork.Json.Compact
import FogNetwork.Json.Pretty
import FogNetwork.Json.Reader
import FogNetwork.Main
import FogNetwork.Measurement.Average
import FogNetwork.Measurement.Timings
import FogNetwork.Measurement.Usage
import FogNetwork.Notice
import FogNetwork.Orchestrator.Basic
import FogNetwork.Orchestrator.Dispatch
import FogNetwork.Orchestrator.Figures
import FogNetwork.Orchestrator.Registration
import FogNetwork.Orchestrator.Start
import FogNetwork.Orchestrator.Submission
import FogNetwork.Placement.Basic
import FogNetwork.Placement.Mapping
import FogNetwork.Proofs.Accounts
import FogNetwork.Proofs.Activation
import FogNetwork.Proofs.Acts
import FogNetwork.Proofs.Alarms
import FogNetwork.Proofs.Answers
import FogNetwork.Proofs.Briefings
import FogNetwork.Proofs.Building
import FogNetwork.Proofs.Chronicle
import FogNetwork.Proofs.Closing
import FogNetwork.Proofs.Conservation
import FogNetwork.Proofs.Conversations
import FogNetwork.Proofs.Deeds
import FogNetwork.Proofs.Deliveries
import FogNetwork.Proofs.Drivers
import FogNetwork.Proofs.Dues
import FogNetwork.Proofs.Emissions
import FogNetwork.Proofs.Endings
import FogNetwork.Proofs.Engine
import FogNetwork.Proofs.Entries
import FogNetwork.Proofs.Executions
import FogNetwork.Proofs.Exporting
import FogNetwork.Proofs.Extension
import FogNetwork.Proofs.Fanout
import FogNetwork.Proofs.Forwarding
import FogNetwork.Proofs.Halting
import FogNetwork.Proofs.Handlers
import FogNetwork.Proofs.Histories
import FogNetwork.Proofs.Horizon
import FogNetwork.Proofs.Launches
import FogNetwork.Proofs.Loops
import FogNetwork.Proofs.Openings
import FogNetwork.Proofs.Outstanding
import FogNetwork.Proofs.Pace
import FogNetwork.Proofs.Preparation
import FogNetwork.Proofs.Reactions
import FogNetwork.Proofs.Reception
import FogNetwork.Proofs.Reordering
import FogNetwork.Proofs.Requests
import FogNetwork.Proofs.Rounds
import FogNetwork.Proofs.Routes
import FogNetwork.Proofs.Routing
import FogNetwork.Proofs.Runs
import FogNetwork.Proofs.Scripts
import FogNetwork.Proofs.Service
import FogNetwork.Proofs.Subscriptions
import FogNetwork.Proofs.Ticks
import FogNetwork.Proofs.Timekeeping
import FogNetwork.Proofs.Trips
import FogNetwork.Proofs.Views
import FogNetwork.Proofs.Whereabouts
import FogNetwork.Proofs.Wires
import FogNetwork.Quantity
import FogNetwork.Rejection
import FogNetwork.Report.Exporter
import FogNetwork.Report.Snapshot
import FogNetwork.Run
import FogNetwork.Scenario.Basic
import FogNetwork.Scenario.Blueprint
import FogNetwork.Scenario.Wiring
import FogNetwork.Sensor
import FogNetwork.Simulation.Context
import FogNetwork.Simulation.Engine
import FogNetwork.SortedMap.Basic
import FogNetwork.SortedMap.Lemmas
import FogNetwork.Text.Category
import FogNetwork.Text.Quoted
import FogNetwork.Text.Reader
import FogNetwork.Time
import FogNetwork.Toml.Document
import FogNetwork.Toml.Number
import FogNetwork.Toml.Scan
import FogNetwork.Toml.Table
import FogNetwork.Toml.Text
import FogNetwork.Topology.Hierarchy
import FogNetwork.Topology.Path
import FogNetwork.Tuple
import FogNetwork.Proofs.Actuation
import FogNetwork.Proofs.Documents
import FogNetwork.Proofs.Spellings
import FogNetwork.Proofs.Lineage
import FogNetwork.Proofs.Samples
import FogNetwork.Proofs.Children
import FogNetwork.Proofs.Backlogs
import FogNetwork.Proofs.Paths
import FogNetwork.Proofs.Rearming
import FogNetwork.Proofs.Enrolment
import FogNetwork.Proofs.Admission
import FogNetwork.Proofs.Resubmission
import FogNetwork.Proofs.Starting
import FogNetwork.Proofs.Declarations
import FogNetwork.Proofs.Matches
import FogNetwork.Proofs.Acceptance
import FogNetwork.Proofs.Namesakes
import FogNetwork.Proofs.Recipients
