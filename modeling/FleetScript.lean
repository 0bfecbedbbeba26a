import FleetScript.Main
import FleetScript.Proofs.Queue.Joining
import FleetScript.Proofs.Script.Grammar
import FleetScript.Proofs.Session.Clients
import FleetScript.Proofs.Scopes.Changes
import FleetScript.Proofs.Host.Table
import FleetScript.Proofs.Runner.Compile
import FleetScript.Proofs.Runner.History
import FleetScript.Proofs.Host.Columns
import FleetScript.Proofs.Host.Schemes
import FleetScript.Proofs.Script.Rendering
import FleetScript.Proofs.Runner.Tables
import FleetScript.Proofs.Disk.Places
import FleetScript.Proofs.Dispatch.Steps
import FleetScript.Proofs.Session.DryRun
import FleetScript.Proofs.Dispatch.Progress
import FleetScript.Proofs.Dispatch.Course
import FleetScript.Proofs.Dispatch.Logs
import FleetScript.Proofs.Host.Hostnames
import FleetScript.Proofs.Dispatch.Schedules
import FleetScript.Proofs.Session.Success
import FleetScript.Proofs.Session.Rehearsal
import FleetScript.Proofs.Runner.Operations
import FleetScript.Proofs.Runner.Loading
import FleetScript.Proofs.Dispatch.Handling
import FleetScript.Proofs.Dispatch.Stopping
import FleetScript.Proofs.Text.Coding
import FleetScript.Proofs.Host.Writing
import FleetScript.Proofs.Host.Bare
import FleetScript.Proofs.Session.Logs
import FleetScript.Proofs.Session.Output
import FleetScript.Proofs.Session.Appending
import FleetScript.Proofs.Host.Padding
import FleetScript.Proofs.Runner.Protocols
import FleetScript.Proofs.Json.Lexing
import FleetScript.Proofs.Json.Reading
import FleetScript.Proofs.Settings.Saving
import FleetScript.Proofs.Session.Pairs
import FleetScript.Proofs.Session.Passwords
import FleetScript.Proofs.Runner.Passwords
import FleetScript.Proofs.Runner.HostArguments
import FleetScript.Proofs.Session.Framing
import FleetScript.Proofs.Runner.Framing
import FleetScript.Proofs.Json.Grammar
import FleetScript.Proofs.Json.Records
import FleetScript.Proofs.Settings.Loading
import FleetScript.Proofs.Runner.LogFiles
import FleetScript.Proofs.Dispatch.Skipping
import FleetScript.Proofs.Dispatch.Waiting
import FleetScript.Proofs.Dispatch.Completion
import FleetScript.Proofs.Dispatch.Reports
import FleetScript.Proofs.Runner.Overview
import FleetScript.Proofs.Program.Tally
import FleetScript.Proofs.Script.Commands
import FleetScript.Proofs.Host.IPv6
import FleetScript.Proofs.Runner.Literals
import FleetScript.Proofs.Host.Tabs
import FleetScript.Proofs.Host.Importing
import FleetScript.Proofs.Path.Extension
import FleetScript.Proofs.Disk.Growth
import FleetScript.Proofs.Settings.Backup
import FleetScript.Proofs.Script.Escaping
import FleetScript.Proofs.Runner.Scripts
import FleetScript.Proofs.Runner.Origins
import FleetScript.Proofs.Host.Registration
