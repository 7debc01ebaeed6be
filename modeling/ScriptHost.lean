import ScriptHost.Main
import ScriptHost.Report
import ScriptHost.Json.Marked
import ScriptHost.Log.Request
import ScriptHost.Loose
import ScriptHost.Plugin.Listing
import ScriptHost.Proofs.Run
import ScriptHost.Proofs.Session.Hooks
import ScriptHost.Proofs.Session.Lifecycle
import ScriptHost.Proofs.Executor.Operation
import ScriptHost.Proofs.Executor.Injection
import ScriptHost.Proofs.Executor.Sharing
import ScriptHost.Proofs.Executor.Custody
import ScriptHost.Proofs.Executor.Submission
import ScriptHost.Proofs.Executor.Refusal
import ScriptHost.Proofs.Session.Replay
import ScriptHost.Proofs.Executor.Twin
import ScriptHost.Proofs.Executor.Forgetting
import ScriptHost.Proofs.Executor.Stages
import ScriptHost.Proofs.Executor.Confinement
import ScriptHost.Proofs.Artifact.Spelling
import ScriptHost.Proofs.Executor.Provenance
import ScriptHost.Proofs.Command.Ready
import ScriptHost.Proofs.Command.Release
import ScriptHost.Proofs.Session.Contribution
import ScriptHost.Proofs.Command.Planner
import ScriptHost.Proofs.Command.Defaults
import ScriptHost.Proofs.Command.Planning
import ScriptHost.Proofs.Command.Quiet
import ScriptHost.Proofs.Command.Lookup
import ScriptHost.Proofs.Command.Showing
import ScriptHost.Proofs.Config.Precedence
import ScriptHost.Proofs.Yaml.Writing
import ScriptHost.Proofs.Config.Sound
import ScriptHost.Proofs.Disk.Rewriting
import ScriptHost.Proofs.Text.Ascii
import ScriptHost.Proofs.Config.Saving
import ScriptHost.Proofs.Plugin.Registration
import ScriptHost.Proofs.Command.Packs
import ScriptHost.Proofs.Command.Display
import ScriptHost.Proofs.Command.Unconfigured
import ScriptHost.Proofs.Session.Ending
import ScriptHost.Proofs.Session.Attempts
import ScriptHost.Proofs.Plugin.Loading
import ScriptHost.Proofs.Executor.Agreement
import ScriptHost.Proofs.Namespaces
import ScriptHost.Proofs.References
import ScriptHost.Proofs.Log.Lossless
import ScriptHost.Proofs.Artifact.Naming
import ScriptHost.Proofs.Session.Contexts
import ScriptHost.Proofs.Executor.FileName
import ScriptHost.Proofs.Executor.Planned
