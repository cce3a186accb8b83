import CommandTree.Main
import CommandTree.Rehearsal.Act
import CommandTree.Rehearsal.Script
import CommandTree.Proofs.Token.Pieces
import CommandTree.Proofs.Token.Layout
import CommandTree.Proofs.Registry.Growth
import CommandTree.Proofs.Registry.Shape
import CommandTree.Proofs.Registry.Schema
import CommandTree.Proofs.Dispatch.Readings
import CommandTree.Proofs.Cooldown
import CommandTree.Proofs.Dispatch.Course
import CommandTree.Proofs.Dispatch.Words
import CommandTree.Proofs.Dispatch.Selection
import CommandTree.Proofs.Dispatch.Effects
import CommandTree.Proofs.Dispatch.Validity
import CommandTree.Proofs.Dispatch.Values
import CommandTree.Proofs.Dispatch.Permission
import CommandTree.Proofs.Dispatch.History
import CommandTree.Proofs.Dispatch.Bookkeeping
import CommandTree.Proofs.Registry.Ancestry
import CommandTree.Proofs.Registry.Arena
import CommandTree.Proofs.Registry.Names
import CommandTree.Proofs.Registry.Owners
import CommandTree.Proofs.Registry.Atomicity
import CommandTree.Proofs.Resolve.Greedy
import CommandTree.Proofs.Shell.Conduct
import CommandTree.Proofs.Blank
import CommandTree.Proofs.Shell.Said
import CommandTree.Proofs.Shell.Lines
import CommandTree.Proofs.Resolve.Shadow
import CommandTree.Proofs.Shell.Builtin
import CommandTree.Proofs.Json.Escape
import CommandTree.Proofs.Json.RoundTrip
import CommandTree.Proofs.Message
import CommandTree.Proofs.Dispatch.Locations
import CommandTree.Proofs.Help.Command
import CommandTree.Proofs.Settings.Layers
import CommandTree.Proofs.Resolve.Fault
import CommandTree.Proofs.Resolve.Lookahead
import CommandTree.Proofs.Registry.Leaves
import CommandTree.Proofs.Dispatch.Deepest
import CommandTree.Proofs.Help.Usage
import CommandTree.Proofs.Registry.Additions
import CommandTree.Proofs.Help.Pages
import CommandTree.Proofs.Dispatch.Reports
import CommandTree.Proofs.Dispatch.Alone
import CommandTree.Proofs.Teleport.Tree
import CommandTree.Proofs.Teleport.Grammar
import CommandTree.Proofs.Teleport.Effect
import CommandTree.Proofs.Cooldown.Trace
import CommandTree.Proofs.Suggest.Rank
import CommandTree.Proofs.Dispatch.Unknown
import CommandTree.Proofs.Settings.Documents
import CommandTree.Proofs.Settings.Files
import CommandTree.Proofs.Settings.Precedence
import CommandTree.Proofs.Numeral
