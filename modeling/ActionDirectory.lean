import ActionDirectory.Action.Collection
import ActionDirectory.Catalog
import ActionDirectory.Session
import ActionDirectory.Settings.Json
import ActionDirectory.Settings.Toml
import ActionDirectory.Registry.Handle
import ActionDirectory.Registry.Workload
import ActionDirectory.Wire.Collection
import ActionDirectory.Wire.Notification
import ActionDirectory.Wire.Plain
import ActionDirectory.Proofs.History
import ActionDirectory.Proofs.Reflection
import ActionDirectory.Proofs.Handles
import ActionDirectory.Proofs.NameIndex
import ActionDirectory.Proofs.Identifiers
import ActionDirectory.Proofs.Snapshot
import ActionDirectory.Proofs.Interleaving
import ActionDirectory.Proofs.Replay
import ActionDirectory.Proofs.FirstWriter
import ActionDirectory.Proofs.Decoding
import ActionDirectory.Proofs.Recovery
import ActionDirectory.Proofs.JsonText
import ActionDirectory.Proofs.RoundTrip
import ActionDirectory.Proofs.Noninterference
import ActionDirectory.Proofs.Convergence
import ActionDirectory.Proofs.Instances
import ActionDirectory.Proofs.Numbers
import ActionDirectory.Proofs.Guarded
import ActionDirectory.Proofs.Filling
import ActionDirectory.Proofs.JsonObject
import ActionDirectory.Proofs.Rendering
import ActionDirectory.Proofs.TomlDocument
import ActionDirectory.Proofs.PolicyWords
import ActionDirectory.Proofs.Spelling
import ActionDirectory.Proofs.Listing
import ActionDirectory.Proofs.Rebuilding
import ActionDirectory.Proofs.SpacedText
import ActionDirectory.Proofs.OrderedMap
import ActionDirectory.Proofs.Elementwise
import ActionDirectory.Proofs.Collections
import ActionDirectory.Proofs.WordForms
import ActionDirectory.Proofs.Overlay
import ActionDirectory.Proofs.TopLevel
import ActionDirectory.Proofs.DocumentSettings
import ActionDirectory.Proofs.Consistency
import ActionDirectory.Proofs.Messages
import ActionDirectory.Proofs.JsonValues
import ActionDirectory.Proofs.ObjectSettings
