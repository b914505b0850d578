import TransportSeams.Adapter.Basic
import TransportSeams.Adapter.Catalog
import TransportSeams.Adapter.Direct
import TransportSeams.Adapter.Handlers
import TransportSeams.Adapter.Pooling
import TransportSeams.Backend
import TransportSeams.Command.Arguments
import TransportSeams.Command.Rehearsal
import TransportSeams.Command.Run
import TransportSeams.Config.Basic
import TransportSeams.Config.File
import TransportSeams.Config.Load
import TransportSeams.Digest.Sha256
import TransportSeams.Error
import TransportSeams.Event
import TransportSeams.Files.Disk
import TransportSeams.Files.Fault
import TransportSeams.Files.Memory
import TransportSeams.Files.Path
import TransportSeams.Json.Value
import TransportSeams.Json.Writer
import TransportSeams.KeyMap
import TransportSeams.Listing
import TransportSeams.Main
import TransportSeams.Patch.Basic
import TransportSeams.Patch.Restore
import TransportSeams.Pool.Basic
import TransportSeams.Pool.Checkout
import TransportSeams.Pool.Guard
import TransportSeams.Pool.Primitive
import TransportSeams.Pool.Tracker
import TransportSeams.Proofs.Adapter.Agreement
import TransportSeams.Proofs.Adapter.Answering
import TransportSeams.Proofs.Adapter.Blindness
import TransportSeams.Proofs.Adapter.Covering
import TransportSeams.Proofs.Adapter.Effects
import TransportSeams.Proofs.Adapter.Emitting
import TransportSeams.Proofs.Adapter.Handlers
import TransportSeams.Proofs.Adapter.Lending
import TransportSeams.Proofs.Adapter.Ordering
import TransportSeams.Proofs.Adapter.Outfitting
import TransportSeams.Proofs.Adapter.Pooling
import TransportSeams.Proofs.Adapter.Shape
import TransportSeams.Proofs.Adapter.Sites
import TransportSeams.Proofs.Command.Outcome
import TransportSeams.Proofs.Config.Precedence
import TransportSeams.Proofs.Evaluation
import TransportSeams.Proofs.Files.Disk
import TransportSeams.Proofs.Files.Operations
import TransportSeams.Proofs.Json.Reading
import TransportSeams.Proofs.Json.Writing
import TransportSeams.Proofs.Pool.Blindness
import TransportSeams.Proofs.Pool.Commuting
import TransportSeams.Proofs.Pool.Draining
import TransportSeams.Proofs.Pool.Effects
import TransportSeams.Proofs.Pool.Retrying
import TransportSeams.Proofs.Pool.Serving
import TransportSeams.Proofs.Pool.Sifting
import TransportSeams.Proofs.Pool.Stacking
import TransportSeams.Proofs.Registry.Bindings
import TransportSeams.Proofs.Registry.Origins
import TransportSeams.Proofs.Registry.Reference
import TransportSeams.Proofs.Registry.Resetting
import TransportSeams.Proofs.Run.Bracketing
import TransportSeams.Proofs.Run.Calls
import TransportSeams.Proofs.Run.CustomTypes
import TransportSeams.Proofs.Run.Handlers
import TransportSeams.Proofs.Run.Handling
import TransportSeams.Proofs.Run.Hygiene
import TransportSeams.Proofs.Run.Interleaving
import TransportSeams.Proofs.Run.Living
import TransportSeams.Proofs.Run.Ordering
import TransportSeams.Proofs.Run.Overlay
import TransportSeams.Proofs.Run.Pooling
import TransportSeams.Proofs.Run.Rebuilding
import TransportSeams.Proofs.Run.Recovery
import TransportSeams.Proofs.Run.Registrations
import TransportSeams.Proofs.Run.Scrubbing
import TransportSeams.Proofs.Run.Serving
import TransportSeams.Proofs.Run.Stage
import TransportSeams.Proofs.Run.Supplies
import TransportSeams.Proofs.Run.Switching
import TransportSeams.Proofs.Run.Turns
import TransportSeams.Proofs.RunLog.Families
import TransportSeams.Proofs.RunLog.Noninterference
import TransportSeams.Proofs.RunLog.Pruning
import TransportSeams.Proofs.RunLog.Reading
import TransportSeams.Proofs.RunLog.Truncation
import TransportSeams.Proofs.Scope.Agreement
import TransportSeams.Proofs.Scope.Blindness
import TransportSeams.Proofs.Scope.Building
import TransportSeams.Proofs.Scope.Effects
import TransportSeams.Proofs.Scope.Locality
import TransportSeams.Proofs.Scope.Origins
import TransportSeams.Proofs.Scope.Overlay
import TransportSeams.Proofs.Scope.Shape
import TransportSeams.Proofs.Scope.Supplies
import TransportSeams.Proofs.Scope.Telling
import TransportSeams.Proofs.Scope.Undoing
import TransportSeams.Proofs.Seam.Identity
import TransportSeams.Proofs.SelfCheck.Blindness
import TransportSeams.Proofs.SelfCheck.Building
import TransportSeams.Proofs.SelfCheck.Closing
import TransportSeams.Proofs.SelfCheck.Exercising
import TransportSeams.Proofs.SelfCheck.Opening
import TransportSeams.Proofs.SelfCheck.Outcome
import TransportSeams.Proofs.SelfCheck.Preparing
import TransportSeams.Proofs.SelfCheck.Registering
import TransportSeams.Proofs.SelfCheck.Stocking
import TransportSeams.Proofs.Substitute.Binding
import TransportSeams.Proofs.Substitute.History
import TransportSeams.Proofs.Substitute.Identity
import TransportSeams.Proofs.Substitute.Lineage
import TransportSeams.Proofs.Substitute.Rewriting
import TransportSeams.Proofs.Text.Bytes
import TransportSeams.Proofs.Version.Grammar
import TransportSeams.Proofs.World.Blindness
import TransportSeams.Proofs.World.Extension
import TransportSeams.Proofs.World.Retention
import TransportSeams.Proofs.World.Telling
import TransportSeams.Reference.Manifests
import TransportSeams.Registry.Basic
import TransportSeams.Registry.Manifest
import TransportSeams.Registry.Operations
import TransportSeams.RunLog.Logger
import TransportSeams.RunLog.Pruning
import TransportSeams.RunLog.Record
import TransportSeams.Scope.Basic
import TransportSeams.Scope.Builder
import TransportSeams.Scope.Inspection
import TransportSeams.Scope.Resource
import TransportSeams.Seam.Key
import TransportSeams.Seam.Kind
import TransportSeams.Seam.Value
import TransportSeams.SelfCheck
import TransportSeams.Session.Basic
import TransportSeams.Session.Identity
import TransportSeams.Store
import TransportSeams.Stub.Catalog
import TransportSeams.Stub.Shelf
import TransportSeams.Substitute.Cache
import TransportSeams.Substitute.Resolve
import TransportSeams.Terminal
import TransportSeams.Text.Blank
import TransportSeams.Text.Decimal
import TransportSeams.Text.Hexadecimal
import TransportSeams.Text.Pieces
import TransportSeams.Text.Plain
import TransportSeams.Text.Quoted
import TransportSeams.Text.Visible
import TransportSeams.Toml.Document
import TransportSeams.Toml.Key
import TransportSeams.Toml.Layout
import TransportSeams.Toml.Moment
import TransportSeams.Toml.Number
import TransportSeams.Toml.Quoted
import TransportSeams.Toml.Reader
import TransportSeams.Toml.Table
import TransportSeams.Toml.Value
import TransportSeams.Transport.Connection
import TransportSeams.Transport.Handler
import TransportSeams.Transport.Type
import TransportSeams.Version
import TransportSeams.World.Basic
