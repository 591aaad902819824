import Scaffold.Disk
import Scaffold.Main
import Scaffold.Store
import Scaffold.Store.Session
import Scaffold.Proofs.Entity.Building
import Scaffold.Proofs.Batch.Run
import Scaffold.Proofs.Batch.Trace
import Scaffold.Proofs.Batch.Accounting
import Scaffold.Proofs.Store
import Scaffold.Proofs.Batch.Faults
import Scaffold.Proofs.Batch.ParentKeys
import Scaffold.Proofs.Render.Delete
import Scaffold.Proofs.Text.Splitting
import Scaffold.Proofs.Path
import Scaffold.Proofs.Name.Composite
import Scaffold.Proofs.Layout.Collisions
import Scaffold.Proofs.Source.Brackets
import Scaffold.Proofs.Render.Nesting
import Scaffold.Proofs.Render.Seeds
import Scaffold.Proofs.Source.Imports
import Scaffold.Proofs.Render.Files
import Scaffold.Proofs.Render.Imports
import Scaffold.Proofs.Entity.Seeds
import Scaffold.Proofs.Render.Flags
import Scaffold.Proofs.Source.Lines
import Scaffold.Proofs.Source.Steps
import Scaffold.Proofs.Entity.Built
import Scaffold.Proofs.Render.Steps
import Scaffold.Proofs.Render.Guard
import Scaffold.Proofs.Render.Protection
import Scaffold.Proofs.Render.Seeding
import Scaffold.Proofs.Batch.DryRun
import Scaffold.Proofs.Batch.Handover
import Scaffold.Proofs.Batch.Singly
import Scaffold.Proofs.Store.Order
import Scaffold.Proofs.Store.Log
import Scaffold.Proofs.Batch.Memory
import Scaffold.Proofs.Batch.Rearranged
import Scaffold.Proofs.Source.Depth
import Scaffold.Proofs.Source.Margin
import Scaffold.Proofs.Render.Margin
import Scaffold.Proofs.Render.Delimited
import Scaffold.Proofs.Render.Needs
import Scaffold.Proofs.Render.PlainProperties
import Scaffold.Proofs.Manifest.Entries
import Scaffold.Proofs.Name.Pascal
import Scaffold.Proofs.Entity.Rebuilding
import Scaffold.Proofs.Entity.Locals
import Scaffold.Proofs.Render.LookUps
import Scaffold.Proofs.Summary
import Scaffold.Proofs.Name.Inflection
import Scaffold.Proofs.Layout.FileNames
import Scaffold.Proofs.Listing
import Scaffold.Proofs.Batch.Refusals
import Scaffold.Proofs.Source.Offers
import Scaffold.Proofs.Source.Edits
import Scaffold.Proofs.Choice
import Scaffold.Proofs.Render.Permission
import Scaffold.Proofs.Name.Normal
import Scaffold.Proofs.Selection
