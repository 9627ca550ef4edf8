import Regen.Generator.Scripted
import Regen.Main
import Regen.Proofs.Config
import Regen.Proofs.Diff.Unified
import Regen.Proofs.Dispatch.Failing
import Regen.Proofs.Dispatch.Pairs
import Regen.Proofs.FieldTable.Constants
import Regen.Proofs.FieldTable.Owners
import Regen.Proofs.Files.Visits
import Regen.Proofs.Generation.Again
import Regen.Proofs.Generation.Chosen
import Regen.Proofs.Generation.Imports
import Regen.Proofs.Generation.Placed
import Regen.Proofs.Generation.Relocate
import Regen.Proofs.Generation.Reordered
import Regen.Proofs.Generator.Listed
import Regen.Proofs.Generator.Tables
import Regen.Proofs.Ident.FieldNames
import Regen.Proofs.Ident.Fixed
import Regen.Proofs.Ident.Neighbours
import Regen.Proofs.Ident.Shortest
import Regen.Proofs.Overrides
import Regen.Proofs.Registry
import Regen.Proofs.Response.Annotations
import Regen.Proofs.Settings
import Regen.Proofs.Settings.Layered
import Regen.Proofs.Sync.Classify
import Regen.Proofs.Sync.Predict
import Regen.Proofs.VersionBlock.Pattern
