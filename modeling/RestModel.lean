import RestModel.Main
import RestModel.Settings.Shape
import RestModel.Workshop
import RestModel.Proofs.Traversal
import RestModel.Proofs.Declaration
import RestModel.Proofs.Entry
import RestModel.Proofs.Fields
import RestModel.Proofs.Inlining
import RestModel.Proofs.Layout
import RestModel.Proofs.Override
import RestModel.Proofs.Quoted
import RestModel.Proofs.Printing
import RestModel.Proofs.Decoding
import RestModel.Proofs.DistinctKeys
import RestModel.Proofs.WholeDocument
import RestModel.Proofs.Run
import RestModel.Proofs.Settings
import RestModel.Proofs.Pipeline
import RestModel.Proofs.Derivation
import RestModel.Proofs.Chain
import RestModel.Proofs.StockStages
import RestModel.Proofs.Workshop
import RestModel.Proofs.Isolation
import RestModel.Proofs.Attributes
import RestModel.Proofs.Addressing
import RestModel.Proofs.Merging
import RestModel.Proofs.Characters
import RestModel.Proofs.Cutting
import RestModel.Proofs.Recasing
import RestModel.Proofs.ClassName
import RestModel.Proofs.VerbNames
import RestModel.Proofs.Tables
import RestModel.Proofs.Acceptance
import RestModel.Proofs.Forms
import RestModel.Proofs.Trace
import RestModel.Proofs.Log
import RestModel.Proofs.Identifiers
import RestModel.Proofs.VisibleNames
import RestModel.Proofs.Policies
import RestModel.Proofs.Casings
import RestModel.Proofs.ShownWords
import RestModel.Proofs.VerbKeys
import RestModel.Proofs.Clashes
