import UnitCatalogue.Lookup
import UnitCatalogue.CommandLine.Execution
import UnitCatalogue.Proofs.ReadingBack
import UnitCatalogue.Proofs.AliasItems
import UnitCatalogue.Proofs.GenerationOutcome
import UnitCatalogue.Proofs.EmptyIdentifiers
import UnitCatalogue.Proofs.FirstOccurrence
import UnitCatalogue.Proofs.LookupTables
import UnitCatalogue.Proofs.RenderingLog
import UnitCatalogue.Proofs.NamelessRows
import UnitCatalogue.Proofs.RowOrder
import UnitCatalogue.Proofs.DroppedRows
import UnitCatalogue.Proofs.ReplacementRuns
import UnitCatalogue.Proofs.Regeneration
import UnitCatalogue.Proofs.CommandOutcome
import UnitCatalogue.Proofs.LiteralDecoding
import UnitCatalogue.Proofs.IdentifierGrammar
import UnitCatalogue.Proofs.SingleScan
import UnitCatalogue.Proofs.CollidingSpellings
import UnitCatalogue.Proofs.StableIdentifiers
import UnitCatalogue.Proofs.BinaryValues
import UnitCatalogue.Proofs.NearestBinary
import UnitCatalogue.Proofs.SelectedAliases
import UnitCatalogue.Proofs.ShortestDecimals
import UnitCatalogue.Proofs.NumberTexts
import UnitCatalogue.Proofs.ColumnLayout
import UnitCatalogue.Proofs.EmptyTexts
import UnitCatalogue.Proofs.DocumentOverlay
import UnitCatalogue.Proofs.QuotedLabels
