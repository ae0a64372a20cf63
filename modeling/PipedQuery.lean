import PipedQuery.Main
import PipedQuery.Shell.Completion
import PipedQuery.Shell.Highlight
import PipedQuery.Workbench
import PipedQuery.Proofs.ResetIsolation
import PipedQuery.Proofs.FieldResidence
import PipedQuery.Proofs.BatchOrigin
import PipedQuery.Proofs.CacheTransparency
import PipedQuery.Proofs.Pipeline
import PipedQuery.Proofs.ValueOrigin
import PipedQuery.Proofs.Dialogue
import PipedQuery.Proofs.Extension
import PipedQuery.Proofs.CatalogOrigin
import PipedQuery.Proofs.HiddenIndices
import PipedQuery.Proofs.IndexList
import PipedQuery.Proofs.Repetition
import PipedQuery.Proofs.Keystrokes
import PipedQuery.Proofs.Closing
import PipedQuery.Proofs.Erasure
import PipedQuery.Proofs.BaseUrl
import PipedQuery.Proofs.Reconnection
import PipedQuery.Proofs.Inspection
import PipedQuery.Proofs.FieldPaths
import PipedQuery.Proofs.SampleOffer
import PipedQuery.Proofs.ClauseCompletion
import PipedQuery.Proofs.Generations
import PipedQuery.Proofs.IndexSegment
import PipedQuery.Proofs.VisibleText
import PipedQuery.Proofs.CsvReading
import PipedQuery.Proofs.JsonForms
import PipedQuery.Proofs.WordCuts
