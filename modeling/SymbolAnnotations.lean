import SymbolAnnotations.File.System
import SymbolAnnotations.Main
import SymbolAnnotations.Rune.ClassRanges
import SymbolAnnotations.TokenParser
import SymbolAnnotations.Text.Utf8.Lemmas
import SymbolAnnotations.Proofs.Reading
import SymbolAnnotations.Proofs.ReadingAgreement
import SymbolAnnotations.Proofs.ValidPrefix
import SymbolAnnotations.Proofs.ParseRun
import SymbolAnnotations.Proofs.RuneClasses
import SymbolAnnotations.Proofs.MalformedSource
import SymbolAnnotations.Proofs.ViablePrefix
import SymbolAnnotations.Proofs.Grammar
import SymbolAnnotations.Proofs.GrammarSoundness
import SymbolAnnotations.Proofs.GrammarCompleteness
import SymbolAnnotations.Proofs.PathNames
import SymbolAnnotations.Proofs.StoreImage
import SymbolAnnotations.Proofs.NestedPaths
import SymbolAnnotations.Proofs.TokenizerCalls
import SymbolAnnotations.Proofs.FaultCoordinates
import SymbolAnnotations.Proofs.Displacement
import SymbolAnnotations.Proofs.Layout
import SymbolAnnotations.Proofs.JoinedSources
import SymbolAnnotations.Proofs.EnclosingBlock
import SymbolAnnotations.Proofs.PathsBelow
import SymbolAnnotations.Proofs.PackageNames
import SymbolAnnotations.Proofs.DirectoryTree
import SymbolAnnotations.Proofs.DirectoryLoading
import SymbolAnnotations.Proofs.FailureReports
import SymbolAnnotations.Proofs.CheckRuns
import SymbolAnnotations.Proofs.WalkedPaths
import SymbolAnnotations.Proofs.CommandAgreement
import SymbolAnnotations.Proofs.JsonGrammar
import SymbolAnnotations.Proofs.JsonRoundTrip
import SymbolAnnotations.Proofs.JsonOutput
import SymbolAnnotations.Proofs.FlatDump
import SymbolAnnotations.Proofs.TextDump
import SymbolAnnotations.Proofs.JoinedPaths
import SymbolAnnotations.Proofs.ShownLines
import SymbolAnnotations.Proofs.MalformedPieces
import SymbolAnnotations.Proofs.ShownFaults
import SymbolAnnotations.Proofs.ReportedPlace
import SymbolAnnotations.Proofs.CountingParser
import SymbolAnnotations.Proofs.CountingProductions
import SymbolAnnotations.Proofs.CountedReading
import SymbolAnnotations.Proofs.NestingGuard
import SymbolAnnotations.Proofs.TokenReading
import SymbolAnnotations.Proofs.ContinuedReading
