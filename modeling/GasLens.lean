import GasLens.Abi.Document
import GasLens.Abi.Draw
import GasLens.Bytecode.Listing
import GasLens.Campaign.Run
import GasLens.Command.Run
import GasLens.Compiler.Run
import GasLens.Config.Load
import GasLens.Files
import GasLens.Heatmap.Document
import GasLens.Heatmap.Listing
import GasLens.Json.Record
import GasLens.Keccak
import GasLens.Main
import GasLens.Node.Client
import GasLens.Node.Url
import GasLens.Outcome
import GasLens.Profile
import GasLens.Proofs.AppendedCode
import GasLens.Proofs.CodeListings
import GasLens.Proofs.CodeTexts
import GasLens.Proofs.ConfigOverrides
import GasLens.Proofs.ContractChoice
import GasLens.Proofs.DelayTexts
import GasLens.Proofs.DrawnCalls
import GasLens.Proofs.FatalBoundary
import GasLens.Proofs.FinalizedReports
import GasLens.Proofs.GasConservation
import GasLens.Proofs.HeatmapLines
import GasLens.Proofs.InheritedPositions
import GasLens.Proofs.InstructionPartition
import GasLens.Proofs.InterfaceDocuments
import GasLens.Proofs.InvocationAccounts
import GasLens.Proofs.NodeFaults
import GasLens.Proofs.PercentileRank
import GasLens.Proofs.ProfiledSteps
import GasLens.Proofs.ResolvedLines
import GasLens.Proofs.SampleStatistics
import GasLens.Proofs.SavedReports
import GasLens.Proofs.SentCalls
import GasLens.Proofs.SettingsOrder
import GasLens.Proofs.SeverityShares
import GasLens.Proofs.SourceMapGrammar
import GasLens.Proofs.SourceMapText
import GasLens.Proofs.TopLines
import GasLens.Proofs.TraceDecoupling
import GasLens.Proofs.TraceDocuments
import GasLens.Proofs.TraceRetries
import GasLens.Proofs.TypeNames
import GasLens.Proofs.WarningHistories
import GasLens.Report.Document
import GasLens.Text.Tone
import GasLens.Trace.Listing
