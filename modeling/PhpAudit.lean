import PhpAudit.Audit.Run
import PhpAudit.Failure.Named
import PhpAudit.LogOutput
import PhpAudit.Proofs.CacheInterleaving
import PhpAudit.Rule.Scripted
import PhpAudit.Selection.Grouping
import PhpAudit.Proofs.CacheRecency
import PhpAudit.Proofs.Reference
import PhpAudit.Proofs.ReferenceRun
import PhpAudit.Proofs.Schedules
import PhpAudit.Proofs.RunFailures
import PhpAudit.Proofs.BundledChecks
import PhpAudit.Proofs.UnwritableLiterals
import PhpAudit.Proofs.ParseSharing
import PhpAudit.Proofs.TreeConversion
import PhpAudit.Proofs.SourceRows
import PhpAudit.Proofs.DefaultLoading
import PhpAudit.Proofs.FindingExport
import PhpAudit.Proofs.Normalisation
import PhpAudit.Proofs.CheckEffects
import PhpAudit.Proofs.TimeCeiling
import PhpAudit.Proofs.UnitAccounting
import PhpAudit.Proofs.FaultLocation
import PhpAudit.Proofs.EntryLoading
import PhpAudit.Proofs.DriverNames
import PhpAudit.Proofs.UnusedImports
import PhpAudit.Proofs.TreePositions
import PhpAudit.Proofs.IntegerLiterals
import PhpAudit.Proofs.IncidentHistory
import PhpAudit.Proofs.UsageListing
import PhpAudit.Proofs.CatalogueNames
import PhpAudit.Proofs.ControllerMethods
import PhpAudit.Proofs.LoopQueries
import PhpAudit.Proofs.SuggestedNames
import PhpAudit.Proofs.ChainedSelection
import PhpAudit.Proofs.KeyEquality
import PhpAudit.Proofs.RuleGroups
import PhpAudit.Proofs.LaxIntegers
import PhpAudit.Proofs.LaxNumbers
import PhpAudit.Proofs.OptionTypes
import PhpAudit.Proofs.SettingsReading
import PhpAudit.Proofs.ConfigurationLoading
import PhpAudit.Proofs.TraversalOrder
import PhpAudit.Proofs.QuotedSnippets
