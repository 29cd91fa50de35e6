import Conformance.Main
import Conformance.Proofs.FindingOrder
import Conformance.Proofs.RegistryRules
import Conformance.Proofs.SeverityStamps
import Conformance.Proofs.Reporting
import Conformance.Proofs.Pool
import Conformance.Proofs.PoolReport
import Conformance.Proofs.PoolSchedules
import Conformance.Proofs.Suppressions
import Conformance.Proofs.SkippedUnits
import Conformance.Proofs.RegistryPacks
import Conformance.Proofs.RuleIndependence
import Conformance.Proofs.Writing
import Conformance.Proofs.StandardRules
import Conformance.Proofs.Duplicates
import Conformance.Proofs.SeparateUnits
import Conformance.Proofs.Failures
import Conformance.Proofs.Documents
import Conformance.Proofs.Configuration
import Conformance.Proofs.Revision
import Conformance.Proofs.Reconfiguration
import Conformance.Proofs.WellFormed
import Conformance.Proofs.FindingSpans
import Conformance.Proofs.Traversal
import Conformance.Proofs.RuleAccounts
import Conformance.Proofs.TagOrder
import Conformance.Proofs.DirectiveGrammar
import Conformance.Proofs.DirectivePattern
import Conformance.Proofs.AddedFields
import Conformance.Proofs.AnnotationArguments
import Conformance.Proofs.AnnotationPolicy
import Conformance.Proofs.CheckReports
import Conformance.Proofs.LineIndex
import Conformance.Proofs.SummarySentence
import Conformance.Proofs.MessageTemplates
import Conformance.Proofs.RegistryAdmission
import Conformance.Proofs.UnitDocuments
import Conformance.Proofs.MissingPaths
import Conformance.Proofs.PatternLanguages
import Conformance.Proofs.RuleFindings
import Conformance.Proofs.NamingConventions
import Conformance.Proofs.GuardedLocks
import Conformance.Proofs.MarkerOrder
import Conformance.Proofs.RuleReferences
import Conformance.Proofs.ValueEquality
import Conformance.Proofs.CautionArguments
import Conformance.Proofs.DepthFirst
import Conformance.Proofs.DocumentNesting
import Conformance.Proofs.ParentLinks
