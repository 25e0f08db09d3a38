import Callwise.Main
import Callwise.Proofs.Refine.CurriedCalls
import Callwise.Proofs.Refine.PartialThenCall
import Callwise.Proofs.Refine.PipelineCalls
import Callwise.Proofs.Substitution.SubtypeAgreement
import Callwise.Proofs.Ty.Hereditary
import Callwise.Proofs.Ty.Transitivity
import Callwise.Proofs.Ty.LeastUpperBound
import Callwise.Proofs.Substitution.Moves
import Callwise.Proofs.Substitution.Inheritance
import Callwise.Proofs.Call.Inheritance
import Callwise.Proofs.Refine.Inheritance
import Callwise.Proofs.Refine.ErrorFiles
import Callwise.Proofs.Check.Inheritance
import Callwise.Proofs.Check.Walk
import Callwise.Proofs.Check.StatementWalk
import Callwise.Proofs.Check.ReportOptions
import Callwise.Proofs.Check.History
import Callwise.Proofs.Check.CanonicalTypes
import Callwise.Proofs.Call.FirstArgument
import Callwise.Proofs.Module.BundledSignatures
import Callwise.Proofs.Refine.NarrowedTypes
import Callwise.Proofs.Call.OwnVariables
import Callwise.Proofs.Call.PositionalCalls
import Callwise.Proofs.Toml.WrittenText
import Callwise.Proofs.Toml.WrittenLines
import Callwise.Proofs.Files.WrittenFiles
import Callwise.Proofs.Config.SavedConfigurations
import Callwise.Proofs.Check.Events
import Callwise.Proofs.Check.StatementEvents
import Callwise.Proofs.Source.NameTokens
import Callwise.Proofs.Source.ExpressionNames
import Callwise.Proofs.Source.StatementNames
import Callwise.Proofs.Check.EventNames
import Callwise.Proofs.Check.FunctionScope
import Callwise.Proofs.Module.LastBindings
import Callwise.Proofs.Check.FoundErrors
import Callwise.Proofs.Command.ExitStatus
import Callwise.Proofs.Module.AliasChains
import Callwise.Proofs.Substitution.StableMatches
import Callwise.Proofs.Call.TakenPlaces
import Callwise.Proofs.Call.LosslessAssignment
import Callwise.Proofs.Refine.PartialAgreement
import Callwise.Proofs.Substitution.Instantiation
import Callwise.Proofs.Substitution.MappedContainers
import Callwise.Proofs.Substitution.OptionalPatterns
import Callwise.Proofs.Call.CallOutcome
import Callwise.Proofs.Refine.ParameterOrder
import Callwise.Proofs.Refine.Groupings
import Callwise.Proofs.Call.OneArgument
import Callwise.Proofs.Refine.DecoratedItems
import Callwise.Proofs.Substitution.Normalization
import Callwise.Proofs.TypeHint.ForwardReferences
import Callwise.Proofs.TypeHint.UnionNotations
import Callwise.Proofs.Source.PlainWords
import Callwise.Proofs.Source.PlainOperands
import Callwise.Proofs.TypeHint.DisplayedTypes
import Callwise.Proofs.Text.EditScripts
import Callwise.Proofs.Source.LinePositions
import Callwise.Proofs.Refine.OverridePolicies
import Callwise.Proofs.Command.ArgumentReading
import Callwise.Proofs.Text.NearestNames
import Callwise.Proofs.Files.PatternMeaning
import Callwise.Proofs.Config.StandardSelection
import Callwise.Proofs.Config.SkippedFiles
import Callwise.Proofs.Ty.VariableOrder
