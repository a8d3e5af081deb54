import RequestBinding.BindingsModule
import RequestBinding.CommandLine.Arguments
import RequestBinding.CommandLine.Command
import RequestBinding.DerivedTypes
import RequestBinding.Directive
import RequestBinding.Directory
import RequestBinding.Executable
import RequestBinding.Extraction
import RequestBinding.Failure
import RequestBinding.Files.Path
import RequestBinding.Files.Tree
import RequestBinding.Function.Body
import RequestBinding.Function.Comparison
import RequestBinding.Function.Meaning
import RequestBinding.Function.Name
import RequestBinding.Function.Statement
import RequestBinding.Generation
import RequestBinding.Json
import RequestBinding.Listing
import RequestBinding.Log.Event
import RequestBinding.Log.Filter
import RequestBinding.Log.Level
import RequestBinding.Log.Line
import RequestBinding.Log.Settings
import RequestBinding.Main
import RequestBinding.ModuleName
import RequestBinding.OutputPlan
import RequestBinding.Record
import RequestBinding.Run
import RequestBinding.Settings
import RequestBinding.Source.Declaration
import RequestBinding.Source.File
import RequestBinding.Source.Grammar.Attribute
import RequestBinding.Source.Grammar.Expression
import RequestBinding.Source.Grammar.Function
import RequestBinding.Source.Grammar.Generics
import RequestBinding.Source.Grammar.Item
import RequestBinding.Source.Grammar.Levels
import RequestBinding.Source.Grammar.Member
import RequestBinding.Source.Grammar.Operator
import RequestBinding.Source.Grammar.Path
import RequestBinding.Source.Grammar.Pattern
import RequestBinding.Source.Grammar.Rules
import RequestBinding.Source.Grammar.Statement
import RequestBinding.Source.Grammar.Type
import RequestBinding.Source.Lexeme
import RequestBinding.Source.Lexeme.Comment
import RequestBinding.Source.Lexeme.Literal
import RequestBinding.Source.Lexeme.StringValue
import RequestBinding.Source.Parser
import RequestBinding.Source.Position
import RequestBinding.Source.Problem
import RequestBinding.Source.TagAttribute
import RequestBinding.Source.Token
import RequestBinding.Source.Tokens
import RequestBinding.Source.Word
import RequestBinding.Tag
import RequestBinding.Text.Blank
import RequestBinding.Text.CodePoints
import RequestBinding.Text.Identifier
import RequestBinding.Text.LetterCase
import RequestBinding.Text.Numeral
import RequestBinding.Text.Pieces
import RequestBinding.Text.Quoted
import RequestBinding.Text.SnakeCase
import RequestBinding.Text.Table.Hidden
import RequestBinding.Text.Table.IdentifierContinue
import RequestBinding.Text.Table.IdentifierStart
import RequestBinding.Text.Table.Lowercase
import RequestBinding.Text.Table.LowercaseMapping
import RequestBinding.Text.Table.Uppercase
import RequestBinding.Proofs.Annotation
import RequestBinding.Function.Reading
import RequestBinding.Function.Reference
import RequestBinding.Proofs.BindMeaning
import RequestBinding.Proofs.SourceWalk
import RequestBinding.Proofs.ValidateMeaning
import RequestBinding.Proofs.FailureFrame
import RequestBinding.Proofs.ModuleTargets
import RequestBinding.Proofs.Regeneration
import RequestBinding.Proofs.SourcePreservation
import RequestBinding.Proofs.TagChecks
import RequestBinding.Proofs.FunctionNames
import RequestBinding.Proofs.SingleWord
import RequestBinding.Proofs.TargetNames
import RequestBinding.Proofs.DryRun
import RequestBinding.Proofs.BoundsGrammar
import RequestBinding.Proofs.TagGrammar
import RequestBinding.Function.MachineInteger
import RequestBinding.Proofs.ListingOrder
import RequestBinding.Proofs.ExactComparison
import RequestBinding.Proofs.PlainNames
import RequestBinding.Proofs.TypeComments
import RequestBinding.Function.DigitReading
import RequestBinding.Proofs.IntegerReading
import RequestBinding.Template
import RequestBinding.BindingsModule.Template
import RequestBinding.Proofs.ModuleLayout
import RequestBinding.Proofs.SnakeCase
import RequestBinding.Proofs.PascalCase
import RequestBinding.Proofs.ByteScan
import RequestBinding.Proofs.FieldKinds
import RequestBinding.Proofs.SpacedTypes
import RequestBinding.Proofs.GroupNames
