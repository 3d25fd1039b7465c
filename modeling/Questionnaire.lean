import Questionnaire.CommandLine.Arguments
import Questionnaire.CommandLine.Files
import Questionnaire.CommandLine.LogFilter
import Questionnaire.CommandLine.Run
import Questionnaire.Index
import Questionnaire.Json.Counts
import Questionnaire.Json.Quoted
import Questionnaire.Json.Tags
import Questionnaire.Json.Value
import Questionnaire.Literal.Color
import Questionnaire.Literal.Interval
import Questionnaire.Literal.Rating
import Questionnaire.Literal.Size
import Questionnaire.Main
import Questionnaire.Number.Binary64
import Questionnaire.Number.Decimal
import Questionnaire.Number.Numeral
import Questionnaire.Number.Power
import Questionnaire.Number.Shortest
import Questionnaire.Proofs.Breakoff
import Questionnaire.Proofs.Caret
import Questionnaire.Proofs.CaseInsensitive
import Questionnaire.Proofs.Compile
import Questionnaire.Proofs.Concatenation
import Questionnaire.Proofs.DecimalForm
import Questionnaire.Proofs.DefaultTags
import Questionnaire.Proofs.DraftInvariant
import Questionnaire.Proofs.DumpTells
import Questionnaire.Proofs.ErrorPlaces
import Questionnaire.Proofs.Excerpt
import Questionnaire.Proofs.HexColors
import Questionnaire.Proofs.Index
import Questionnaire.Proofs.Join
import Questionnaire.Proofs.JsonCounts
import Questionnaire.Proofs.JsonStrings
import Questionnaire.Proofs.Layout
import Questionnaire.Proofs.Levels
import Questionnaire.Proofs.LineEndings
import Questionnaire.Proofs.Lines
import Questionnaire.Proofs.Lowercase
import Questionnaire.Proofs.LowercaseWords
import Questionnaire.Proofs.Merging
import Questionnaire.Proofs.Multiplicity
import Questionnaire.Proofs.OutlineCounts
import Questionnaire.Proofs.OutlineGrammar
import Questionnaire.Proofs.OutlineRun
import Questionnaire.Proofs.PlainTags
import Questionnaire.Proofs.PrettyJson
import Questionnaire.Proofs.RegistryRuns
import Questionnaire.Proofs.Retraction
import Questionnaire.Proofs.RoundedArithmetic
import Questionnaire.Proofs.Rounding
import Questionnaire.Proofs.RulePasses
import Questionnaire.Proofs.Separation
import Questionnaire.Proofs.SettingFields
import Questionnaire.Proofs.SharedRules
import Questionnaire.Proofs.SizeBytes
import Questionnaire.Proofs.SizeForm
import Questionnaire.Proofs.StoredTags
import Questionnaire.Proofs.StrengthMap
import Questionnaire.Proofs.Stretches
import Questionnaire.Proofs.Success
import Questionnaire.Proofs.SummaryRows
import Questionnaire.Proofs.TokenRows
import Questionnaire.Proofs.Tokenize
import Questionnaire.Proofs.VisibleText
import Questionnaire.Proofs.WholeBytes
import Questionnaire.Proofs.Words
import Questionnaire.Report.Dump
import Questionnaire.Report.Summary
import Questionnaire.Report.TokenList
import Questionnaire.Tag.Registry
import Questionnaire.Tag.RuleTable
import Questionnaire.Tag.Strength
import Questionnaire.Template.Config
import Questionnaire.Template.DefaultTags
import Questionnaire.Template.Error
import Questionnaire.Template.Excerpt
import Questionnaire.Template.Key
import Questionnaire.Template.Outline
import Questionnaire.Template.Pair
import Questionnaire.Template.Position
import Questionnaire.Template.Question
import Questionnaire.Template.Settings
import Questionnaire.Template.Token
import Questionnaire.Text.Basic
import Questionnaire.Text.Blank
import Questionnaire.Text.CaseTables
import Questionnaire.Text.CodeRange
import Questionnaire.Text.Lines
import Questionnaire.Text.Lowercase
import Questionnaire.Text.PrintTables
import Questionnaire.Text.Quoted
