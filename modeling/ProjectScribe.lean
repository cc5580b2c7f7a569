import ProjectScribe.Text.Blank
import ProjectScribe.Text.Letters
import ProjectScribe.Text.Numeral
import ProjectScribe.Text.Pieces
import ProjectScribe.Text.UpperCase
import ProjectScribe.Path.Components
import ProjectScribe.Path.Normal
import ProjectScribe.Path.Relative
import ProjectScribe.Report
import ProjectScribe.Mapping.Line
import ProjectScribe.Mapping.PlatformTokens
import ProjectScribe.Mapping.Table
import ProjectScribe.Pattern.Basic
import ProjectScribe.Pattern.Category
import ProjectScribe.Pattern.CharSet
import ProjectScribe.Pattern.Folding
import ProjectScribe.Pattern.Property
import ProjectScribe.Pattern.Reader
import ProjectScribe.Pattern.Script
import ProjectScribe.Json.Pretty
import ProjectScribe.Json.Reader
import ProjectScribe.Json.Value
import ProjectScribe.Xml.Characters
import ProjectScribe.Xml.Document
import ProjectScribe.Xml.Element
import ProjectScribe.Xml.Name
import ProjectScribe.Project.Basic
import ProjectScribe.Project.Configuration
import ProjectScribe.Project.FileEntry
import ProjectScribe.Project.FilterTree
import ProjectScribe.Project.Kinds
import ProjectScribe.Project.State
import ProjectScribe.Reading.AttributeFormat
import ProjectScribe.Reading.Choice
import ProjectScribe.Reading.Classification
import ProjectScribe.Reading.ElementFormat
import ProjectScribe.Reading.Note
import ProjectScribe.Reading.Value
import ProjectScribe.Script.Assembly
import ProjectScribe.Script.BuildVariable
import ProjectScribe.Script.Flags
import ProjectScribe.Script.Identifier
import ProjectScribe.Script.Instruction
import ProjectScribe.Script.Quoting
import ProjectScribe.Settings.Basic
import ProjectScribe.Settings.Reader
import ProjectScribe.Validation
import ProjectScribe.Storage.FileTree
import ProjectScribe.Storage.WriteBack
import ProjectScribe.Conversion.Batch
import ProjectScribe.Conversion.Convert
import ProjectScribe.Conversion.Failure
import ProjectScribe.Conversion.Job
import ProjectScribe.Conversion.ProjectFile
import ProjectScribe.Conversion.Touched
import ProjectScribe.CommandLine.Arguments
import ProjectScribe.CommandLine.Program
import ProjectScribe.CommandLine.Words
import ProjectScribe.Main
import ProjectScribe.Proofs.Text.Pieces
import ProjectScribe.Proofs.Path.NormalForm
import ProjectScribe.Proofs.FilterTree.Growth
import ProjectScribe.Proofs.FilterTree.DepthFirst
import ProjectScribe.Proofs.Script.SourceLists
import ProjectScribe.Proofs.Script.ArgumentReading
import ProjectScribe.Proofs.Reading.AttributeFiles
import ProjectScribe.Proofs.Reading.FileAccounting
import ProjectScribe.Proofs.Reading.CompanionItems
import ProjectScribe.Proofs.Reading.CompanionOverrides
import ProjectScribe.Proofs.FilterTree.Extension
import ProjectScribe.Proofs.Reading.ElementSteps
import ProjectScribe.Proofs.Reading.FilterPaths
import ProjectScribe.Proofs.Reading.ItemFiles
import ProjectScribe.Proofs.Storage.Addresses
import ProjectScribe.Proofs.Storage.Suffixes
import ProjectScribe.Proofs.Storage.Replacement
import ProjectScribe.Proofs.Conversion.JobEffect
import ProjectScribe.Proofs.Conversion.BatchAccounts
import ProjectScribe.Proofs.Conversion.Inputs
import ProjectScribe.Proofs.Conversion.Reconversion
import ProjectScribe.Proofs.CommandLine.SharedOutputs
import ProjectScribe.Proofs.Script.Blocks
import ProjectScribe.Proofs.Script.TargetCommands
import ProjectScribe.Proofs.Text.Blank
import ProjectScribe.Proofs.Reading.Definitions
import ProjectScribe.Proofs.Reading.Profile
import ProjectScribe.Proofs.Reading.BothFormats
import ProjectScribe.Proofs.Reading.Conditions
import ProjectScribe.Proofs.Reading.SettingGroups
import ProjectScribe.Proofs.Script.VariableReferences
import ProjectScribe.Proofs.Mapping.Buckets
import ProjectScribe.Proofs.Mapping.Precedence
import ProjectScribe.Proofs.Mapping.PushHistory
import ProjectScribe.Proofs.Mapping.WrittenLines
import ProjectScribe.Proofs.Script.Placement
import ProjectScribe.Proofs.Script.DefinitionPlacement
import ProjectScribe.Proofs.Script.Standing
import ProjectScribe.Proofs.Script.IncludeDirectories
import ProjectScribe.Proofs.Script.BodyInstructions
import ProjectScribe.Proofs.Script.PlatformBlock
import ProjectScribe.Proofs.Script.UntranslatedReferences
import ProjectScribe.Proofs.Storage.ParentDirectory
import ProjectScribe.Proofs.Storage.WriteHistory
import ProjectScribe.Proofs.Project.Acceptance
import ProjectScribe.Proofs.Script.ConfigurationKeys
import ProjectScribe.Proofs.Script.ConfigurationOrder
import ProjectScribe.Proofs.FilterTree.Padding
import ProjectScribe.Proofs.Script.ExcludedFiles
import ProjectScribe.Proofs.Script.Levels
import ProjectScribe.Proofs.Reading.Slashes
import ProjectScribe.Proofs.Reading.LinkedLibraries
import ProjectScribe.Proofs.Reading.UnknownSettings
import ProjectScribe.Proofs.Reading.ToolSettings
import ProjectScribe.Proofs.Reading.InheritedLists
import ProjectScribe.Proofs.Reading.QuotedLibraries
import ProjectScribe.Proofs.Script.ArgumentText
import ProjectScribe.Proofs.Script.SourceControlFields
import ProjectScribe.Proofs.Script.LinkFlags
import ProjectScribe.Proofs.Script.QuotedArguments
import ProjectScribe.Proofs.Script.ReplacedReferences
import ProjectScribe.Proofs.Script.CommandNames
import ProjectScribe.Proofs.Script.GroupNames
import ProjectScribe.Proofs.Project.Defects
import ProjectScribe.Proofs.FilterTree.Keys
import ProjectScribe.Proofs.Reading.FilterChains
import ProjectScribe.Proofs.Reading.FilterItems
import ProjectScribe.Proofs.Reading.HeldBackFiles
import ProjectScribe.Proofs.Reading.ItemOrder
import ProjectScribe.Proofs.Xml.Reordering
import ProjectScribe.Proofs.Reading.AttributeVocabulary
import ProjectScribe.Proofs.Reading.AttributeOrder
import ProjectScribe.Reading.ProjectText
import ProjectScribe.Proofs.Path.Destination
import ProjectScribe.Proofs.Conversion.ProjectFiles
import ProjectScribe.Proofs.FilterTree.History
import ProjectScribe.Proofs.Reading.EnsuredFilters
import ProjectScribe.Proofs.Reading.StoredPaths
