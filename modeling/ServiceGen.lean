import ServiceGen.Analysis.Endpoint
import ServiceGen.Analysis.Field
import ServiceGen.Analysis.Model
import ServiceGen.Analysis.ModuleView
import ServiceGen.Analysis.ResponseShape
import ServiceGen.ApiModule
import ServiceGen.CommandLine
import ServiceGen.CommandLine.Arguments
import ServiceGen.CommandLine.Footprint
import ServiceGen.Datum
import ServiceGen.Datum.Scalar
import ServiceGen.Document
import ServiceGen.Document.Dump
import ServiceGen.Document.Parse
import ServiceGen.Document.Read
import ServiceGen.Document.Schema
import ServiceGen.Entries
import ServiceGen.Failure
import ServiceGen.FieldType
import ServiceGen.FileTree
import ServiceGen.Generator
import ServiceGen.Json
import ServiceGen.Json.Number
import ServiceGen.Json.Text
import ServiceGen.Layout
import ServiceGen.Main
import ServiceGen.Manifest
import ServiceGen.ModuleName
import ServiceGen.Number.Binary64
import ServiceGen.Number.Decimal
import ServiceGen.OperationKind
import ServiceGen.Path
import ServiceGen.PathTemplate
import ServiceGen.Reference
import ServiceGen.Registration
import ServiceGen.Registration.Files
import ServiceGen.Resolver
import ServiceGen.Scaffold
import ServiceGen.Source.Cursor
import ServiceGen.Source.Grammar
import ServiceGen.Source.Imports
import ServiceGen.Source.Token
import ServiceGen.SpecFormat
import ServiceGen.Support
import ServiceGen.Template.Arithmetic
import ServiceGen.Template.BuiltIn
import ServiceGen.Template.Expr
import ServiceGen.Template.Filter
import ServiceGen.Template.Render
import ServiceGen.Template.Token
import ServiceGen.Template.Value
import ServiceGen.TemplateKind
import ServiceGen.TemplateSet
import ServiceGen.Text.Identifier
import ServiceGen.Text.Letter
import ServiceGen.Text.Letter.Tables
import ServiceGen.Text.Plural
import ServiceGen.Text.Quoted
import ServiceGen.Text.Slice
import ServiceGen.Text.Utf8
import ServiceGen.Text.Words
import ServiceGen.Toml.Table
import ServiceGen.Toml.Text
import ServiceGen.Workspace
import ServiceGen.Writer
import ServiceGen.Yaml.Node
import ServiceGen.Yaml.ScalarText
import ServiceGen.Yaml.Source
import ServiceGen.Yaml.Token
import ServiceGen.Proofs.Letters
import ServiceGen.Proofs.Words
import ServiceGen.Proofs.Plural
import ServiceGen.Proofs.Batches
import ServiceGen.Proofs.Boxing
import ServiceGen.Proofs.Ceilings
import ServiceGen.Proofs.Chains
import ServiceGen.Proofs.Compositions
import ServiceGen.Proofs.Declarations
import ServiceGen.Proofs.Merging
import ServiceGen.Proofs.ScaffoldedModule
import ServiceGen.Proofs.ValueGraph
import ServiceGen.Proofs.Isolation
import ServiceGen.Proofs.FileSafety
import ServiceGen.Proofs.Reruns
import ServiceGen.Proofs.FieldTypes
import ServiceGen.Proofs.ListRuns
import ServiceGen.Proofs.ResponseWalks
import ServiceGen.Proofs.FunctionNames
import ServiceGen.Proofs.StructFields
import ServiceGen.Proofs.DeclaredModules
import ServiceGen.Proofs.TypeNames
import ServiceGen.Proofs.ComponentNames
import ServiceGen.Proofs.CommentTexts
import ServiceGen.Proofs.BatchCoverage
import ServiceGen.Proofs.ParameterOverrides
import ServiceGen.Proofs.ModuleStems
import ServiceGen.Proofs.ReloadedDocuments
import ServiceGen.Proofs.BoxedFields
import ServiceGen.Proofs.FollowedReferences
import ServiceGen.Proofs.NamedRecords
import ServiceGen.Proofs.ListEdits
import ServiceGen.Proofs.PathParameters
import ServiceGen.Proofs.RuleBounds
import ServiceGen.Proofs.ErrorCodes
import ServiceGen.Proofs.OrganizedImports
import ServiceGen.Proofs.EscapedNames
import ServiceGen.Proofs.DeclarationRuns
import ServiceGen.Proofs.EnclosingPackages
import ServiceGen.Proofs.UnrelatedCode
import ServiceGen.Proofs.RepeatedPlurals
import ServiceGen.Proofs.FieldNames
import ServiceGen.Proofs.StringLiterals
import ServiceGen.Proofs.PathDivisions
