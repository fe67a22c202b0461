import ApiStencil.Command.Arguments
import ApiStencil.Command.Table
import ApiStencil.CommandLine.Commands
import ApiStencil.CommandLine.Flag
import ApiStencil.CommandLine.Reader
import ApiStencil.CommandLine.Run
import ApiStencil.Config.Basic
import ApiStencil.Config.File
import ApiStencil.Config.JsonText
import ApiStencil.Config.Settings
import ApiStencil.Config.TomlText
import ApiStencil.Config.YamlText
import ApiStencil.Decimal.Layout
import ApiStencil.Decimal.Read
import ApiStencil.Decimal.Remainder
import ApiStencil.Decimal.Shortest
import ApiStencil.Error
import ApiStencil.FileSystem.Basic
import ApiStencil.Generate
import ApiStencil.Journal
import ApiStencil.Json.Basic
import ApiStencil.Json.Cursor
import ApiStencil.Json.Printer
import ApiStencil.Json.Reader
import ApiStencil.Json.Skip
import ApiStencil.Main
import ApiStencil.OpenApi.Document
import ApiStencil.OpenApi.Parts
import ApiStencil.OpenApi.Shape
import ApiStencil.OutputPath
import ApiStencil.Path
import ApiStencil.Proofs.Arguments
import ApiStencil.Proofs.Atomicity
import ApiStencil.Proofs.Binding
import ApiStencil.Proofs.Changes
import ApiStencil.Proofs.CodeUnits
import ApiStencil.Proofs.CommandFailure
import ApiStencil.Proofs.CommandTable
import ApiStencil.Proofs.Deadlines
import ApiStencil.Proofs.Discovery
import ApiStencil.Proofs.Doubles
import ApiStencil.Proofs.Exactness
import ApiStencil.Proofs.Exclusion
import ApiStencil.Proofs.Extensions
import ApiStencil.Proofs.Files
import ApiStencil.Proofs.Handing
import ApiStencil.Proofs.Joining
import ApiStencil.Proofs.JsonSettings
import ApiStencil.Proofs.Laying
import ApiStencil.Proofs.Listing
import ApiStencil.Proofs.Marshalling
import ApiStencil.Proofs.Mirroring
import ApiStencil.Proofs.NameClashes
import ApiStencil.Proofs.Oblivious
import ApiStencil.Proofs.OutputClashes
import ApiStencil.Proofs.Overriding
import ApiStencil.Proofs.Pieces
import ApiStencil.Proofs.Piping
import ApiStencil.Proofs.Precedence
import ApiStencil.Proofs.Prediction
import ApiStencil.Proofs.Preparing
import ApiStencil.Proofs.Recognition
import ApiStencil.Proofs.Rediscovery
import ApiStencil.Proofs.Registering
import ApiStencil.Proofs.Repetition
import ApiStencil.Proofs.RoundTrip
import ApiStencil.Proofs.Saving
import ApiStencil.Proofs.Sessions
import ApiStencil.Proofs.Settings
import ApiStencil.Proofs.Shelf
import ApiStencil.Proofs.Sources
import ApiStencil.Proofs.Standing
import ApiStencil.Proofs.Straight
import ApiStencil.Proofs.TakingBack
import ApiStencil.Proofs.TemplateNames
import ApiStencil.Proofs.Thrown
import ApiStencil.Proofs.TomlSettings
import ApiStencil.Proofs.TomlTexts
import ApiStencil.Proofs.Utf8
import ApiStencil.Proofs.Verifying
import ApiStencil.Proofs.Watching
import ApiStencil.Proofs.Wording
import ApiStencil.Proofs.Writing
import ApiStencil.Proofs.YamlBlocks
import ApiStencil.Proofs.YamlEvents
import ApiStencil.Proofs.YamlLookahead
import ApiStencil.Proofs.YamlQuoted
import ApiStencil.Proofs.YamlScalars
import ApiStencil.Proofs.YamlSettings
import ApiStencil.Proofs.YamlTokens
import ApiStencil.Regex.Matcher
import ApiStencil.Regex.Pattern
import ApiStencil.Regex.Tree
import ApiStencil.Render
import ApiStencil.Script.Access
import ApiStencil.Script.Activation
import ApiStencil.Script.Closure
import ApiStencil.Script.Console
import ApiStencil.Script.Convert
import ApiStencil.Script.Enrolment
import ApiStencil.Script.Exec
import ApiStencil.Script.Expr
import ApiStencil.Script.Host
import ApiStencil.Script.Intrinsic
import ApiStencil.Script.Invoke
import ApiStencil.Script.Iterate
import ApiStencil.Script.Library.Arrays
import ApiStencil.Script.Library.Collections
import ApiStencil.Script.Library.Dates
import ApiStencil.Script.Library.Errors
import ApiStencil.Script.Library.Globals
import ApiStencil.Script.Library.Mathematics
import ApiStencil.Script.Library.Native
import ApiStencil.Script.Library.Notation
import ApiStencil.Script.Library.Numbers
import ApiStencil.Script.Library.Objects
import ApiStencil.Script.Library.Patterns
import ApiStencil.Script.Library.Promises
import ApiStencil.Script.Library.Reflect
import ApiStencil.Script.Library.Symbols
import ApiStencil.Script.Library.Table
import ApiStencil.Script.Library.Texts
import ApiStencil.Script.Library.Views
import ApiStencil.Script.Library.Walks
import ApiStencil.Script.Lift
import ApiStencil.Script.Marshal
import ApiStencil.Script.Operator
import ApiStencil.Script.Place
import ApiStencil.Script.Reader.Class
import ApiStencil.Script.Reader.Expr
import ApiStencil.Script.Reader.Function
import ApiStencil.Script.Reader.Pattern
import ApiStencil.Script.Reader.State
import ApiStencil.Script.Reader.Stmt
import ApiStencil.Script.Reading
import ApiStencil.Script.Realm
import ApiStencil.Script.Scope
import ApiStencil.Script.Search
import ApiStencil.Script.SearchPattern
import ApiStencil.Script.Slot
import ApiStencil.Script.Store
import ApiStencil.Script.Syntax
import ApiStencil.Script.Token
import ApiStencil.Script.Units
import ApiStencil.Script.Value
import ApiStencil.Script.Watchdog
import ApiStencil.Template.Arithmetic
import ApiStencil.Template.Blanks
import ApiStencil.Template.Call
import ApiStencil.Template.Debug
import ApiStencil.Template.Eval
import ApiStencil.Template.Filter.Helper
import ApiStencil.Template.Filter.List
import ApiStencil.Template.Filter.Table
import ApiStencil.Template.Filter.Text
import ApiStencil.Template.Filter.Value
import ApiStencil.Template.Function
import ApiStencil.Template.Ledger
import ApiStencil.Template.Problem
import ApiStencil.Template.Reader.Expr
import ApiStencil.Template.Reader.Node
import ApiStencil.Template.Reader.Scan
import ApiStencil.Template.Registry
import ApiStencil.Template.Set
import ApiStencil.Template.Stack
import ApiStencil.Template.Test
import ApiStencil.Template.Tree
import ApiStencil.Template.Value
import ApiStencil.TemplateDir
import ApiStencil.Text.Case
import ApiStencil.Text.CaseTable
import ApiStencil.Text.Class
import ApiStencil.Text.Grapheme
import ApiStencil.Text.LetterTable
import ApiStencil.Text.MarkTable
import ApiStencil.Text.Normal
import ApiStencil.Text.NormalTable
import ApiStencil.Text.Quoted
import ApiStencil.Text.Span
import ApiStencil.Text.SpellingTable
import ApiStencil.Text.Trim
import ApiStencil.Text.Utf8
import ApiStencil.Toml.Printer
import ApiStencil.Toml.Reader
import ApiStencil.Toml.Scan
import ApiStencil.Toml.Value
import ApiStencil.World
import ApiStencil.Yaml.Character
import ApiStencil.Yaml.Cursor
import ApiStencil.Yaml.Document
import ApiStencil.Yaml.Event.Grammar
import ApiStencil.Yaml.Fault
import ApiStencil.Yaml.Printer
import ApiStencil.Yaml.Reader
import ApiStencil.Yaml.Scalar
import ApiStencil.Yaml.Token.Basic
import ApiStencil.Yaml.Token.Lexer
import ApiStencil.Yaml.Token.Scalar
import ApiStencil.Yaml.Token.Tag
