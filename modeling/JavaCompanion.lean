import JavaCompanion.Catalogue.Basic
import JavaCompanion.Catalogue.CatalogueFault
import JavaCompanion.Catalogue.Create
import JavaCompanion.CommandLine.Grammar
import JavaCompanion.CommandLine.Options
import JavaCompanion.CommandLine.Reading
import JavaCompanion.CommandLine.Run
import JavaCompanion.CommandLine.Word
import JavaCompanion.Config.Basic
import JavaCompanion.Config.ConfigFault
import JavaCompanion.Config.Settings
import JavaCompanion.Config.Sources
import JavaCompanion.Console.Cells
import JavaCompanion.Console.Emoji
import JavaCompanion.Console.EmojiTable
import JavaCompanion.Console.Literal
import JavaCompanion.Console.Markup
import JavaCompanion.Console.Screen
import JavaCompanion.Console.Style
import JavaCompanion.Console.Table
import JavaCompanion.Console.WidthTable
import JavaCompanion.Console.Wrap
import JavaCompanion.Descriptor.AnnotationUse
import JavaCompanion.Descriptor.Document
import JavaCompanion.Descriptor.Element
import JavaCompanion.Descriptor.Malformed
import JavaCompanion.Emitter.Basic
import JavaCompanion.Emitter.Misuse
import JavaCompanion.Emitter.Operation
import JavaCompanion.Extraction.ExtractionFault
import JavaCompanion.Extraction.Mutators
import JavaCompanion.Extraction.Signatures
import JavaCompanion.Factory.Plan
import JavaCompanion.Factory.Settings
import JavaCompanion.Factory.Source
import JavaCompanion.Fault
import JavaCompanion.FileTree.Basic
import JavaCompanion.FileTree.CodePage
import JavaCompanion.FileTree.Encoding
import JavaCompanion.FileTree.Path
import JavaCompanion.FileTree.Refusal
import JavaCompanion.Generation.Kind
import JavaCompanion.Generation.Layout
import JavaCompanion.Generation.Outline
import JavaCompanion.Generation.Run
import JavaCompanion.Generation.Source
import JavaCompanion.Java.Bean
import JavaCompanion.Java.Identifier
import JavaCompanion.Java.Modifier
import JavaCompanion.Java.NameScope
import JavaCompanion.Java.RawName
import JavaCompanion.Java.Signature
import JavaCompanion.Java.TypeName
import JavaCompanion.Json.Error
import JavaCompanion.Json.Reader
import JavaCompanion.Json.Writer
import JavaCompanion.Loading.Address
import JavaCompanion.Loading.Document
import JavaCompanion.Loading.LoadingFault
import JavaCompanion.Loading.Reply
import JavaCompanion.Log.Record
import JavaCompanion.Log.Setup
import JavaCompanion.Main
import JavaCompanion.Number.Binary64
import JavaCompanion.Number.Shortest
import JavaCompanion.Number.Written
import JavaCompanion.Observable.Plan
import JavaCompanion.Observable.Settings
import JavaCompanion.Observable.Source
import JavaCompanion.Output.Filer
import JavaCompanion.Output.OutputFault
import JavaCompanion.Proofs.Catalogue.Registration
import JavaCompanion.Proofs.Catalogue.Shadowing
import JavaCompanion.Proofs.Catalogue.Standing
import JavaCompanion.Proofs.CommandLine.Reporting
import JavaCompanion.Proofs.Config.Faults
import JavaCompanion.Proofs.Config.Precedence
import JavaCompanion.Proofs.Config.Saving
import JavaCompanion.Proofs.Config.Settings
import JavaCompanion.Proofs.Descriptor.Shapes
import JavaCompanion.Proofs.Descriptor.Spelling
import JavaCompanion.Proofs.Emitter.Brackets
import JavaCompanion.Proofs.Emitter.Elements
import JavaCompanion.Proofs.Emitter.Expression
import JavaCompanion.Proofs.Emitter.Formats
import JavaCompanion.Proofs.Emitter.HeaderComment
import JavaCompanion.Proofs.Emitter.Legality
import JavaCompanion.Proofs.Emitter.LineStart
import JavaCompanion.Proofs.Emitter.Lists
import JavaCompanion.Proofs.Emitter.Nesting
import JavaCompanion.Proofs.Emitter.OneLine
import JavaCompanion.Proofs.Emitter.Refusal
import JavaCompanion.Proofs.Emitter.Rejection
import JavaCompanion.Proofs.Emitter.Skeleton
import JavaCompanion.Proofs.Emitter.Texts
import JavaCompanion.Proofs.Emitter.Transition
import JavaCompanion.Proofs.Emitter.Written
import JavaCompanion.Proofs.Extraction.Exactness
import JavaCompanion.Proofs.Extraction.Mutators
import JavaCompanion.Proofs.Extraction.Signatures
import JavaCompanion.Proofs.Factory.Binding
import JavaCompanion.Proofs.Factory.CreationMethod
import JavaCompanion.Proofs.Factory.FirstOccurrences
import JavaCompanion.Proofs.Factory.Legality
import JavaCompanion.Proofs.Factory.Marker
import JavaCompanion.Proofs.Factory.Overloads
import JavaCompanion.Proofs.Factory.Provider
import JavaCompanion.Proofs.FileTree.Keeping
import JavaCompanion.Proofs.Generation.Answer
import JavaCompanion.Proofs.Generation.Control
import JavaCompanion.Proofs.Generation.Emission
import JavaCompanion.Proofs.Generation.Formats
import JavaCompanion.Proofs.Generation.Groups
import JavaCompanion.Proofs.Generation.Layout
import JavaCompanion.Proofs.Generation.NormalForm
import JavaCompanion.Proofs.Generation.Reported
import JavaCompanion.Proofs.Java.FreshName
import JavaCompanion.Proofs.Java.Grammar
import JavaCompanion.Proofs.Java.Identifier
import JavaCompanion.Proofs.Java.Modifier
import JavaCompanion.Proofs.Java.NameHistory
import JavaCompanion.Proofs.Java.ReservedName
import JavaCompanion.Proofs.Json.Documents
import JavaCompanion.Proofs.Json.Pieces
import JavaCompanion.Proofs.Json.RoundTrip
import JavaCompanion.Proofs.Loading.Faults
import JavaCompanion.Proofs.Observable.Execution
import JavaCompanion.Proofs.Observable.Grouping
import JavaCompanion.Proofs.Observable.Legality
import JavaCompanion.Proofs.Observable.Names
import JavaCompanion.Proofs.Observable.Reading
import JavaCompanion.Proofs.Observable.Wrapped
import JavaCompanion.Proofs.Observable.Wrapper
import JavaCompanion.Proofs.Outcome
import JavaCompanion.Proofs.Output.Confinement
import JavaCompanion.Proofs.Output.Filer
import JavaCompanion.Proofs.Output.Refusal
import JavaCompanion.Proofs.Round.Accounting
import JavaCompanion.Proofs.Round.Entry
import JavaCompanion.Proofs.Round.Isolation
import JavaCompanion.Proofs.Round.Stored
import JavaCompanion.Proofs.Script.RejectedCall
import JavaCompanion.Proofs.Script.Scope
import JavaCompanion.Proofs.Session
import JavaCompanion.Proofs.Template.DefaultHeader
import JavaCompanion.Proofs.Text.Brackets
import JavaCompanion.Proofs.Text.LineEnds
import JavaCompanion.Proofs.Text.LowerCase
import JavaCompanion.Proofs.Text.Parts
import JavaCompanion.Proofs.Text.Surrogate
import JavaCompanion.Proofs.Value.Fields
import JavaCompanion.Round.Diagnostic
import JavaCompanion.Round.Report
import JavaCompanion.Round.Run
import JavaCompanion.Script.Arguments
import JavaCompanion.Script.Catalogue
import JavaCompanion.Script.Emitter
import JavaCompanion.Script.Log
import JavaCompanion.Script.Naming
import JavaCompanion.Script.Scope
import JavaCompanion.Session
import JavaCompanion.Template.Cause
import JavaCompanion.Template.Escape
import JavaCompanion.Template.Evaluation
import JavaCompanion.Template.Expression
import JavaCompanion.Template.Render
import JavaCompanion.Template.Renderer
import JavaCompanion.Template.Syntax
import JavaCompanion.Template.TemplateFault
import JavaCompanion.Template.Token
import JavaCompanion.Text.Blank
import JavaCompanion.Text.Case
import JavaCompanion.Text.CaseTable
import JavaCompanion.Text.CharacterName
import JavaCompanion.Text.Digit
import JavaCompanion.Text.Lines
import JavaCompanion.Text.Name
import JavaCompanion.Text.NameTable
import JavaCompanion.Text.PrintableTable
import JavaCompanion.Text.Quoted
import JavaCompanion.Text.Ranges
import JavaCompanion.Text.Split
import JavaCompanion.Text.Surrogate
import JavaCompanion.Text.Word
import JavaCompanion.Text.WordTable
import JavaCompanion.Value.Basic
import JavaCompanion.Value.Display
import JavaCompanion.View.Descriptor
import JavaCompanion.View.Plan
import JavaCompanion.View.Report
import JavaCompanion.View.Signature
