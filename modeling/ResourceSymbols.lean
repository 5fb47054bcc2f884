import ResourceSymbols.Charset.Basic
import ResourceSymbols.Charset.Big5
import ResourceSymbols.Charset.Big5Table
import ResourceSymbols.Charset.Declared
import ResourceSymbols.Charset.EucJp
import ResourceSymbols.Charset.Gb18030
import ResourceSymbols.Charset.Grid
import ResourceSymbols.Charset.Guess
import ResourceSymbols.Charset.Hangul
import ResourceSymbols.Charset.HangulTable
import ResourceSymbols.Charset.HanziTable
import ResourceSymbols.Charset.HongKongTable
import ResourceSymbols.Charset.Kanji
import ResourceSymbols.Charset.KanjiTable
import ResourceSymbols.Charset.Label
import ResourceSymbols.Charset.LaterKanjiTable
import ResourceSymbols.Charset.Page
import ResourceSymbols.Charset.PageTable
import ResourceSymbols.Charset.Sample
import ResourceSymbols.Charset.ShiftJis
import ResourceSymbols.Charset.Wide
import ResourceSymbols.Command.Arguments
import ResourceSymbols.Command.Failure
import ResourceSymbols.Command.Program
import ResourceSymbols.Command.Switch
import ResourceSymbols.Console.Handler
import ResourceSymbols.Console.Handler.Escape
import ResourceSymbols.Console.Handler.Expression
import ResourceSymbols.Console.Handler.Formatted
import ResourceSymbols.Console.Handler.Literal
import ResourceSymbols.Console.Handler.Parameter
import ResourceSymbols.Console.Handler.Reading
import ResourceSymbols.Console.Handler.Term
import ResourceSymbols.Console.Handler.Token
import ResourceSymbols.Console.Handler.Whole
import ResourceSymbols.Console.Markup
import ResourceSymbols.Console.Picture
import ResourceSymbols.Console.PictureNames
import ResourceSymbols.Console.Sheet
import ResourceSymbols.Console.Style
import ResourceSymbols.Console.Styled
import ResourceSymbols.Files.Error
import ResourceSymbols.Files.Path
import ResourceSymbols.Files.Tree
import ResourceSymbols.Json.Association
import ResourceSymbols.Json.Dictionary
import ResourceSymbols.Json.Key
import ResourceSymbols.Json.Members
import ResourceSymbols.Json.Misuse
import ResourceSymbols.Json.Printer
import ResourceSymbols.Json.Reader
import ResourceSymbols.Json.Shown
import ResourceSymbols.Json.Value
import ResourceSymbols.Log.Record
import ResourceSymbols.Log.Setup
import ResourceSymbols.Main
import ResourceSymbols.Number.Binary64
import ResourceSymbols.Number.Decimal
import ResourceSymbols.Number.Literal
import ResourceSymbols.Number.Shortest
import ResourceSymbols.Proofs.AbortPoint
import ResourceSymbols.Proofs.AllPackages
import ResourceSymbols.Proofs.Arrangement
import ResourceSymbols.Proofs.ArrayLayout
import ResourceSymbols.Proofs.ArrayLines
import ResourceSymbols.Proofs.ArrayText
import ResourceSymbols.Proofs.ClassLines
import ResourceSymbols.Proofs.ClassReader
import ResourceSymbols.Proofs.ClassText
import ResourceSymbols.Proofs.CommandSteps
import ResourceSymbols.Proofs.Completion
import ResourceSymbols.Proofs.DeclaredNames
import ResourceSymbols.Proofs.Delivery
import ResourceSymbols.Proofs.Description
import ResourceSymbols.Proofs.Dictionaries
import ResourceSymbols.Proofs.Directories
import ResourceSymbols.Proofs.DocumentKeys
import ResourceSymbols.Proofs.DocumentPieces
import ResourceSymbols.Proofs.Emission
import ResourceSymbols.Proofs.Encoding
import ResourceSymbols.Proofs.EqualValues
import ResourceSymbols.Proofs.ExitStatus
import ResourceSymbols.Proofs.Fate
import ResourceSymbols.Proofs.Independence
import ResourceSymbols.Proofs.IndexNames
import ResourceSymbols.Proofs.InputFaults
import ResourceSymbols.Proofs.Layers
import ResourceSymbols.Proofs.ListedPackages
import ResourceSymbols.Proofs.Loading
import ResourceSymbols.Proofs.LogCalls
import ResourceSymbols.Proofs.Merging
import ResourceSymbols.Proofs.Messages
import ResourceSymbols.Proofs.NameParts
import ResourceSymbols.Proofs.NearestReal
import ResourceSymbols.Proofs.Notation
import ResourceSymbols.Proofs.Numeral
import ResourceSymbols.Proofs.Outcome
import ResourceSymbols.Proofs.Ownership
import ResourceSymbols.Proofs.PackagePath
import ResourceSymbols.Proofs.Packing
import ResourceSymbols.Proofs.Partition
import ResourceSymbols.Proofs.PathFaults
import ResourceSymbols.Proofs.PrintedDocuments
import ResourceSymbols.Proofs.Printing
import ResourceSymbols.Proofs.ReadDocuments
import ResourceSymbols.Proofs.ReadReals
import ResourceSymbols.Proofs.Reading
import ResourceSymbols.Proofs.Rearrangement
import ResourceSymbols.Proofs.Recovery
import ResourceSymbols.Proofs.Refusal
import ResourceSymbols.Proofs.Rendering
import ResourceSymbols.Proofs.ReservedNames
import ResourceSymbols.Proofs.SavedSettings
import ResourceSymbols.Proofs.ShortestDecimal
import ResourceSymbols.Proofs.SourceRoot
import ResourceSymbols.Proofs.StorageOrder
import ResourceSymbols.Proofs.Streaming
import ResourceSymbols.Proofs.TableDocument
import ResourceSymbols.Proofs.WellFormed
import ResourceSymbols.Proofs.Writing
import ResourceSymbols.RClass.Declaration
import ResourceSymbols.RClass.Generation
import ResourceSymbols.RClass.Layout
import ResourceSymbols.RClass.Output
import ResourceSymbols.RClass.Report
import ResourceSymbols.RClass.Run
import ResourceSymbols.Resource.Document
import ResourceSymbols.Resource.Edit
import ResourceSymbols.Resource.Id
import ResourceSymbols.Resource.Kind
import ResourceSymbols.Resource.Mangling
import ResourceSymbols.Resource.Name
import ResourceSymbols.Resource.Packages
import ResourceSymbols.Resource.Source
import ResourceSymbols.Resource.Table
import ResourceSymbols.Settings.Basic
import ResourceSymbols.Settings.Error
import ResourceSymbols.Settings.Merge
import ResourceSymbols.Settings.Review
import ResourceSymbols.Settings.Store
import ResourceSymbols.Symbol.PackageName
import ResourceSymbols.Symbol.Reserved
import ResourceSymbols.Symbol.Template
import ResourceSymbols.Symbol.Word
import ResourceSymbols.Text.Accent
import ResourceSymbols.Text.Blank
import ResourceSymbols.Text.Block
import ResourceSymbols.Text.CellTable
import ResourceSymbols.Text.CellWidth
import ResourceSymbols.Text.CharSpan
import ResourceSymbols.Text.CharacterName
import ResourceSymbols.Text.CharacterName.FromA
import ResourceSymbols.Text.CharacterName.FromD
import ResourceSymbols.Text.CharacterName.FromL
import ResourceSymbols.Text.CharacterName.FromS
import ResourceSymbols.Text.CodePoint
import ResourceSymbols.Text.Cut
import ResourceSymbols.Text.DecimalDigit
import ResourceSymbols.Text.Disorder
import ResourceSymbols.Text.Disorder.Counts
import ResourceSymbols.Text.Disorder.Traits
import ResourceSymbols.Text.Disorder.Words
import ResourceSymbols.Text.Encoding
import ResourceSymbols.Text.Hex
import ResourceSymbols.Text.Identifier
import ResourceSymbols.Text.Language
import ResourceSymbols.Text.Letter
import ResourceSymbols.Text.Likeness
import ResourceSymbols.Text.Lines
import ResourceSymbols.Text.LowerCase
import ResourceSymbols.Text.Printable
import ResourceSymbols.Text.Quoted
import ResourceSymbols.Text.Script
import ResourceSymbols.Text.Sigma
import ResourceSymbols.Text.Sign
import ResourceSymbols.Text.Spelling
import ResourceSymbols.Text.UpperCase
import ResourceSymbols.Text.Utf8
import ResourceSymbols.Web.Address
import ResourceSymbols.Web.Exchange
import ResourceSymbols.Web.Url
import ResourceSymbols.Workbench
