import Citation.Bibliography
import Citation.Database
import Citation.Entry
import Citation.EntryType
import Citation.Error
import Citation.Latex.Decode
import Citation.Latex.Token
import Citation.Location
import Citation.Macros
import Citation.NameStyle
import Citation.Options
import Citation.Options.Document
import Citation.Output.Bibliography
import Citation.Output.Format
import Citation.Person
import Citation.Pieces
import Citation.Scanner
import Citation.Sorting
import Citation.Source.Bytes
import Citation.Source.Entry
import Citation.Source.Item
import Citation.Source.Lexeme
import Citation.Source.Value
import Citation.Style
import Citation.Template.Part
import Citation.Template.Standard
import Citation.Text
import Citation.Text.Case
import Citation.Text.Dash
import Citation.Text.Join
import Citation.Typeset
import Citation.Unicode.Case
import Citation.Unicode.Class
import Citation.Unicode.DecompositionTable
import Citation.Unicode.Normal
import Citation.Unicode.Table
import Citation.Value
import Citation.Whitespace
import Citation.Proofs.Ordering
import Citation.Proofs.Results
import Citation.Proofs.Bibliography
import Citation.Proofs.Parts
import Citation.Proofs.Texts
import Citation.Proofs.Refusal
import Citation.Proofs.Heedless
import Citation.Proofs.Fields
import Citation.Proofs.Worded
import Citation.Proofs.Tables
import Citation.Proofs.Composition
import Citation.Proofs.Extracts
import Citation.Proofs.Origins
import Citation.Proofs.Capitals
import Citation.Proofs.Apart
import Citation.Proofs.Telling
import Citation.Proofs.Leftovers
import Citation.Proofs.Blocks
import Citation.Proofs.BlankFields
import Citation.Proofs.Layout
import Citation.Proofs.Lexemes
import Citation.Proofs.Reading
import Citation.Proofs.RoundTrip
import Citation.Proofs.Substitution
import Citation.Proofs.Concatenation
import Citation.Proofs.NormalTexts
import Citation.Proofs.LatexForm
import Citation.Proofs.HtmlForm
import Citation.Proofs.Locality
import Citation.Proofs.LocalReading
import Citation.Proofs.LocalItems
import Citation.Proofs.Malformed
import Citation.Proofs.Appending
import Citation.Proofs.Isolation
import Citation.Proofs.UndefinedMacros
import Citation.Proofs.Readings
import Citation.Proofs.Spellings
import Citation.Proofs.DatabaseOrder
import Citation.Proofs.Padding
import Citation.Proofs.Arguments
import Citation.Proofs.Decoding
import Citation.Proofs.GroupEnds
import Citation.Proofs.Expansion
import Citation.Proofs.MacroScope
import Citation.Proofs.NameForms
import Citation.Proofs.NameLists
import Citation.Proofs.WrittenNames
import Citation.Proofs.Initials
import Citation.Proofs.AuthorOrder
import Citation.Proofs.Seams
import Citation.Proofs.LineComments
import Citation.Proofs.TypeNames
import Citation.Proofs.Escapes
import Citation.Proofs.WrittenBraces
import Citation.Proofs.Declarations
import Citation.Proofs.FirstStops
import Citation.Proofs.ByteScanners
import Citation.Proofs.Quotation
import Citation.Proofs.WellFormed
import Citation.Proofs.Operands
import Citation.Proofs.Numerals
import Citation.Proofs.CaseChanges
import Citation.Proofs.Enumerations
import Citation.Proofs.Sentences
import Citation.Proofs.Causes
import Citation.Proofs.LineFeeds
import Citation.Proofs.Lines
import Citation.Proofs.NameLayout
import Citation.Proofs.Dashes
import Citation.Proofs.TypeLookup
import Citation.Proofs.Descent
import Citation.Proofs.CallChains
