import Stencil.Column
import Stencil.Command.Arguments
import Stencil.Command.Check
import Stencil.Command.Outcome
import Stencil.Command.Render
import Stencil.Command.TokenValues
import Stencil.Files.Fault
import Stencil.Files.Path
import Stencil.Files.TextFile
import Stencil.Files.Tree
import Stencil.Header
import Stencil.Json.Basic
import Stencil.Json.Reader
import Stencil.Line
import Stencil.Log.Basic
import Stencil.Log.Message
import Stencil.Log.Trace
import Stencil.Log.Wording
import Stencil.Main
import Stencil.Name
import Stencil.Number.Binary64
import Stencil.Number.Shortest
import Stencil.Position
import Stencil.Segment
import Stencil.Session.Basic
import Stencil.Session.Load
import Stencil.Session.Render
import Stencil.Session.Write
import Stencil.Settings
import Stencil.Table
import Stencil.Template.Draft
import Stencil.Template.Fault
import Stencil.Template.Loading
import Stencil.Text.Blank
import Stencil.Text.CaseMapping
import Stencil.Text.CaseTable
import Stencil.Text.ControlSequence
import Stencil.Text.Integer
import Stencil.Text.Lines
import Stencil.Text.Quoted
import Stencil.Text.Unprintable
import Stencil.Text.Utf8
import Stencil.Token.Delimiters
import Stencil.Token.Fragment
import Stencil.Token.Substitution
import Stencil.Token.Tokens
import Stencil.Proofs.Name
import Stencil.Proofs.Table
import Stencil.Proofs.Template.Reading
import Stencil.Proofs.Template.Loading
import Stencil.Proofs.Template.WellFormed
import Stencil.Proofs.Template.Untouched
import Stencil.Proofs.Template.TextLines
import Stencil.Proofs.Header.Written
import Stencil.Proofs.Session.Load
import Stencil.Proofs.Session.Rendition
import Stencil.Proofs.Template.Written
import Stencil.Proofs.Session.Reachable
import Stencil.Proofs.Session.Sound
import Stencil.Proofs.Session.Pad
import Stencil.Proofs.Template.Stops
import Stencil.Proofs.Session.Failure
import Stencil.Proofs.Template.TokenNames
import Stencil.Proofs.Session.TokenNames
import Stencil.Proofs.Token.Enclosed
import Stencil.Proofs.Template.Afresh
import Stencil.Proofs.Session.Afresh
import Stencil.Proofs.Session.Block
import Stencil.Proofs.Session.History
import Stencil.Proofs.Session.FirstTime
import Stencil.Proofs.Session.Origin
import Stencil.Proofs.Session.Behind
import Stencil.Proofs.Session.Reset
import Stencil.Proofs.Session.Written
import Stencil.Proofs.Session.Unwritten
import Stencil.Proofs.Session.Delimiters
import Stencil.Proofs.Template.Delimiters
import Stencil.Proofs.Token.Bindings
import Stencil.Proofs.Session.Bindings
import Stencil.Proofs.Session.StartOver
import Stencil.Proofs.Session.Column
import Stencil.Proofs.Command.Render
import Stencil.Proofs.Session.Unfound
import Stencil.Proofs.Command.Values
import Stencil.Proofs.Files.Path
import Stencil.Proofs.Files.Writing
import Stencil.Proofs.Token.Filled
import Stencil.Proofs.Command.Delivery
import Stencil.Proofs.Token.Scanning
import Stencil.Proofs.Token.Between
import Stencil.Proofs.Token.Quoting
import Stencil.Proofs.Template.Passed
import Stencil.Proofs.Header.Plain
import Stencil.Proofs.Template.Faithful
import Stencil.Proofs.Token.Unresolved
import Stencil.Proofs.Token.Influence
import Stencil.Proofs.Template.Beginning
import Stencil.Proofs.Token.Pieces
import Stencil.Proofs.Token.Silent
import Stencil.Proofs.Column
import Stencil.Proofs.Session.Shift
import Stencil.Proofs.Name.Fresh
import Stencil.Proofs.Header.Options
import Stencil.Proofs.Header.ColumnFive
import Stencil.Proofs.Session.Refused
import Stencil.Proofs.Token.Supplied
import Stencil.Proofs.Session.Supplied
import Stencil.Proofs.Template.LineNumbers
import Stencil.Proofs.Session.Locations
import Stencil.Proofs.Files.Reading
import Stencil.Proofs.Settings
import Stencil.Proofs.Text.Numeral
import Stencil.Proofs.Text.Utf8
