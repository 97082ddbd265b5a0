import CursorLift.Catalogue
import CursorLift.CommandLine.Arguments
import CursorLift.CommandLine.Dump
import CursorLift.Concrete
import CursorLift.Cursor
import CursorLift.Description
import CursorLift.Engine
import CursorLift.Failure
import CursorLift.Json.Basic
import CursorLift.Json.Printer
import CursorLift.Json.Reader
import CursorLift.Json.Token
import CursorLift.Kind.Basic
import CursorLift.Kind.Table
import CursorLift.Lift
import CursorLift.Literal.Basic
import CursorLift.Literal.Floating
import CursorLift.Literal.Integer
import CursorLift.Main
import CursorLift.Node.Basic
import CursorLift.Node.Dump
import CursorLift.Number.Binary64
import CursorLift.Number.Shortest
import CursorLift.Number.Written
import CursorLift.Session.Basic
import CursorLift.Session.Script
import CursorLift.Text.Basic
import CursorLift.Text.Printable
import CursorLift.Trace
import CursorLift.View
import CursorLift.Visit
import CursorLift.Proofs.Lift
import CursorLift.Proofs.Representation
import CursorLift.Proofs.Release
import CursorLift.Proofs.Agreement
import CursorLift.Proofs.Elision
import CursorLift.Proofs.Surroundings
import CursorLift.Proofs.FirstFailure
import CursorLift.Proofs.Possession
import CursorLift.Proofs.ActiveUnit
import CursorLift.Proofs.Bracket
import CursorLift.Proofs.Interchange
import CursorLift.Proofs.Frontier
import CursorLift.Proofs.Counterpart
import CursorLift.Proofs.Extension
import CursorLift.Proofs.Containment
import CursorLift.Proofs.Digits
import CursorLift.Proofs.Grammar
import CursorLift.Proofs.Scanning
import CursorLift.Proofs.Reading
import CursorLift.Proofs.Numerals
import CursorLift.Proofs.Rounding
import CursorLift.Proofs.Doubles
import CursorLift.Proofs.Pattern
import CursorLift.Proofs.Denotation
import CursorLift.Proofs.Prefixes
import CursorLift.Proofs.Nearest
import CursorLift.Proofs.Words
import CursorLift.Proofs.Encoding
import CursorLift.Proofs.Relabelling
import CursorLift.Proofs.Loading
import CursorLift.Proofs.Reuse
import CursorLift.Proofs.Unsaved
import CursorLift.Proofs.Usage
import CursorLift.Proofs.Effects
import CursorLift.Proofs.Handouts
import CursorLift.Proofs.Wrappers
import CursorLift.Proofs.Inquiry
