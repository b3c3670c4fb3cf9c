import Schematron.Compiler.Session
import Schematron.Engine.Miniature
import Schematron.Json.Configuration
import Schematron.Json.Stage
import Schematron.Version
import Schematron.Proofs.Xml.Event
import Schematron.Proofs.Xml.Normal
import Schematron.Proofs.Xml.Building
import Schematron.Proofs.Xml.Numbering
import Schematron.Proofs.Xml.Progress
import Schematron.Proofs.Xml.Structure
import Schematron.Proofs.Xml.Escape
import Schematron.Proofs.Xml.Tag
import Schematron.Proofs.Xml.Lexing
import Schematron.Proofs.Xml.RoundTrip
import Schematron.Proofs.Xml.Reference
import Schematron.Proofs.Xml.Source
import Schematron.Proofs.Xml.Characters
import Schematron.Proofs.Resource.Location
import Schematron.Proofs.Compiler.Running
import Schematron.Proofs.Compiler.Coupling
import Schematron.Proofs.Compiler.Recording
import Schematron.Proofs.Compiler.Account
import Schematron.Proofs.Compiler.Classification
import Schematron.Proofs.Engine.Miniature
import Schematron.Proofs.Compiler.Inclusion
import Schematron.Proofs.Resource.Directory
import Schematron.Proofs.Resource.Listing
import Schematron.Proofs.Xml.Decoding
import Schematron.Proofs.Fingerprint
import Schematron.Proofs.Engine.Numbering
import Schematron.Proofs.Compiler.Numbering
import Schematron.Proofs.Xml.Line
import Schematron.Proofs.Xml.Place
import Schematron.Proofs.Xml.LineNumbers
import Schematron.Proofs.Encoding.Utf8
import Schematron.Proofs.Encoding.Utf16
import Schematron.Proofs.Xml.Bytes
import Schematron.Proofs.Xml.Surroundings
import Schematron.Proofs.Xml.Extending
import Schematron.Proofs.Xml.Nesting
import Schematron.Proofs.Xml.Frontier
import Schematron.Proofs.Xml.Truncation
import Schematron.Proofs.Engine.Answers
import Schematron.Proofs.Compiler.Course
import Schematron.Proofs.Compiler.Isolation
import Schematron.Proofs.Encoding.Declared
import Schematron.Proofs.Encoding.Offset
import Schematron.Proofs.Encoding.Undeclared
import Schematron.Proofs.Xml.Declaration
import Schematron.Proofs.Xml.Tree
import Schematron.Proofs.Engine.Expansion
import Schematron.Proofs.Engine.Depth
import Schematron.Proofs.Compiler.Pipeline
import Schematron.Proofs.Compiler.Report
import Schematron.Proofs.Compiler.Origin
import Schematron.Proofs.Resource.History
import Schematron.Proofs.Resource.Literal
import Schematron.Proofs.Encoding.Plain
import Schematron.Proofs.Xml.AttributeValue
import Schematron.Proofs.Xml.StartTag
import Schematron.Proofs.Xml.Markup
import Schematron.Proofs.Xml.AttributeMap
import Schematron.Proofs.Xml.DocumentOrder
import Schematron.Proofs.Xml.QualifiedName
import Schematron.Proofs.Json.Configuration
import Schematron.Proofs.Xml.Loop
import Schematron.Proofs.Xml.Questions
import Schematron.Proofs.Xml.OpenElements
