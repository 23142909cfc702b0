import PageMarkup.Main
import PageMarkup.Proofs.Document.Conservation
import PageMarkup.Proofs.Document.Denotation
import PageMarkup.Proofs.Json.Decoding
import PageMarkup.Proofs.Scan.Splitting
import PageMarkup.Session
import PageMarkup.Proofs.Document.Cursor
import PageMarkup.Proofs.Document.Effect
import PageMarkup.Proofs.Matching
import PageMarkup.Proofs.Document.Growth
import PageMarkup.Proofs.Document.Nesting
import PageMarkup.Proofs.Diagnosis
import PageMarkup.Proofs.Document.Shape
import PageMarkup.Proofs.Html.Classes
import PageMarkup.Proofs.Html.Fragment
import PageMarkup.Proofs.Html.Skeleton
import PageMarkup.Proofs.Document.Words
import PageMarkup.Proofs.Document.Origin
import PageMarkup.Proofs.Document.Declarations
import PageMarkup.Proofs.Document.ListContext
import PageMarkup.Proofs.Document.Parameters
import PageMarkup.Proofs.Layout
import PageMarkup.Proofs.BracketLanguage
import PageMarkup.Proofs.Scan.Places
import PageMarkup.Proofs.Scan.Earliest
import PageMarkup.Proofs.History
import PageMarkup.Proofs.Document.Pages
import PageMarkup.Proofs.Document.Insertion
import PageMarkup.Proofs.Document.Records
import PageMarkup.Proofs.Document.Inert
import PageMarkup.Proofs.Json.Listing
import PageMarkup.Proofs.Scan.LineByLine
import PageMarkup.Proofs.Scan.Loop
import PageMarkup.Proofs.Normalization
import PageMarkup.Proofs.Json.Indentation
import PageMarkup.Proofs.Json.Writer
