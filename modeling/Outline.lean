import Outline.Json.Writer
import Outline.Main
import Outline.Proofs.Check.Depth
import Outline.Proofs.Check.Draft
import Outline.Proofs.Check.Inheritance
import Outline.Proofs.Check.Patterns
import Outline.Proofs.Check.Relevance
import Outline.Proofs.Check.Tightening
import Outline.Proofs.Html.Heading
import Outline.Proofs.Markdown.Source
import Outline.Proofs.Markdown.Span
import Outline.Proofs.Report.Console
import Outline.Proofs.Schema.Normalization
import Outline.Proofs.Section.Append
import Outline.Proofs.Section.Data
import Outline.Proofs.Section.Stack
import Outline.Proofs.Service.Agreement
import Outline.Proofs.Service.Count
import Outline.Proofs.Web.Retries
import Outline.Section.Data
import Outline.Service
