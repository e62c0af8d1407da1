import Outline.Files
import Outline.Html
import Outline.Markdown

namespace Outline

inductive DocumentFormat
  | markdown
  | html
  deriving DecidableEq, Repr

-- Files that end in the suffixes of HTML hold HTML, and all others Markdown.
def DocumentFormat.ofPath (p : Path) : DocumentFormat :=
  if [".html", ".htm"].contains (Text.small p.suffix) then html else markdown

namespace Document

-- Why there are no nodes.
inductive Error
  | unreadable (path : String) (e : Files.ReadError)
  | block (e : Markdown.UnsupportedBlock)
  | markup (e : Html.Fault)
  deriving DecidableEq, Repr

-- Is it reported as the fault of the document? The others break off the run.
def Error.isReported : Error → Bool
  | unreadable _ e => e.isReported
  | block _        => true
  | markup _       => false

def Error.message : Error → String
  | unreadable path e =>
    if e.isReported then "Cannot read document " ++ path ++ ": " ++ e.message else e.message
  | block e           => e.message
  | markup e          => e.message

def nodes (format : DocumentFormat) (text : String) : Except Error (List Node) :=
  match format with
  | .markdown => (Markdown.read text).mapError .block
  | .html     => (Html.read text).mapError .markup

def load (fs : Files) (format : DocumentFormat) (p : Path) : Except Error (List Node) := do
  nodes format (← (fs.readMarkedText p.text).mapError (.unreadable p.text))

end Document
end Outline
