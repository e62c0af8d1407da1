import Mathlib
import Outline.Proofs.Cli.Run
import Outline.Proofs.Markdown.Block
import Outline.Proofs.Service.Allowlist
import Outline.Proofs.Text.Lines
import Outline.Proofs.Text.Mark

namespace Outline

namespace Service

-- A body with a document and, in it, the schema to check it against.
def Body.inline (markdown : String) (entries : List (String × Value)) (ruleId : String)
    (enforceOrder allowChildren : Bool) : Body :=
  .data <| .map [("markdown", .text markdown), ("schema", .map entries), ("rule_id", .text ruleId),
    ("enforce_order", .bool enforceOrder), ("allow_children", .bool allowChildren)]

theorem ofBody_inline {most : Int} {markdown : String} (h : (markdown.length : Int) ≤ most)
    (entries : List (String × Value)) (ruleId ruleId' : String) (enforceOrder allowChildren : Bool) :
    Request.ofBody most ruleId (.inline markdown entries ruleId' enforceOrder allowChildren) =
      .ok ⟨markdown, .inline entries, ruleId', enforceOrder, allowChildren⟩ := by
  have short : Request.shortText most (.text markdown) = .ok markdown := by
    simp [Request.shortText, Fit.text, Fit.andThen, show ¬most < markdown.length by omega]
  have first : Fit.required ["markdown"] (Request.shortText most)
      [("markdown", .text markdown), ("schema", .map entries), ("rule_id", .text ruleId'),
        ("enforce_order", .bool enforceOrder), ("allow_children", .bool allowChildren)] =
      .ok markdown := by
    show Fit.under (.field "markdown") (Request.shortText most (.text markdown)) = _
    rw [short]
    rfl
  simp only [Request.ofBody, Body.inline, Request.fit, Request.fields, first]
  rfl

-- A command line asks for the check of one Markdown document, the file of a text, with a schema that
-- the entries say which are in a file of JSON.
structure Alike (fs : Files) (a : Cli.Arguments) (name text : String)
    (entries : List (String × Value)) : Prop where
  files        : a.files = [name]
  markdown     : DocumentFormat.ofPath (.ofText name) = .markdown
  content      : fs.read (Path.ofText name).text = .ok (Text.Utf8.encode text)
  inFile       : ¬isWebAddress a.schema
  json         : Format.ofFileName (Path.ofText a.schema).text = .json
  schema       : ∃ s, fs.readText (Path.ofText a.schema).text = .ok s ∧
    Json.read (Schema.dropMark s) = .ok (.map entries)
  columns      : a.format = .csv → ∀ name ∈ a.columns, ∃ c : Csv.Column, c.name = name
  contentTypes : a.contentTypes? = none
  dropsCommas  : a.keepCommas = false

section

variable {σ : Type} {fs : Files} {a : Cli.Arguments} {name text : String}
variable {entries : List (String × Value)}

theorem respond_inline (send : Web.Send σ) (general : Outline.Settings) (own : Settings)
    {markdown : String} (short : (markdown.length : Int) ≤ own.characterLimit)
    (entries : List (String × Value)) (ruleId : String) (enforceOrder allowChildren : Bool) (s : σ) :
    (respond send general own "POST" "/api/validate"
      (.ok (.inline markdown entries ruleId enforceOrder allowChildren)) s).answer =
      check ⟨markdown, .inline entries, ruleId, enforceOrder, allowChildren⟩ (ownSchema entries) := by
  rw [respond_post]
  simp only [answerBody, ofBody_inline short, validate, Handled.offline]

theorem ownSchema_ready (entries : List (String × Value)) :
    Ends Schema.Ready (fun _ => True) (ownSchema entries) :=
  Ends.mapError <| Schema.ofValue_ready ..

-- The checker that a caller asks for who leaves the kinds of content open.
def checkerOf (schema : Schema) (ruleId : String) (enforceOrder allowChildren : Bool) : Checker :=
  ⟨schema, .ofSchema schema ⟨ruleId, enforceOrder, allowChildren, none⟩⟩

theorem check_ok (r : Request) {schema : Schema} {ns : List Node}
    (made : ownSchema entries = .ok schema)
    (nodes : Document.nodes .markdown r.markdown = .ok ns) :
    check r (.ok schema) = .checked (Section.forest ns).length
      ((checkerOf schema r.ruleId r.enforceOrder r.allowChildren).diagnostics (Section.forest ns)) := by
  simp only [check, Checker.ofSchema_ready ((ownSchema_ready entries).of_ok made), nodes, checkerOf]

end

theorem exists_documentNodes (text : String) : ∃ ns, Document.nodes .markdown text = .ok ns := by
  have ⟨ns, nodes⟩ := Markdown.exists_nodes text
  exact ⟨ns, by simp [Document.nodes, nodes, Except.mapError]⟩

end Service
end Outline
