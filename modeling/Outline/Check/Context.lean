import Outline.Schema
import Outline.Section

namespace Outline

-- What the caller asks for where the schema leaves it open.
structure Options where
  ruleId        : String
  enforceOrder  : Bool
  allowChildren : Bool
  contentTypes? : Option (List String)
  deriving DecidableEq, Repr

-- The settings that hold at one level of a schema.
structure Context where
  -- The names of the entries above, each followed by an arrow.
  path          : String
  enforceOrder  : Bool
  allowChildren : Bool
  -- Kinds of content that fill a section, in ascending order.
  contentTypes  : List String
  ruleId        : String
  deriving DecidableEq, Repr

namespace Options

def defaultRuleId : String := "docschema-structure"

def defaultContentTypes : List String := ["blockquote", "code", "list", "paragraph", "table"]

def default : Options := ⟨defaultRuleId, false, false, none⟩

end Options

namespace Context

-- What stands between the names of a path.
def arrow : String := " > "

-- The settings of the top level.
def ofSchema (s : Schema) (o : Options) : Context :=
  { path          := ""
    enforceOrder  := s.enforceOrder?.getD o.enforceOrder
    allowChildren := s.allowChildren?.getD o.allowChildren
    contentTypes  := s.contentTypes?.getD (o.contentTypes?.getD Options.defaultContentTypes)
    ruleId        := o.ruleId }

-- Do deeper sections fill the section of this entry?
def allowsChildren (c : Context) (e : Schema.Entry) : Bool :=
  e.allowChildren?.getD c.allowChildren

-- The settings of the level below a matched entry.
def descend (c : Context) (e : Schema.Entry) : Context :=
  { c with
    path          := c.path ++ e.name ++ arrow
    enforceOrder  := e.enforceOrder?.getD c.enforceOrder
    allowChildren := c.allowsChildren e }

-- The text without what it ends in, if it ends in that.
def dropEnd (s suffix : String) : String :=
  if s.endsWith suffix then String.ofList (s.toList.take (s.length - suffix.length)) else s

-- Where messages say that an entry stands.
def place (c : Context) : String :=
  let names := dropEnd c.path arrow
  if names = "" then "root level" else names

end Context
end Outline
