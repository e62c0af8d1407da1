import Outline.Path
import Outline.Schema.Read
import Outline.Url

namespace Outline

-- Is a text an address of the web, rather than the path of a file?
def isWebAddress (s : String) : Bool :=
  "http://".toList.isPrefixOf s.toList || "https://".toList.isPrefixOf s.toList

-- Names that end in the suffixes of YAML are of YAML texts, and all others of JSON texts.
def Format.ofFileName (name : String) : Format :=
  let cs := (Text.small name).toList
  if ".yaml".toList.isSuffixOf cs || ".yml".toList.isSuffixOf cs then yaml else json

-- How the schema at an address is written, or in a file if the text is the path of one.
def Format.ofAddress (s : String) : Except Url.Fault Format :=
  if isWebAddress s then (Url.read s).map fun u => ofFileName u.pathName
  else .ok (ofFileName s)

namespace Schema

inductive Location
  | file (path : Path)
  | web (address : String)
  deriving DecidableEq, Repr

def Location.ofText (s : String) : Location :=
  if isWebAddress s then web s else file (.ofText s)

end Schema
end Outline
