import Outline.Text.Case

namespace Outline.Log

-- The names of levels, and how grave each is.
def levels : List (String × Int) :=
  [("CRITICAL", 50), ("FATAL", 50), ("ERROR", 40), ("WARN", 30), ("WARNING", 30), ("INFO", 20),
   ("DEBUG", 10), ("NOTSET", 0)]

def debug : Int := 10
def info : Int := 20
def warning : Int := 30

-- What a level is asked for by.
inductive Wish
  | number (level : Int)
  | name (name : String)
  deriving DecidableEq, Repr

-- The level that is asked for; a name that no level has stands for warnings.
def Wish.level : Wish → Int
  | number level => level
  | name s       => (levels.lookup (Text.capital s)).getD warning

-- A part of the program with a log of its own, and how many writers show its entries.
structure Channel where
  name    : String
  level   : Int
  writers : Nat
  deriving DecidableEq, Repr

-- The channels before anything is asked for.
def channels : List Channel := [⟨"docschema", 0, 0⟩, ⟨"server", 0, 0⟩]

-- Sets the level of every channel, and sees to it that each has a writer.
def configure (w : Wish) (cs : List Channel) : List Channel :=
  cs.map fun c => { c with level := w.level, writers := max c.writers 1 }

structure Entry where
  level   : Int
  source  : String
  message : String
  deriving DecidableEq, Repr

namespace Entry

def text (e : Entry) : String :=
  let name := ((levels.find? fun l => l.2 = e.level).map Prod.fst).getD (toString e.level)
  name ++ " " ++ e.source ++ ": " ++ e.message

end Entry

-- The entries that are grave enough, as they are shown.
def shown (level : Int) (es : List Entry) : List String :=
  (es.filter fun e => level ≤ e.level).map Entry.text

end Outline.Log
