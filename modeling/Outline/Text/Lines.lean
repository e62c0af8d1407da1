namespace Outline.Text

-- `done` holds what has been written, last character first.
def unifyFrom (done : List Char) : List Char → List Char
  | [] => done.reverse
  | '\r' :: '\n' :: rest => unifyFrom ('\n' :: done) rest
  | c :: rest => unifyFrom ((if c == '\r' then '\n' else c) :: done) rest

-- Carriage returns, with or without a line feed after them, written as line feeds.
def unifyNewlines (cs : List Char) : List Char := unifyFrom [] cs

-- Characters that end a line: line feed and carriage return, vertical tabulation, form feed, the
-- information separators, next line, and the line and paragraph separators.
def endsLine (c : Char) : Bool :=
  let n := c.toNat
  (10 ≤ n && n ≤ 13) || (28 ≤ n && n ≤ 30) || n == 0x85 || n == 0x2028 || n == 0x2029

-- `open?` holds the line that has begun, last character first, and `done` the lines before it.
def linesFrom (done : List (List Char)) (open? : Option (List Char)) :
    List Char → List (List Char)
  | [] => (match open? with
    | some line => line.reverse :: done
    | none      => done).reverse
  | '\r' :: '\n' :: rest => linesFrom ((open?.getD []).reverse :: done) none rest
  | c :: rest =>
    if endsLine c then linesFrom ((open?.getD []).reverse :: done) none rest
    else linesFrom done (some (c :: open?.getD [])) rest

-- The lines of a text without their ends; what ends a line starts no further one.
def lines (s : String) : List String := (linesFrom [] none s.toList).map String.ofList

end Outline.Text
