import Outline.Pattern.Source
import Outline.Pattern.Syntax
import Outline.Text.Classes
import Outline.Text.CodePoint
import Outline.Text.Hex

namespace Outline.Pattern

-- What has been read so far, beside the items.
structure Reading where
  source     : Source
  flags      : Flags
  -- Set by a flag that says so.
  unicode    : Bool
  verbose    : Bool
  template   : Bool
  names      : List (List Char × Nat)
  -- The widths of the groups from number one on; a group that is open has none yet.
  widths     : Array (Option Width)
  -- The number of the first group that was opened inside a look behind.
  lookbehind? : Option Nat
  -- Groups that a condition names by number, with its position, the last one first.
  conditions : List (Nat × Nat)

abbrev Read (α : Type) := StateT Reading (Except Error) α

namespace Read

def source : Read Source := do return (← get).source

def setSource (s : Source) : Read Unit := modify fun r => { r with source := s }

def fail (reason : Reason) (back : Nat) : Read α := do throw ((← source).error reason back)

def next? : Read (Option Token) := do return (← source).next?

def take : Read (Option Token) := do
  let s ← source
  setSource (← s.advance)
  return s.next?

def skip (c : Char) : Read Bool := do
  match ← (← source).skip? c with
  | some s => setSource s; return true
  | none   => return false

def takeUpTo (p : Char → Bool) (n : Nat) : Read (List Char) := do
  let (cs, s) ← (← source).takeUpTo p n
  setSource s
  return cs

def takeAll (p : Char → Bool) : Read (List Char) := do
  let (cs, s) ← (← source).takeAll p
  setSource s
  return cs

def takeUntil (stop : Char) (what : String) : Read (List Char) := do
  let (cs, s) ← (← source).takeUntil stop what
  setSource s
  return cs

def position : Read Nat := do return (← source).position

end Read

open Read

private def isOctal (c : Char) : Bool := '0' ≤ c && c ≤ '7'

private inductive Escape
  | code (n : Nat)
  | ofClass (c : Class) (negated : Bool)
  | anchor (a : Anchor)
  | reference (group : Nat)

private def controlEscape? : Char → Option Nat
  | 'a'  => some 7
  | 'b'  => some 8
  | 'f'  => some 12
  | 'n'  => some 10
  | 'r'  => some 13
  | 't'  => some 9
  | 'v'  => some 11
  | '\\' => some 92
  | _    => none

private def classEscape? : Char → Option Escape
  | 'd' => some (.ofClass .digit false)
  | 'D' => some (.ofClass .digit true)
  | 's' => some (.ofClass .space false)
  | 'S' => some (.ofClass .space true)
  | 'w' => some (.ofClass .word false)
  | 'W' => some (.ofClass .word true)
  | _   => none

private def anchorEscape? : Char → Option Escape
  | 'A' => some (.anchor .textStart)
  | 'Z' => some (.anchor .textEnd)
  | 'b' => some (.anchor .boundary)
  | 'B' => some (.anchor .noBoundary)
  | _   => none

-- An escape with exactly `count` hexadecimal digits.
private def hexEscape (c : Char) (count : Nat) : Read Escape := do
  let digits ← takeUpTo Text.isHex count
  let text := String.ofList ('\\' :: c :: digits)
  if digits.length != count then fail (.incompleteEscape text) (2 + digits.length)
  let n := Text.numberIn 16 digits
  if Nat.pow 2 31 ≤ n then throw .codePointSize
  if 0x10FFFF < n then fail (.badEscape text) (2 + digits.length)
  return .code n

-- An escape by the name of a character. The table of the names is left out, so none of them is known.
private def namedEscape : Read Escape := do
  unless ← skip '\x7b' do fail (.missing "\x7b") 0
  let name ← takeUntil '\x7d' "character name"
  fail (.unknownCharacter (String.ofList name)) (name.length + 4)

private def octalEscape (digits : List Char) : Read Escape := do
  let n := Text.numberIn 8 digits
  if 0o377 < n then fail (.octalRange (String.ofList ('\\' :: digits))) (1 + digits.length)
  return .code n

-- An escape that means itself, unless it is a letter.
private def selfEscape (c : Char) : Read Escape := do
  if c.toNat < 128 && c.isAlpha then fail (.badEscape (String.ofList ['\\', c])) 2
  return .code (Text.codePoint c)

-- An escape in a set of characters; its first token has been passed.
private def setEscape (c : Char) : Read Escape := do
  match controlEscape? c, classEscape? c with
  | some n, _ => return .code n
  | _, some e => return e
  | none, none =>
    if c == 'x' then hexEscape c 2
    else if c == 'u' then hexEscape c 4
    else if c == 'U' then hexEscape c 8
    else if c == 'N' then namedEscape
    else if isOctal c then octalEscape (c :: (← takeUpTo isOctal 2))
    else if c.isDigit then fail (.badEscape (String.ofList ['\\', c])) 2
    else selfEscape c

-- The width of a group, if it is closed.
private def groupWidth? (r : Reading) (group : Nat) : Option Width :=
  if group == 0 then none else (r.widths[group - 1]?).join

private def groupCount (r : Reading) : Nat := r.widths.size + 1

-- Inside a look behind, only groups that were closed before it can be referred to.
private def checkLookbehind (group : Nat) : Read Unit := do
  let r ← get
  match r.lookbehind? with
  | none => return
  | some first =>
    if (groupWidth? r group).isNone then fail .openGroup 0
    if first ≤ group then fail .lookbehindGroup 0

private def groupEscape (digits : List Char) : Read Escape := do
  let group := Text.numberIn 10 digits
  let r ← get
  if group < groupCount r then
    if (groupWidth? r group).isNone then fail .openGroup (1 + digits.length)
    checkLookbehind group
    return .reference group
  else fail (.noGroup group) digits.length

-- An escape in a pattern; its first token has been passed.
private def escape (c : Char) : Read Escape := do
  match (classEscape? c).orElse fun _ => anchorEscape? c, controlEscape? c with
  | some e, _ => return e
  | _, some n => return .code n
  | none, none =>
    if c == 'x' then hexEscape c 2
    else if c == 'u' then hexEscape c 4
    else if c == 'U' then hexEscape c 8
    else if c == 'N' then namedEscape
    else if c == '0' then return .code (Text.numberIn 8 (← takeUpTo isOctal 2))
    else if c.isDigit then
      match ← takeUpTo Char.isDigit 1 with
      | [d] =>
        if isOctal c && isOctal d then
          match ← takeUpTo isOctal 1 with
          | [e] => octalEscape [c, d, e]
          | _   => groupEscape [c, d]
        else groupEscape [c, d]
      | _ => groupEscape [c]
    else selfEscape c

private def itemOf : Escape → Item
  | .code n            => .char n false
  | .ofClass c negated => .set false [.ofClass c negated]
  | .anchor a          => .anchor a
  | .reference group   => .reference group

private def memberOf : Escape → Member
  | .code n            => .one n
  | .ofClass c negated => .ofClass c negated
  | .anchor _          => .one 0
  | .reference _       => .one 0

-- The members, each once.
private def distinct (members : List Member) : List Member :=
  members.foldl (fun done m => if done.contains m then done else done ++ [m]) []

private def setOf (negated : Bool) (members : List Member) : Item :=
  match distinct members with
  | [.one n] => .char n negated
  | ms       => .set negated ms

-- One end of a range, or a member on its own.
private def setPart (t : Token) : Read Escape :=
  match t with
  | .plain c   => return .code (Text.codePoint c)
  | .escaped c => setEscape c

-- Members of a set that was opened at `start`, from the next one on.
private def setMembers (start : Nat) (done : List Member) : Nat → Read (List Member)
  | 0 => fail .unterminatedSet 0
  | fuel + 1 => do
    let unterminated : Read (List Member) := do
      throw (.malformed .unterminatedSet (some start))
    match ← take with
    | none => unterminated
    | some this =>
      if this == .plain ']' && !done.isEmpty then return done
      let low ← setPart this
      if ← skip '-' then
        match ← take with
        | none => unterminated
        | some that =>
          if that == .plain ']' then return done ++ [memberOf low, .one '-'.toNat]
          let high ← setPart that
          let bad : Read (List Member) :=
            fail (.badRange this.text that.text) (this.chars.length + 1 + that.chars.length)
          match low, high with
          | .code a, .code b =>
            if b < a then bad else setMembers start (done ++ [.range a b]) fuel
          | _, _ => bad
      else setMembers start (done ++ [memberOf low]) fuel

-- The counts of a repeat in braces, whose opening one has been passed at `here`; none if the
-- brace stands for itself.
private def counts? (here : Nat) : Read (Option (Nat × Option Nat)) := do
  if (← source).nextIs (· == '\x7d') then return none
  let start ← source
  let low ← takeAll Char.isDigit
  let high ← if ← skip ',' then takeAll Char.isDigit else pure low
  unless ← skip '\x7d' do
    setSource start
    return none
  let count (cs : List Char) : Read Nat := do
    if Number.digitLimit < cs.length then throw (.number (.tooLong cs.length))
    let n := Text.numberIn 10 cs
    if repeatLimit ≤ n then throw .repeatTooLarge
    return n
  let least ← if low.isEmpty then pure 0 else count low
  if high.isEmpty then return some (least, none)
  let most ← count high
  if most < least then fail .repeatOrder ((← position) - here)
  return some (least, some most)

-- The next part of the pattern repeated.
private def repeatLast (here : Nat) (least : Nat) (most? : Option Nat) (items : List Item) :
    Read (List Item) := do
  let back := (← position) - here + 1
  match items.getLast? with
  | none => fail .nothingToRepeat back
  | some last =>
    if last.isAnchor then fail .nothingToRepeat back
    if last.isRepeat then fail .multipleRepeat back
    let body := last.plainGroup?.getD [last]
    let mode ←
      if ← skip '?' then pure Mode.lazy
      else if ← skip '+' then pure Mode.possessive
      else pure Mode.greedy
    return items.dropLast ++ [.repeat mode least most? body]

private inductive Flag
  | ignoreCase
  | locale
  | multiline
  | dotAll
  | verbose
  | ascii
  | template
  | unicode
  deriving DecidableEq

private def flag? : Token → Option Flag
  | .plain 'i' => some .ignoreCase
  | .plain 'L' => some .locale
  | .plain 'm' => some .multiline
  | .plain 's' => some .dotAll
  | .plain 'x' => some .verbose
  | .plain 'a' => some .ascii
  | .plain 't' => some .template
  | .plain 'u' => some .unicode
  | _          => none

private def Flag.isType : Flag → Bool
  | .ascii | .locale | .unicode => true
  | _ => false

-- A token that is no flag where one could stand.
private def noFlag (t : Token) (expected : String) : Read α :=
  fail (if t.satisfies Text.isLetter then .unknownFlag else .missing expected) t.chars.length

-- Flags to turn on, from the one that has been passed; with the token that ends them.
private def flagsOn (on : List Flag) (flag : Flag) : Nat → Read (List Flag × Token)
  | 0 => fail .unexpectedEnd 0
  | fuel + 1 => do
    if flag == .locale then fail .localeFlag 0
    let on := flag :: on
    if flag.isType && on.any (fun f => f.isType && f != flag) then fail .typeFlags 0
    match ← take with
    | none => fail (.missing "-, : or )") 0
    | some t =>
      if t.satisfies fun c => c == ')' || c == '-' || c == ':' then return (on, t)
      match flag? t with
      | some next => flagsOn on next fuel
      | none      => noFlag t "-, : or )"

-- Flags to turn off, from the one that has been passed up to the colon.
private def flagsOff (off : List Flag) (flag : Flag) : Nat → Read (List Flag)
  | 0 => fail .unexpectedEnd 0
  | fuel + 1 => do
    if flag.isType then fail .typeFlagOff 0
    let off := flag :: off
    match ← take with
    | none => fail (.missing ":") 0
    | some t =>
      if t == .plain ':' then return off
      match flag? t with
      | some next => flagsOff off next fuel
      | none      => noFlag t ":"

private def change (on off : List Flag) : FlagChange :=
  let setting (f : Flag) : Option Bool :=
    if on.contains f then some true else if off.contains f then some false else none
  { ignoreCase? := setting .ignoreCase
    multiline?  := setting .multiline
    dotAll?     := setting .dotAll
    ascii?      := if on.contains .ascii then some true
      else if on.contains .unicode then some false else none
    verbose?    := setting .verbose }

private def setGlobally (on : List Flag) : Read Unit := modify fun r =>
  let has (f : Flag) (b : Bool) : Bool := b || on.contains f
  { r with
    flags    := ⟨has .ignoreCase r.flags.ignoreCase, has .multiline r.flags.multiline,
                 has .dotAll r.flags.dotAll, has .ascii r.flags.ascii⟩
    unicode  := has .unicode r.unicode
    verbose  := has .verbose r.verbose
    template := has .template r.template }

-- The flags of a group, after its question mark; none if they are for the whole pattern.
private def groupFlags (first : Token) : Read (Option FlagChange) := do
  let fuel := (← source).rest.length + 2
  let (on, stop) ← match flag? first with
    | some f => flagsOn [] f fuel
    | none   => pure ([], first)
  if stop == .plain ')' then
    setGlobally on
    return none
  if on.contains .template then fail .globalFlagOn 1
  let off ←
    if stop == .plain '-' then
      match ← take with
      | none => fail (.missing "flag") 0
      | some t => match flag? t with
        | some f => flagsOff [] f fuel
        | none   => noFlag t "flag"
    else pure []
  if off.contains .template then fail .globalFlagOff 1
  if on.any off.contains then fail .flagOnAndOff 1
  return some (change on off)

private def openGroup (name? : Option (List Char)) : Read Nat := do
  let r ← get
  let group := groupCount r
  let names ← match name? with
    | none => pure r.names
    | some name => match r.names.lookup name with
      | some earlier => fail (.nameTaken (String.ofList name) group earlier) (name.length + 1)
      | none => pure ((name, group) :: r.names)
  set { r with names := names, widths := r.widths.push none }
  return group

private def widthIn (r : Reading) (items : List Item) : Width :=
  Item.widthList (fun n => (groupWidth? r n).getD ⟨0, 0⟩) items

private def closeGroup (group : Nat) (body : List Item) : Read Unit := modify fun r =>
  { r with widths := r.widths.setIfInBounds (group - 1) (some (widthIn r body)) }

private def groupName (stop : Char) : Read (List Char) := do
  let name ← takeUntil stop "group name"
  unless Text.isName name do fail (.badName (String.ofList name)) (name.length + 1)
  return name

-- The group that a condition asks for.
private def conditionGroup : Read Nat := do
  let name ← takeUntil ')' "group name"
  let text := String.ofList name
  let back := name.length + 1
  if Text.isName name then
    match (← get).names.lookup name with
    | some group => return group
    | none       => fail (.unknownName text) back
  else match Number.readInt text with
    | .ok (.ofNat group) =>
      if group == 0 then fail .badGroupNumber back
      if groupLimit ≤ group then fail (.noGroup group) back
      let here ← position
      modify fun r =>
        if (r.conditions.lookup group).isSome then r
        else { r with conditions := r.conditions ++ [(group, here - back)] }
      return group
    | _ => fail (.badName text) back

-- Parts that all alternatives start with, where they are not groups.
private def sharedStart? (alternatives : List (List Item)) : Option Item :=
  match alternatives with
  | (first :: _) :: rest =>
    let same (i : Item) : Bool := match first, i with
      | .char a m, .char b n     => a == b && m == n
      | .any, .any               => true
      | .set m as, .set n bs     => m == n && as == bs
      | .anchor a, .anchor b     => a == b
      | .reference a, .reference b => a == b
      | _, _                     => false
    if rest.all fun a => match a with
      | i :: _ => same i
      | []     => false
    then some first else none
  | _ => none

-- The members of an alternative that is a single character or set.
private def single? : List Item → Option (List Member)
  | [.char n false] => some [.one n]
  | [.set false ms] => some ms
  | _ => none

private def gather (alternatives : List (List Item)) : Option (List Member) :=
  alternatives.foldr (fun a rest? => do some ((← single? a) ++ (← rest?))) (some [])

-- Alternatives as items: what all start with stands in front of them, and alternatives of one
-- character each are a set.
private def choose (shared : List Item) : Nat → List (List Item) → List Item
  | fuel + 1, alternatives => match sharedStart? alternatives with
    | some item => choose (shared ++ [item]) fuel (alternatives.map (·.drop 1))
    | none => shared ++ [match gather alternatives with
      | some ms => .set false (distinct ms)
      | none    => .choice alternatives]
  | 0, alternatives => shared ++ [.choice alternatives]

private def isSpaceInVerbose (c : Char) : Bool :=
  c == ' ' || (9 ≤ c.toNat && c.toNat ≤ 13)

private def skipLine : Nat → Read Unit
  | 0 => return
  | fuel + 1 => do
    match ← take with
    | none => return
    | some t => if t == .plain '\n' then return else skipLine fuel

private def skipComment (start : Nat) : Nat → Read Unit
  | 0 => return
  | fuel + 1 => do
    if (← next?).isNone then throw (.malformed .unterminatedComment (some start))
    match ← take with
    | some (.plain ')') => return
    | _ => skipComment start fuel

private def closeParen (start : Nat) : Read Unit := do
  unless ← skip ')' do throw (.malformed .unterminatedGroup (some start))

mutual

-- Alternatives, up to a closing parenthesis or the end. `outer` says that no group is open.
private def alternatives (outer verbose : Bool) : Nat → Read (List Item)
  | 0 => fail .unexpectedEnd 0
  | fuel + 1 => do
    let first ← sequence verbose outer [] fuel
    let rest ← moreAlternatives outer verbose fuel
    if rest.isEmpty then return first
    let all := first :: rest
    return choose [] ((all.map List.length).foldl max 0 + 1) all

private def moreAlternatives (outer verbose : Bool) : Nat → Read (List (List Item))
  | 0 => fail .unexpectedEnd 0
  | fuel + 1 => do
    unless ← skip '|' do return []
    let r ← get
    let verbose := if outer then r.verbose else verbose
    let next ← sequence verbose false [] fuel
    return next :: (← moreAlternatives outer verbose fuel)

-- A sequence of parts, after those in `done`. `first` says that global flags may stand here.
private def sequence (verbose first : Bool) (done : List Item) : Nat → Read (List Item)
  | 0 => fail .unexpectedEnd 0
  | fuel + 1 => do
    let finish : Read (List Item) := return Item.unwrap done
    match ← next? with
    | none => finish
    | some (.plain '|') => finish
    | some (.plain ')') => finish
    | some token =>
      let _ ← take
      let and (item : Item) : Read (List Item) := sequence verbose first (done ++ [item]) fuel
      match token with
      | .escaped c => and (itemOf (← escape c))
      | .plain c =>
        if verbose && isSpaceInVerbose c then sequence verbose first done fuel
        else if verbose && c == '#' then
          skipLine ((← source).rest.length + 2)
          sequence verbose first done fuel
        else if c == '[' then
          let start := (← position) - 1
          let negated ← skip '^'
          let members ← setMembers start [] ((← source).rest.length + 2)
          and (setOf negated members)
        else if c == '*' then
          sequence verbose first (← repeatLast (← position) 0 none done) fuel
        else if c == '+' then
          sequence verbose first (← repeatLast (← position) 1 none done) fuel
        else if c == '?' then
          sequence verbose first (← repeatLast (← position) 0 (some 1) done) fuel
        else if c == '\x7b' then
          let here ← position
          match ← counts? here with
          | none => and (.char (Text.codePoint c) false)
          | some (least, most?) =>
            sequence verbose first (← repeatLast here least most? done) fuel
        else if c == '.' then and .any
        else if c == '^' then and (.anchor .lineStart)
        else if c == '$' then and (.anchor .lineEnd)
        else if c == '(' then
          let item? ← group verbose (first && done.isEmpty) fuel
          let r ← get
          let verbose := verbose || (first && done.isEmpty && item?.isNone && r.verbose)
          sequence verbose first (done ++ item?.toList) fuel
        else and (.char (Text.codePoint c) false)

-- A group, after its opening parenthesis; none if it stands for no item.
private def group (verbose first : Bool) : Nat → Read (Option Item)
  | 0 => fail .unexpectedEnd 0
  | fuel + 1 => do
    let start := (← position) - 1
    let capture (name? : Option (List Char)) : Read (Option Item) := do
      let n ← openGroup name?
      let body ← alternatives false verbose fuel
      closeParen start
      closeGroup n body
      return some (.group (some n) .none body)
    let look (ahead negated : Bool) : Read (Option Item) := do
      let outermost := (← get).lookbehind?.isNone
      if !ahead && outermost then
        modify fun r => { r with lookbehind? := some (groupCount r) }
      let body ← alternatives false verbose fuel
      if !ahead && outermost then modify fun r => { r with lookbehind? := none }
      closeParen start
      let r ← get
      let direction := if ahead then .ahead else .behind (widthIn r body)
      return some (.look direction negated body)
    unless ← skip '?' do return ← capture none
    match ← take with
    | none => fail .unexpectedEnd 0
    | some (.plain 'P') =>
      if ← skip '<' then capture (some (← groupName '>'))
      else if ← skip '=' then
        let name ← groupName ')'
        let back := name.length + 1
        let r ← get
        match r.names.lookup name with
        | none => fail (.unknownName (String.ofList name)) back
        | some n =>
          if (groupWidth? r n).isNone then fail .openGroup back
          checkLookbehind n
          return some (.reference n)
      else match ← take with
        | none   => fail .unexpectedEnd 0
        | some t => fail (.unknownExtension ("?P" ++ t.text)) (t.chars.length + 2)
    | some (.plain ':') =>
      let body ← alternatives false verbose fuel
      closeParen start
      return some (.group none .none body)
    | some (.plain '#') =>
      skipComment start ((← source).rest.length + 2)
      return none
    | some (.plain '=') => look true false
    | some (.plain '!') => look true true
    | some (.plain '<') =>
      match ← take with
      | none              => fail .unexpectedEnd 0
      | some (.plain '=') => look false false
      | some (.plain '!') => look false true
      | some t            => fail (.unknownExtension ("?<" ++ t.text)) (t.chars.length + 2)
    | some (.plain '(') =>
      let n ← conditionGroup
      checkLookbehind n
      let yes ← sequence verbose false [] fuel
      let no? ←
        if ← skip '|' then
          let no ← sequence verbose false [] fuel
          if (← source).nextIs (· == '|') then fail .thirdBranch 0
          pure (some no)
        else pure none
      closeParen start
      return some (.conditional n yes no?)
    | some (.plain '>') =>
      let body ← alternatives false verbose fuel
      closeParen start
      return some (.atomic body)
    | some t =>
      if (flag? t).isSome || t == .plain '-' then
        match ← groupFlags t with
        | none =>
          unless first do throw (.malformed .lateFlags (some start))
          return none
        | some change =>
          let body ← alternatives false (change.verbose?.getD verbose) fuel
          closeParen start
          return some (.group none change body)
      else fail (.unknownExtension ("?" ++ t.text)) (t.chars.length + 1)

end

-- The first part that cannot be searched for, in order.
mutual

private def checkItem (template : Bool) : Item → Except Error Unit
  | .repeat mode _ _ body =>
    if template then
      let operator := match mode with
        | .greedy     => "MAX_REPEAT"
        | .lazy       => "MIN_REPEAT"
        | .possessive => "POSSESSIVE_REPEAT"
      .error (.malformed (.template operator) none)
    else checkList template body
  | .group _ _ body => checkList template body
  | .atomic body    => checkList template body
  | .look .ahead _ body => checkList template body
  | .look (.behind width) _ body =>
    if repeatLimit < width.least then .error (.malformed .longLookbehind none)
    else if width.least != width.most then .error (.malformed .variableLookbehind none)
    else checkList template body
  | .conditional _ yes no? =>
    match checkList template yes with
    | .error e => .error e
    | .ok _ => match no? with
      | some no => checkList template no
      | none    => .ok ()
  | .choice as => checkChoice template as
  | _ => .ok ()

private def checkList (template : Bool) : List Item → Except Error Unit
  | [] => .ok ()
  | i :: is => match checkItem template i with
    | .error e => .error e
    | .ok _    => checkList template is

private def checkChoice (template : Bool) : List (List Item) → Except Error Unit
  | [] => .ok ()
  | a :: as => match checkList template a with
    | .error e => .error e
    | .ok _    => checkChoice template as

end

end Pattern

-- A pattern that can be searched for.
structure Pattern where
  items : List Pattern.Item
  flags : Pattern.Flags
  deriving Repr

namespace Pattern

private def whole (fuel : Nat) : Read (List Item) := do
  let items ← alternatives true false fuel
  let r ← get
  if r.flags.ascii && r.unicode then throw .flagConflict
  if r.source.next?.isSome then Read.fail .unbalanced 0
  match r.conditions.find? fun (n, _) => groupCount r ≤ n with
  | some (n, position) => throw (.malformed (.noGroup n) (some position))
  | none => return items

-- Reads a pattern, which is not case-sensitive unless it says so.
def read (pattern : String) : Except Error Pattern := do
  let source ← Source.ofText pattern
  let start : Reading :=
    { source := source, flags := ⟨true, false, false, false⟩, unicode := false, verbose := false
      template := false, names := [], widths := #[], lookbehind? := none, conditions := [] }
  let (items, r) ← (whole (2 * source.length + 4)).run start
  checkList r.template items
  return ⟨items, r.flags⟩

end Pattern
end Outline
