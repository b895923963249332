import IngressProxy.Pattern.Term
import IngressProxy.Text.Hex
import IngressProxy.Unicode.Property

namespace IngressProxy.Pattern

/-- What is left to read, whether blanks are skipped, and the group names in use. -/
structure Cursor where
  rest : List Char
  extended : Bool := false
  names : List String := []

/-- A reader of a part of a pattern. -/
abbrev Parse := StateT Cursor Option

namespace Parse

def peek : Parse (Option Char) := fun s => some (s.rest.head?, s)

def bump : Parse Unit := fun s => some ((), { s with rest := s.rest.tail })

def char : Parse Char := fun s => s.rest.head?.map (·, s)

/-- Drops a text if it comes next. -/
def bumpIf (text : String) : Parse Bool := fun s =>
  if text.toList.isPrefixOf s.rest then
    some (true, { s with rest := s.rest.drop text.length })
  else some (false, s)

/-- The length of the rest, which bounds every loop. -/
def remaining : Parse Nat := fun s => some (s.rest.length, s)

def dropSpace (comment : Bool) : List Char → List Char
  | [] => []
  | c :: cs =>
    if comment then dropSpace (c ≠ '\n') cs
    else if Unicode.blank.contains c then dropSpace false cs
    else if c = '#' then dropSpace true cs
    else c :: cs

/-- Skips blanks and comments in extended mode. -/
def space : Parse Unit := fun s =>
  some ((), if s.extended then { s with rest := dropSpace false s.rest } else s)

/-- Drops the next character and skips blanks after it. -/
def bumpSpace : Parse Unit := do
  bump
  space

/-- Up to `n` characters for which `p` holds, blanks after each being skipped. -/
def collect (p : Char → Bool) : Nat → Parse (List Char)
  | 0 => return []
  | n + 1 => do
    match ← peek with
    | some c =>
      if p c then
        bumpSpace
        return c :: (← collect p n)
      else return []
    | none => return []

/-- All characters at the front for which `p` holds. -/
def collectAll (p : Char → Bool) : Parse (List Char) := do collect p (← remaining)

end Parse

open Parse

def isMeta (c : Char) : Bool := "\\.+*?()|[]\x7b\x7d^$#&-~".toList.contains c

/-- Characters that stand for themselves after a backslash: all of ASCII but letters, digits and the
angles, which mark words. -/
def isEscapable (c : Char) : Bool :=
  c.toNat < 0x80 && !c.isAlphanum && c ≠ '<' && c ≠ '>'

/-- The character of that code point, unless it is a surrogate or too large. -/
def charOfCode? (n : Nat) : Option Char :=
  if n < 0xD800 ∨ (0xDFFF < n ∧ n < 0x110000) then some (Char.ofNat n) else none

/-- A hexadecimal escape after its letter: digits in braces, or `width` digits. -/
def hexEscape (width : Nat) : Parse Literal := do
  bumpSpace
  if (← char) = '\x7b' then
    bumpSpace
    let digits ← collectAll fun c => (Hex.digit? c).isSome
    if digits.isEmpty || (← char) ≠ '\x7d' then failure
    bumpSpace
    match (Hex.number? digits).bind charOfCode? with
    | some c => return { char := c }
    | none => failure
  else
    let digits ← collect (fun c => (Hex.digit? c).isSome) width
    if digits.length < width then failure
    match (Hex.number? digits).bind charOfCode? with
    | some c => return { char := c, byteEscape := width = 2 }
    | none => failure

def splitOnce (text : List Char) : List Char → List Char → Option (List Char × List Char)
  | _, [] => none
  | acc, c :: cs =>
    if text.isPrefixOf (c :: cs) then some (acc.reverse, (c :: cs).drop text.length)
    else splitOnce text (c :: acc) cs

def propertyQuery (name : List Char) : PropertyQuery :=
  let valued (unequal : Bool) (parts : List Char × List Char) : PropertyQuery :=
    .valued unequal (String.ofList parts.1) (String.ofList parts.2)
  match splitOnce ['!', '='] [] name, splitOnce [':'] [] name, splitOnce ['='] [] name with
  | some parts, _, _ => valued true parts
  | none, some parts, _ => valued false parts
  | none, none, some parts => valued false parts
  | none, none, none => .named (String.ofList name)

def property : Parse PropertyQuery := do
  bumpSpace
  let c ← char
  if c = '\x7b' then
    bumpSpace
    let name ← collectAll fun c => c ≠ '\x7d'
    if (← char) ≠ '\x7d' then failure
    bump
    return propertyQuery name
  else
    if c = '\\' then failure
    bumpSpace
    return .named (String.singleton c)

/-- What may follow `\b` in braces. If the braces do not start with a letter or a hyphen they belong
to a repetition, and nothing is read. -/
def wordAssertion : Parse Assertion := fun start =>
  if start.rest.head? ≠ some '\x7b' then some (.wordBoundary, start)
  else
    let isNameChar (c : Char) : Bool := c.isAlpha || c = '-'
    let reader : Parse Assertion := do
      bumpSpace
      if !isNameChar (← char) then return .wordBoundary
      let name ← collectAll isNameChar
      if (← char) ≠ '\x7d' then failure
      bump
      match String.ofList name with
      | "start" => return .wordStart
      | "end" => return .wordEnd
      | "start-half" => return .wordStartHalf
      | "end-half" => return .wordEndHalf
      | _ => failure
    match reader start with
    | some (.wordBoundary, _) => some (.wordBoundary, start)
    | r => r

inductive Primitive where
  | literal (l : Literal)
  | assertion (a : Assertion)
  | dot
  | property (q : PropertyQuery) (negated : Bool)
  | letter (c : LetterClass) (negated : Bool)

/-- The letters of classes, small ones for the class and capital ones for all else. -/
def letterClass? : Char → Option (LetterClass × Bool)
  | 'd' => some (.digit, false)
  | 'D' => some (.digit, true)
  | 's' => some (.blank, false)
  | 'S' => some (.blank, true)
  | 'w' => some (.word, false)
  | 'W' => some (.word, true)
  | _ => none

/-- The letters of characters without a shape. -/
def letterEscape? : Char → Option Char
  | 'a' => some '\x07'
  | 'f' => some '\x0c'
  | 't' => some '\t'
  | 'n' => some '\n'
  | 'r' => some '\r'
  | 'v' => some '\x0b'
  | _ => none

/-- The letters of assertions, apart from `b`. -/
def letterAssertion? : Char → Option Assertion
  | 'A' => some .textStart
  | 'z' => some .textEnd
  | 'B' => some .notWordBoundary
  | '<' => some .wordStart
  | '>' => some .wordEnd
  | _ => none

/-- An escape, from its backslash on. Back-references are none. -/
def escape : Parse Primitive := do
  bump
  let c ← char
  if c = 'x' then return .literal (← hexEscape 2)
  if c = 'u' then return .literal (← hexEscape 4)
  if c = 'U' then return .literal (← hexEscape 8)
  if c = 'p' || c = 'P' then return .property (← property) (c = 'P')
  bump
  if isMeta c || isEscapable c then return .literal { char := c }
  if c = 'b' then return .assertion (← wordAssertion)
  match letterClass? c, letterEscape? c, letterAssertion? c with
  | some (k, negated), _, _ => return .letter k negated
  | _, some e, _ => return .literal { char := e }
  | _, _, some a => return .assertion a
  | _, _, _ => failure

def primitive : Parse Primitive := do
  let c ← char
  if c = '\\' then escape
  else
    bump
    if c = '.' then return .dot
    if c = '^' then return .assertion .lineStart
    if c = '$' then return .assertion .lineEnd
    return .literal { char := c }

def Primitive.toTerm : Primitive → Term
  | .literal l => .literal l
  | .assertion a => .assertion a
  | .dot => .dot
  | .property q n => .property q n
  | .letter c n => .letter c n

def asciiNames : List String :=
  ["alnum", "alpha", "ascii", "blank", "cntrl", "digit", "graph", "lower", "print", "punct",
    "space", "upper", "word", "xdigit"]

/-- A named class such as `[:alpha:]`, or nothing is read. -/
def asciiClass? : Parse (Option ClassTerm) := fun s =>
  let named (negated : Bool) (cs : List Char) : Option (ClassTerm × List Char) :=
    let name := String.ofList (cs.takeWhile (· ≠ ':'))
    match cs.dropWhile (· ≠ ':') with
    | ':' :: ']' :: rest =>
      if asciiNames.contains name then some (.ascii name negated, rest) else none
    | _ => none
  let found := match s.rest with
    | '[' :: ':' :: '^' :: cs => named true cs
    | '[' :: ':' :: cs => named false cs
    | _ => none
  match found with
  | some (t, rest) => some (some t, { s with rest })
  | none => some (none, s)

def classItem : Parse Primitive := do
  let c ← char
  if c = '\\' then escape
  else
    bump
    return .literal { char := c }

def Primitive.toClass : Primitive → Parse ClassTerm
  | .literal l => return .literal l
  | .property q n => return .property q n
  | .letter c n => return .letter c n
  | .assertion _ => failure
  | .dot => failure

/-- The character behind the next one. In extended mode blanks are passed over, and so is the mark
that opens a comment, but not its text. -/
def peekBehind : Parse (Option Char) := fun s =>
  let behind := s.rest.tail
  let afterBlanks (cs : List Char) := cs.dropWhile Unicode.blank.contains
  let found :=
    if s.extended then
      match afterBlanks behind with
      | '#' :: cs => ((afterBlanks cs).head?).or behind.head?
      | cs => cs.head?.or behind.head?
    else behind.head?
  some (found, s)

/-- One item of a class, or a range between two characters. A hyphen before the closing bracket or
before another hyphen makes no range. -/
def classRange : Parse ClassTerm := do
  let first ← classItem
  space
  let c ← char
  let behind ← peekBehind
  if c ≠ '-' || behind = some ']' || behind = some '-' then first.toClass
  else
    bumpSpace
    let second ← classItem
    match first, second with
    | .literal a, .literal b => if a.char ≤ b.char then return .interval a b else failure
    | _, _ => failure

/-- Up to `n` hyphens, each of which stands for itself. -/
def leadingHyphens : Nat → Parse (List ClassTerm)
  | 0 => return []
  | n + 1 => do
    if (← char) = '-' then
      bumpSpace
      return .literal { char := '-' } :: (← leadingHyphens n)
    else return []

/-- The opening bracket of a class: whether it is negated, and the items that stand for themselves
only in this place, hyphens or a closing bracket. -/
def classOpen : Parse (Bool × List ClassTerm) := do
  bumpSpace
  let negated := (← char) = '^'
  if negated then bumpSpace
  let hyphens ← leadingHyphens (← remaining)
  if hyphens.isEmpty && (← char) = ']' then
    bumpSpace
    let _ ← char
    return (negated, [.literal { char := ']' }])
  let _ ← char
  return (negated, hyphens)

def setOp? : Parse (Option SetOp) := do
  if ← bumpIf "&&" then return some .inter
  if ← bumpIf "--" then return some .diff
  if ← bumpIf "~~" then return some .symmDiff
  return none

/-- Applies an operation that waits for its second class. -/
def applyOp (pending : Option (SetOp × ClassTerm)) (t : ClassTerm) : ClassTerm :=
  match pending with
  | some (o, left) => .op o left t
  | none => t

/-- Reads the items of a class up to its closing bracket. Operations group to the left and have all
the same strength; `items` holds what was read since the last one, newest first. -/
def classBody : Nat → Option (SetOp × ClassTerm) → List ClassTerm → Parse ClassTerm
  | 0, _, _ => failure
  | fuel + 1, pending, items => do
    space
    let c ← char
    if c = '[' then
      match ← asciiClass? with
      | some t => classBody fuel pending (t :: items)
      | none =>
        let (negated, first) ← classOpen
        let t ← classBody fuel none first.reverse
        classBody fuel pending (.bracketed negated t :: items)
    else if c = ']' then
      bump
      return applyOp pending (.gather items.reverse)
    else
      match ← setOp? with
      | some o => classBody fuel (some (o, applyOp pending (.gather items.reverse))) []
      | none => classBody fuel pending ((← classRange) :: items)

def bracketed : Parse Term := do
  let n ← remaining
  let (negated, first) ← classOpen
  return .bracketed negated (← classBody (n + 1) none first.reverse)

def flag? : Char → Option Flag
  | 'i' => some .caseInsensitive
  | 'm' => some .multiLine
  | 's' => some .dotMatchesNewline
  | 'U' => some .swapGreed
  | 'u' => some .unicode
  | 'R' => some .crlf
  | 'x' => some .extended
  | _ => none

/-- Switches up to a colon or a closing parenthesis, which is left. No switch occurs twice, and one
hyphen at most parts those to turn on from those to turn off, of which there is one then. -/
def flagList : Nat → Bool → FlagList → Parse FlagList
  | 0, _, _ => failure
  | fuel + 1, off, done => do
    let c ← char
    if c = ':' || c = ')' then return done.reverse
    bump
    if c = '-' then
      let next ← char
      if off || next = ':' || next = ')' then failure
      flagList fuel true done
    else
      match flag? c with
      | some f =>
        if done.any fun d => d.1 = f then failure
        flagList fuel off ((f, !off) :: done)
      | none => failure

def isNameChar (first : Bool) (c : Char) : Bool :=
  c = '_' || Unicode.alphabetic.contains c ||
    (!first && (c = '.' || c = '[' || c = ']' || Unicode.numeric.contains c))

/-- The name of a group, with the angle that closes it. No two groups have the same name. -/
def groupName : Parse Unit := fun s =>
  let name := s.rest.takeWhile (· ≠ '>')
  let text := String.ofList name
  match name, s.rest.drop name.length with
  | c :: cs, _ :: rest =>
    if isNameChar true c && cs.all (isNameChar false) && !s.names.contains text then
      some ((), { s with rest, names := text :: s.names })
    else none
  | _, _ => none

/-- What an opening parenthesis introduces. -/
inductive Opening where
  | flags (fs : FlagList)
  | group (fs : FlagList) (captures : Bool)

/-- Reads an opening parenthesis and what belongs to it. Assertions that look around are none. -/
def opening : Parse Opening := do
  bumpSpace
  for look in ["?=", "?!", "?<=", "?<!"] do
    if ← bumpIf look then failure
  if (← bumpIf "?P<") || (← bumpIf "?<") then
    groupName
    return .group [] true
  if ← bumpIf "?" then
    let fs ← flagList ((← remaining) + 1) false []
    let c ← char
    bump
    if c = ':' then return .group fs false
    if fs.isEmpty then failure
    return .flags fs
  return .group [] true

def FlagList.state? (fs : FlagList) (f : Flag) : Option Bool := fs.lookup f

def setExtended (b : Bool) : Parse Unit := fun s => some ((), { s with extended := b })

def isExtended : Parse Bool := fun s => some (s.extended, s)

/-- The part that a repetition applies to: the newest one, which must be a part that matches
something, not a switch. -/
def repeatable : List Term → Parse (Term × List Term)
  | [] => failure
  | .empty :: _ => failure
  | .flags _ :: _ => failure
  | t :: ts => return (t, ts)

/-- Drops the question mark that makes a repetition reluctant. -/
def reluctance : Parse Unit := do
  let _ ← bumpIf "?"

def maxCount : Nat := UInt32.size - 1

/-- A count; blanks around it do not matter. -/
def count : Parse Nat := do
  modify fun s => { s with rest := s.rest.dropWhile Unicode.blank.contains }
  let digits ← collectAll Char.isDigit
  modify fun s => { s with rest := s.rest.dropWhile Unicode.blank.contains }
  space
  if digits.isEmpty then failure
  let n := digits.foldl (fun n c => n * 10 + (c.toNat - '0'.toNat)) 0
  if n > maxCount then failure
  return n

def counts : Parse (Nat × Option Nat) := do
  bumpSpace
  let least ← count
  let result ←
    if (← char) = ',' then
      bumpSpace
      if (← char) = '\x7d' then pure (least, none)
      else
        let most ← count
        if most < least then failure
        pure (least, some most)
    else pure (least, some least)
  if (← char) ≠ '\x7d' then failure
  bumpSpace
  reluctance
  return result

/-- Reads a pattern up to the end of the text or to a closing parenthesis, which is left. `branches`
holds the alternatives that are complete and `items` the parts of the present one, newest first. -/
def terms : Nat → List Term → List Term → Parse Term
  | 0, _, _ => failure
  | fuel + 1, branches, items => do
    space
    match ← peek with
    | none => return .choice (.sequence items.reverse :: branches).reverse
    | some ')' => return .choice (.sequence items.reverse :: branches).reverse
    | some '|' =>
      bump
      terms fuel (.sequence items.reverse :: branches) []
    | some '(' =>
      match ← opening with
      | .flags fs =>
        if let some b := fs.state? .extended then setExtended b
        terms fuel branches (.flags fs :: items)
      | .group fs captures =>
        let outer ← isExtended
        setExtended ((fs.state? .extended).getD outer)
        let t ← terms fuel [] []
        if (← char) ≠ ')' then failure
        setExtended outer
        bump
        terms fuel branches (.group fs captures t :: items)
    | some '[' => terms fuel branches ((← bracketed) :: items)
    | some '?' =>
      let (t, items) ← repeatable items
      bump
      reluctance
      terms fuel branches (.repetition t 0 (some 1) :: items)
    | some '*' =>
      let (t, items) ← repeatable items
      bump
      reluctance
      terms fuel branches (.repetition t 0 none :: items)
    | some '+' =>
      let (t, items) ← repeatable items
      bump
      reluctance
      terms fuel branches (.repetition t 1 none :: items)
    | some '\x7b' =>
      let (t, items) ← repeatable items
      let (least, most) ← counts
      terms fuel branches (.repetition t least most :: items)
    | some _ => terms fuel branches ((← primitive).toTerm :: items)

/-- Reads a whole text as a pattern that is not nested too deeply. -/
def Term.parse? (s : String) : Option Term :=
  match terms (2 * s.length + 2) [] [] { rest := s.toList } with
  | some (t, cursor) => if cursor.rest.isEmpty && t.depth ≤ maxDepth then some t else none
  | none => none

end IngressProxy.Pattern
