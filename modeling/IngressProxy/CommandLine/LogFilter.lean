import IngressProxy.Http.Header
import IngressProxy.Pattern.Basic

namespace IngressProxy.LogFilter

/-- The names of the levels; levels may also be given by their numbers. -/
def levelNames : List String := ["off", "error", "warn", "info", "debug", "trace"]

/-- Reads a number that may have a plus sign. -/
def readUnsigned? (cs : List Char) : Option Nat :=
  let ds := match cs with
    | '+' :: rest => rest
    | _ => cs
  if ds.isEmpty || !ds.all Char.isDigit then none
  else some (ds.foldl (fun n c => n * 10 + (c.toNat - '0'.toNat)) 0)

def isLevel (cs : List Char) : Bool :=
  match readUnsigned? cs with
  | some n => n < levelNames.length
  | none => levelNames.contains (String.ofList (cs.map Char.toLower))

/-- Where a reader of a directive stands, with the characters of the part that it is in, the newest
first. -/
inductive State where
  | start
  | target (acc : List Char)
  | span
  | fields (acc : List Char)
  | fieldsEnd
  | spanEnd
  | level (acc : List Char)
  deriving DecidableEq, Repr

def mayBegin (c : Char) : Bool :=
  c = '-' || c = ':' || c = '_' || Unicode.alphabetic.contains c || Unicode.numeric.contains c

/-- Whether a field is a name, or a name and a value that is a number or a pattern. -/
def isField (cs : List Char) : Bool :=
  match (cs.dropWhile (· ≠ '=')).drop 1 |>.takeWhile (· ≠ '=') with
  | [] => !cs.isEmpty
  | value => (readUnsigned? value).isSome || (Pattern.compile? (String.ofList value)).isSome

def State.step? (s : State) (c : Char) : Option State :=
  match s with
  | .start => if c = '[' then some .span else if mayBegin c then some (.target [c]) else none
  | .target acc =>
    if c = '=' then some (.level []) else if c = '[' then some .span else some (.target (c :: acc))
  | .span => if c = ']' then some .spanEnd else if c = '\x7b' then some (.fields []) else some .span
  | .fields acc =>
    if c = '\x7d' then (if isField acc.reverse then some .fieldsEnd else none)
    else some (.fields (c :: acc))
  | .fieldsEnd => if c = ']' then some .spanEnd else none
  | .spanEnd => if c = '=' then some (.level []) else none
  | .level acc => some (.level (c :: acc))

/-- Whether a directive may end here. A level that is not written is the most detailed. -/
def State.mayEnd : State → Bool
  | .target _ | .spanEnd => true
  | .level acc => acc.isEmpty || isLevel acc.reverse
  | _ => false

/-- Whether a text is a directive. Blanks at its ends do not count, except that a directive with a
level has none. -/
def isDirective (cs : List Char) : Bool :=
  let trim (cs : List Char) : List Char := cs.dropWhile Unicode.blank.contains
  let inner := (trim (trim cs).reverse).reverse
  match inner.foldlM State.step? .start with
  | some (.level acc) => inner = cs && (State.level acc).mayEnd
  | some s => s.mayEnd
  | none => false

/-- Whether a text is a filter: directives parted by commas, of which empty ones do not count. A
directive names a level, or a target with a level or without one, or spans in brackets with patterns
for their fields in braces. -/
def isFilter (s : String) : Bool :=
  ((CommaList.split s.toList).filter (!·.isEmpty)).all isDirective

end IngressProxy.LogFilter
