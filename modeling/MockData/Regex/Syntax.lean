import MockData.Regex.Bracket
import MockData.Text.Letter

/-!
Regular expressions: which texts are one. An expression has branches, a branch has items, and an
item is a character, an escape, a set or a group, or one of these repeated. All that is nested
counts: an expression is at most 250 deep.

Counts of repetitions stand between braces. The expressions read here stand between braces
themselves, so none of their opening braces can be closed.
-/
namespace MockData.Regex

/-- What a group opens with: flags for all that follows them in the group around, or the mode and
the names for what is in the group. -/
inductive Opening
  | flags (mode : Mode)
  | group (mode : Mode) (names : List String)
  deriving DecidableEq, Repr

def isNameStart (c : Char) : Bool := c = '_' || Text.isLetter c

def isNamePart (c : Char) : Bool :=
  c = '_' || c = '.' || c = '[' || c = ']' || Text.isLetterOrNumber c

def isName : List Char → Bool
  | [] => false
  | c :: cs => isNameStart c && cs.all isNamePart

def groupName (mode : Mode) (names : List String) : Parser Opening := fun cs =>
  let name := cs.takeWhile (· ≠ '>')
  match cs.dropWhile (· ≠ '>') with
  | [] => none
  | _ :: cs =>
    if isName name ∧ String.ofList name ∉ names then
      some (.group mode (String.ofList name :: names), cs)
    else none

def flagLetters : List Char := ['i', 'm', 's', 'u', 'U', 'R', 'x', '-']

/-- Each flag is given at most once. A dash turns off those behind it, and there are some. -/
def areFlags (flags : List Char) : Bool :=
  flags.all (· ∈ flagLetters) && flags.eraseDups.length = flags.length && flags.getLast? ≠ some '-'

def flag (old : Bool) (letter : Char) (flags : List Char) : Bool :=
  if letter ∈ flags.takeWhile (· ≠ '-') then true else if letter ∈ flags then false else old

def Mode.withFlags (mode : Mode) (flags : List Char) : Mode :=
  ⟨flag mode.unicode 'u' flags, flag mode.verbose 'x' flags⟩

def isFlagsEnd (c : Char) : Bool := c = ':' || c = ')'

def groupFlags (mode : Mode) (names : List String) : Parser Opening := fun cs =>
  let flags := cs.takeWhile (!isFlagsEnd ·)
  if areFlags flags then
    match cs.dropWhile (!isFlagsEnd ·) with
    | [] => none
    | ':' :: cs => some (.group (mode.withFlags flags) names, cs)
    | _ :: cs => if flags = [] then none else some (.flags (mode.withFlags flags), cs)
  else none

def opening (mode : Mode) (names : List String) : Parser Opening := fun cs =>
  match mode.dropSpace cs with
  | '?' :: 'P' :: '<' :: cs | '?' :: '<' :: cs => groupName mode names cs
  | '?' :: cs => groupFlags mode names cs
  | cs => some (.group mode names, cs)

/-- The items of a branch read so far: how many, the depth of the deepest of them but for the
last, and of the last one if it can be repeated. -/
structure Items where
  count : Nat
  deepest : Nat
  last : Option Nat
  deriving DecidableEq, Repr

namespace Items

def empty : Items := ⟨0, 0, none⟩

def above (i : Items) : Nat := max i.deepest (i.last.getD 0)

def add (i : Items) (depth : Nat) : Items := ⟨i.count + 1, i.above, some depth⟩

def addFlags (i : Items) : Items := ⟨i.count + 1, i.above, none⟩

def repeated? (i : Items) : Option Items :=
  i.last.map fun depth => ⟨i.count, i.deepest, some (depth + 1)⟩

def depth (i : Items) : Nat := joined i.count i.above

end Items

structure Body where
  mode : Mode
  names : List String
  before : Option Nat
  items : Items
  deriving DecidableEq, Repr

namespace Body

def start (mode : Mode) (names : List String) : Body := ⟨mode, names, none, .empty⟩

def add (b : Body) (depth : Nat) : Body := { b with items := b.items.add depth }

def branch (b : Body) : Body :=
  ⟨b.mode, b.names, some (max (b.before.getD 0) b.items.depth), .empty⟩

def depth (b : Body) : Nat :=
  match b.before with
  | none => b.items.depth
  | some d => max d b.items.depth + 1

end Body

def dropLazySign : List Char → List Char
  | '?' :: cs => cs
  | cs => cs

def bodyRest (inner : Nat → Mode → List String → Parser Body) : (fuel : Nat) → Body → Parser Body
  | 0, _, _ => none
  | fuel + 1, b, cs => match b.mode.dropSpace cs with
    | [] => some (b, [])
    | ')' :: cs => some (b, ')' :: cs)
    | '|' :: cs => bodyRest inner fuel b.branch cs
    | '?' :: cs | '*' :: cs | '+' :: cs =>
      b.items.repeated?.bind fun items =>
        bodyRest inner fuel { b with items := items } (dropLazySign cs)
    | '\x7b' :: _ => none
    | '(' :: cs => do
      match ← opening b.mode b.names cs with
      | (.flags mode, cs) =>
        bodyRest inner fuel { b with mode := mode, items := b.items.addFlags } cs
      | (.group mode names, cs) =>
        match ← inner fuel mode names cs with
        | (found, ')' :: cs) =>
          bodyRest inner fuel { b with
            names := found.names
            items := b.items.add (found.depth + 1) } cs
        | _ => none
    | '[' :: cs => do
      let (depth, cs) ← set b.mode 250 fuel cs
      bodyRest inner fuel (b.add depth) cs
    | '.' :: cs => if b.mode.unicode then bodyRest inner fuel (b.add 0) cs else none
    | '\\' :: cs => (escape b.mode cs).bind fun p => bodyRest inner fuel (b.add 0) p.2
    | _ :: cs => bodyRest inner fuel (b.add 0) cs

def body (limit : Nat) : (fuel : Nat) → Mode → List String → Parser Body :=
  match limit with
  | 0 => fun fuel mode names => bodyRest (fun _ _ _ _ => none) fuel (.start mode names)
  | limit + 1 => fun fuel mode names => bodyRest (body limit) fuel (.start mode names)

def isValid (cs : List Char) : Bool :=
  match body 250 (cs.length + 1) .plain [] cs with
  | some (b, []) => b.depth ≤ 250
  | _ => false

end MockData.Regex
