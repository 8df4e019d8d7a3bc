import MockData.Settings.LogField
import MockData.Text.Blank
import MockData.Text.Measure

/-!
The texts that may stand as a level of logging: directives with commas between them. A directive
is a level, a target, a target with a level, or names a span in brackets and a field in braces.

A directive is run without the blanks around it, but the pieces that the run finds are cut from the
directive with them. So blanks at its front shift all pieces, and a shifted piece may start or end
inside a character, which is a fault of its own.
-/
namespace MockData.LogFilter

open Text

inductive Fault
  | malformed
  | cutCharacter
  deriving DecidableEq, Repr

def levelNames : List String := ["off", "error", "warn", "info", "debug", "trace"]

def isLevel (cs : List Char) : Bool :=
  let digits := match cs with
    | '+' :: cs => cs
    | cs => cs
  (!digits.isEmpty && digits.all isAsciiDigit && decimalValue digits ≤ 5)
    || (String.ofList cs).toLower ∈ levelNames

inductive State
  | start
  | target
  | span (start : Nat)
  | field (start : Nat)
  | fields
  | sign
  | level (start : Nat)
  deriving DecidableEq, Repr

def piece (whole : List Char) (start stop : Nat) : Except Fault (List Char) :=
  match slice? start stop whole with
  | some cs => .ok cs
  | none => .error .cutCharacter

def next (whole : List Char) (place : Nat) (c : Char) : State → Except Fault State
  | .start =>
    if c = '[' then .ok (.span (place + 1))
    else if c = '-' ∨ c = ':' ∨ c = '_' ∨ isLetterOrNumber c then .ok .target
    else .error .malformed
  | .target =>
    if c = '=' then (piece whole 0 place).map fun _ => .level (place + 1)
    else if c = '[' then (piece whole 0 place).map fun _ => .span (place + 1)
    else .ok .target
  | .span start =>
    if c = ']' then (piece whole start place).map fun _ => .sign
    else if c = '\x7b' then (piece whole start place).map fun _ => .field (place + 1)
    else .ok (.span start)
  | .field start =>
    if c = '\x7d' then do
      if LogField.isField (← piece whole start place) then .ok .fields else .error .malformed
    else .ok (.field start)
  | .fields => if c = ']' then .ok .sign else .error .malformed
  | .sign => if c = '=' then .ok (.level (place + 1)) else .error .malformed
  | .level start => .ok (.level start)

def run (whole : List Char) : (place : Nat) → State → List Char → Except Fault State
  | _, state, [] => .ok state
  | place, state, c :: cs => do run whole (place + c.utf8Size) (← next whole place c state) cs

def trim (cs : List Char) : List Char := (dropBlanks (dropBlanks cs).reverse).reverse

def checkDirective (cs : List Char) : Except Fault Unit := do
  match ← run cs 0 .start (trim cs) with
  | .target | .sign => return ()
  | .level start =>
    let level ← piece cs start (byteSize cs)
    if level.isEmpty || isLevel level then return () else throw .malformed
  | _ => throw .malformed

def directives : List Char → List (List Char)
  | [] => [[]]
  | c :: cs =>
    if c = ',' then [] :: directives cs
    else match directives cs with
      | d :: ds => (c :: d) :: ds
      | [] => [[c]]

/-- Empty directives are passed over; of several faults the first one counts. -/
def check (s : String) : Except Fault Unit :=
  (directives s.toList).forM fun d => if d.isEmpty then pure () else checkDirective d

end MockData.LogFilter
