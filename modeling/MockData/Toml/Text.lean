import MockData.Text.Hex

/-!
The text of a settings file below its values: blanks, ends of lines, comments, strings and keys.
Control characters other than the tabulator stand nowhere in it.
-/
namespace MockData.Toml

open Text

abbrev Parser (α : Type) := List Char → Option (α × List Char)

def isBlank (c : Char) : Bool := c = ' ' || c = '\t'

def dropBlanks (cs : List Char) : List Char := cs.dropWhile isBlank

def isPlain (c : Char) : Bool := c = '\t' || (0x20 ≤ c.toNat && c.toNat ≠ 0x7F)

def newline : List Char → Option (List Char)
  | '\n' :: cs => some cs
  | '\r' :: '\n' :: cs => some cs
  | _ => none

def dropComment : List Char → List Char
  | '#' :: cs => cs.dropWhile isPlain
  | cs => cs

def lineEnd (cs : List Char) : Option (List Char) :=
  match dropComment (dropBlanks cs) with
  | [] => some []
  | cs => newline cs

def dropLines : (fuel : Nat) → List Char → Option (List Char)
  | 0, cs => some cs
  | fuel + 1, cs => match dropBlanks cs with
    | '#' :: cs => (newline (dropComment ('#' :: cs))).bind (dropLines fuel)
    | cs => match newline cs with
      | some cs => dropLines fuel cs
      | none => some cs

def prepend (c : Char) (r : Option (List Char × List Char)) : Option (List Char × List Char) :=
  r.map fun p => (c :: p.1, p.2)

def simpleEscape? : Char → Option Char
  | 'b' => some '\x08'
  | 'f' => some '\x0c'
  | 'n' => some '\n'
  | 'r' => some '\r'
  | 't' => some '\t'
  | '"' => some '"'
  | '\\' => some '\\'
  | _ => none

def codeChar? (digits : List Char) : Option Char :=
  (hexValue? digits).bind fun n => if h : n.isValidChar then some (Char.ofNatAux n h) else none

def basicRest : Parser (List Char)
  | [] => none
  | '"' :: cs => some ([], cs)
  | '\\' :: 'u' :: a :: b :: c :: d :: cs =>
    (codeChar? [a, b, c, d]).bind fun x => prepend x (basicRest cs)
  | '\\' :: 'U' :: a :: b :: c :: d :: e :: f :: g :: h :: cs =>
    (codeChar? [a, b, c, d, e, f, g, h]).bind fun x => prepend x (basicRest cs)
  | ['\\'] => none
  | '\\' :: c :: cs => (simpleEscape? c).bind fun x => prepend x (basicRest cs)
  | c :: cs => if isPlain c then prepend c (basicRest cs) else none

def literalRest : Parser (List Char)
  | [] => none
  | '\'' :: cs => some ([], cs)
  | c :: cs => if isPlain c then prepend c (literalRest cs) else none

/-- Reads a string of several lines from just after its opening quotes. Up to two quotes may stand
before the closing ones. A backslash at the end of a line takes away all blanks and ends of lines
that follow; `skipping` says that they are being taken away. -/
def longBasicRest (skipping : Bool) : Parser (List Char)
  | [] => none
  | '"' :: '"' :: '"' :: '"' :: '"' :: cs => some (['"', '"'], cs)
  | '"' :: '"' :: '"' :: '"' :: cs => some (['"'], cs)
  | '"' :: '"' :: '"' :: cs => some ([], cs)
  | '\r' :: '\n' :: cs =>
    if skipping then longBasicRest true cs else prepend '\n' (longBasicRest false cs)
  | '\n' :: cs => if skipping then longBasicRest true cs else prepend '\n' (longBasicRest false cs)
  | '\\' :: 'u' :: a :: b :: c :: d :: cs =>
    (codeChar? [a, b, c, d]).bind fun x => prepend x (longBasicRest false cs)
  | '\\' :: 'U' :: a :: b :: c :: d :: e :: f :: g :: h :: cs =>
    (codeChar? [a, b, c, d, e, f, g, h]).bind fun x => prepend x (longBasicRest false cs)
  | ['\\'] => none
  | '\\' :: c :: cs =>
    if (newline (dropBlanks (c :: cs))).isSome then longBasicRest true (c :: cs)
    else (simpleEscape? c).bind fun x => prepend x (longBasicRest false cs)
  | c :: cs =>
    if skipping && isBlank c then longBasicRest true cs
    else if isPlain c then prepend c (longBasicRest false cs)
    else none

def longLiteralRest : Parser (List Char)
  | [] => none
  | '\'' :: '\'' :: '\'' :: '\'' :: '\'' :: cs => some (['\'', '\''], cs)
  | '\'' :: '\'' :: '\'' :: '\'' :: cs => some (['\''], cs)
  | '\'' :: '\'' :: '\'' :: cs => some ([], cs)
  | '\r' :: '\n' :: cs => prepend '\n' (longLiteralRest cs)
  | '\n' :: cs => prepend '\n' (longLiteralRest cs)
  | c :: cs => if isPlain c then prepend c (longLiteralRest cs) else none

def dropFirstNewline (cs : List Char) : List Char := (newline cs).getD cs

def string : Parser (List Char)
  | '"' :: '"' :: '"' :: cs => longBasicRest false (dropFirstNewline cs)
  | '"' :: cs => basicRest cs
  | '\'' :: '\'' :: '\'' :: cs => longLiteralRest (dropFirstNewline cs)
  | '\'' :: cs => literalRest cs
  | _ => none

def isKeyChar (c : Char) : Bool :=
  ('a' ≤ c && c ≤ 'z') || ('A' ≤ c && c ≤ 'Z') || ('0' ≤ c && c ≤ '9') || c = '-' || c = '_'

def keyPart (cs : List Char) : Option (String × List Char) :=
  match cs with
  | '"' :: cs => (basicRest cs).map fun p => (String.ofList p.1, p.2)
  | '\'' :: cs => (literalRest cs).map fun p => (String.ofList p.1, p.2)
  | cs => match cs.takeWhile isKeyChar with
    | [] => none
    | name => some (String.ofList name, cs.dropWhile isKeyChar)

def keyParts : (fuel : Nat) → Parser (List String)
  | 0, _ => none
  | fuel + 1, cs => do
    let (part, cs) ← keyPart (dropBlanks cs)
    match dropBlanks cs with
    | '.' :: cs => (keyParts fuel cs).map fun p => (part :: p.1, p.2)
    | cs => some ([part], cs)

/-- Reads a key: the path to its table, and its name there. A key has fewer than eighty parts. -/
def key (cs : List Char) : Option ((List String × String) × List Char) := do
  let (parts, cs) ← keyParts 79 cs
  return ((parts.dropLast, ← parts.getLast?), cs)

end MockData.Toml
