/-!
Tokens of the text format: brackets, words and strings, with blanks and comments dropped. An identifier
may be written as a string after its sign, and is then the same word as without the quotes. The lexer
is a machine that looks at one character at a time.
-/

namespace WasmTree.Text

inductive Token where
  | left
  | right
  | word (w : String)
  | string (bytes : List UInt8)

/-- What has been read between quotes: the bytes, last first, and whether they make an identifier. -/
structure Quotation where
  identifier : Bool
  bytes : List UInt8

/-- Where the lexer stands: between tokens, after a bracket that may open a comment, after a semicolon
that must open one, inside a comment, inside a word whose characters come last first, or inside quotes
and there perhaps inside an escape. -/
inductive LexMode where
  | blank
  | bracket
  | semicolon
  | line
  | comment (depth : Nat) (last : Char)
  | word (chars : List Char)
  | string (q : Quotation)
  | escape (q : Quotation)
  | byteEscape (q : Quotation) (high : Nat)
  | charEscape (q : Quotation) (number : Option (List Char))
  | closed

structure Lexer where
  mode : LexMode
  tokens : Array Token

namespace Quotation

def push (q : Quotation) (c : Char) : Quotation :=
  { q with bytes := c.toString.toUTF8.toList.reverse ++ q.bytes }

def pushByte (q : Quotation) (b : UInt8) : Quotation := { q with bytes := b :: q.bytes }

/-- An identifier is text and not empty. -/
def token? (q : Quotation) : Option Token :=
  if q.identifier then
    ((String.fromUTF8? ⟨q.bytes.reverse.toArray⟩).filter (· ≠ "")).map fun s => .word ("$" ++ s)
  else some (.string q.bytes.reverse)

end Quotation

namespace Lexer

def start : Lexer := ⟨.blank, #[]⟩

def isBlank (c : Char) : Bool := c == ' ' || c == '\t' || c == '\n' || c == '\r'

def isWordChar (c : Char) : Bool :=
  c.isAlphanum || "!#$%&'*+-./:<=>?@\\^_`|~".toList.contains c

def hexDigit? (c : Char) : Option Nat :=
  if c.isDigit then some (c.toNat - '0'.toNat)
  else if 'a' ≤ c ∧ c ≤ 'f' then some (c.toNat - 'a'.toNat + 10)
  else if 'A' ≤ c ∧ c ≤ 'F' then some (c.toNat - 'A'.toNat + 10)
  else none

/-- Characters that make text look other than it is, by a change of direction or of shapes. -/
def isMisleading (c : Char) : Bool :=
  [0x202A, 0x202B, 0x202D, 0x202E, 0x2066, 0x2067, 0x2068, 0x2069, 0x206C].contains c.toNat

def emit (l : Lexer) (t : Token) : Lexer := ⟨.blank, l.tokens.push t⟩

def plainEscape? : Char → Option Char
  | 't' => some '\t'
  | 'n' => some '\n'
  | 'r' => some '\r'
  | '"' => some '"'
  | '\'' => some '\''
  | '\\' => some '\\'
  | _ => none

/-- A character between tokens. -/
def betweenStep (l : Lexer) (c : Char) : Option Lexer :=
  if isBlank c then some { l with mode := .blank }
  else if c == '(' then some { l with mode := .bracket }
  else if c == ')' then some (l.emit .right)
  else if c == ';' then some { l with mode := .semicolon }
  else if c == '"' then some { l with mode := .string ⟨false, []⟩ }
  else if isWordChar c then some { l with mode := .word [c] }
  else none

def escapeStep (l : Lexer) (q : Quotation) (c : Char) : Option Lexer :=
  match plainEscape? c with
  | some e => some { l with mode := .string (q.push e) }
  | none =>
    if c == 'u' then some { l with mode := .charEscape q none }
    else (hexDigit? c).map fun d => { l with mode := .byteEscape q d }

/-- The character of a hexadecimal number. Underscores may stand anywhere but at the ends. -/
def charNumbered? (number : List Char) : Option Char :=
  if number.head? == some '_' || number.getLast? == some '_' then none
  else match (number.filter (· != '_')).mapM hexDigit? with
  | none | some [] => none
  | some digits =>
    let code := digits.foldl (fun v d => min (16 * v + d) 0x110000) 0
    if code.isValidChar then some (Char.ofNat code) else none

/-- Between braces stands the number of a character, whose digits come last first. -/
def charEscapeStep (l : Lexer) (q : Quotation) (number : Option (List Char)) (c : Char) : Option Lexer :=
  match number with
  | none => if c == '\x7b' then some { l with mode := .charEscape q (some []) } else none
  | some cs =>
    if c == '\x7d' then (charNumbered? cs.reverse).map fun e => { l with mode := .string (q.push e) }
    else some { l with mode := .charEscape q (some (c :: cs)) }

def commentStep (l : Lexer) (depth : Nat) (last c : Char) : Lexer :=
  if last == '(' && c == ';' then { l with mode := .comment (depth + 1) ' ' }
  else if last == ';' && c == ')' then
    { l with mode := if depth ≤ 1 then .blank else .comment (depth - 1) ' ' }
  else { l with mode := .comment depth c }

def step (l : Lexer) (c : Char) : Option Lexer :=
  match l.mode with
  | .blank => l.betweenStep c
  | .bracket =>
    if c == ';' then some { l with mode := .comment 1 ' ' } else (l.emit .left).betweenStep c
  | .semicolon => if c == ';' then some { l with mode := .line } else none
  | .line =>
    if isMisleading c then none
    else some (if c == '\n' || c == '\r' then { l with mode := .blank } else l)
  | .comment depth last => if isMisleading c then none else some (l.commentStep depth last c)
  | .word chars =>
    if isWordChar c then some { l with mode := .word (c :: chars) }
    else if c == '"' then if chars == ['$'] then some { l with mode := .string ⟨true, []⟩ } else none
    else (l.emit (.word (String.ofList chars.reverse))).betweenStep c
  | .string q =>
    if c == '"' then q.token?.map fun t => ⟨.closed, l.tokens.push t⟩
    else if c == '\\' then some { l with mode := .escape q }
    else if c.toNat < 32 || c.toNat == 127 || isMisleading c then none
    else some { l with mode := .string (q.push c) }
  | .escape q => l.escapeStep q c
  | .byteEscape q high =>
    (hexDigit? c).map fun d => { l with mode := .string (q.pushByte (UInt8.ofNat (16 * high + d))) }
  | .charEscape q number => l.charEscapeStep q number c
  | .closed => if isWordChar c || c == '"' then none else l.betweenStep c

def finish (l : Lexer) : Option (List Token) :=
  match l.mode with
  | .blank | .line | .closed => some l.tokens.toList
  | .bracket => some (l.emit .left).tokens.toList
  | .word chars => some (l.emit (.word (String.ofList chars.reverse))).tokens.toList
  | _ => none

end Lexer

def tokens? (s : String) : Option (List Token) := (s.toList.foldlM Lexer.step .start).bind Lexer.finish

end WasmTree.Text
