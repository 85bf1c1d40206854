import QueryBinding.Text.Hex
import QueryBinding.Text.Prefix

/-! # String literals of Go

The spelling of texts as interpreted string literals and of lists of texts as slice literals, and
beside it a reader by Go's rules for both. The reader knows the escapes of one character and
hexadecimal escapes below 80; it accepts any spelling of a character and any blanks between the
tokens of a list, not only the written ones. -/

namespace QueryBinding.Go

def literalChar (c : Char) : List Char :=
  if c = '"' then ['\\', '"']
  else if c = '\\' then ['\\', '\\']
  else if c = '\n' then ['\\', 'n']
  else if c = '\r' then ['\\', 'r']
  else if c = '\t' then ['\\', 't']
  else if c = '\x07' then ['\\', 'a']
  else if c = '\x08' then ['\\', 'b']
  else if c = '\x0b' then ['\\', 'v']
  else if c = '\x0c' then ['\\', 'f']
  else if c.toNat < 0x20 ∨ c = '\x7f' then '\\' :: 'x' :: Text.hexByte c.toNat
  else [c]

def literalChars (text : List Char) : List Char := '"' :: text.flatMap literalChar ++ ['"']

/-- An interpreted string literal that denotes the text. -/
def literal (text : String) : String := String.ofList (literalChars text.toList)

def stringSlice (texts : List String) : String :=
  "[]string\x7b" ++ ", ".intercalate (texts.map literal) ++ "\x7d"

def escapeValue? : Char → Option Char
  | 'a' => some '\x07'
  | 'b' => some '\x08'
  | 'f' => some '\x0c'
  | 'n' => some '\n'
  | 'r' => some '\r'
  | 't' => some '\t'
  | 'v' => some '\x0b'
  | '\\' => some '\\'
  | '"' => some '"'
  | _ => none

/-- The character of a hexadecimal escape. A byte from 80 on is no character by itself. -/
def hexEscapeValue? (high low : Char) : Option Char := do
  let n := 16 * (← Text.hexDigit? high) + (← Text.hexDigit? low)
  if n < 0x80 then some (Char.ofNat n) else none

/-- Reads a literal behind its opening quote; answers its text and what follows the closing quote.
A line break inside a literal is refused. -/
def readLiteralBody : List Char → Option (List Char × List Char)
  | [] => none
  | '"' :: rest => some ([], rest)
  | '\\' :: 'x' :: high :: low :: rest => do
    let c ← hexEscapeValue? high low
    let (text, rest) ← readLiteralBody rest
    some (c :: text, rest)
  | '\\' :: letter :: rest => do
    let c ← escapeValue? letter
    let (text, rest) ← readLiteralBody rest
    some (c :: text, rest)
  | c :: rest =>
    if c = '\\' ∨ c = '\n' then none
    else do
      let (text, rest) ← readLiteralBody rest
      some (c :: text, rest)

/-- Whether a character between the tokens of a slice literal is skipped. A line break is one only
where a comma or the opening brace stands before it; behind an element it ends the statement. -/
def isBlank (afterElement : Bool) (c : Char) : Bool :=
  c = ' ' || c = '\t' || c = '\r' || (!afterElement && c = '\n')

/-- Reads the elements of a slice literal behind its opening brace or a comma, and the closing brace,
which a comma may stand before. The fuel bounds the number of elements. -/
def readElements : Nat → List Char → Option (List (List Char))
  | 0, _ => none
  | fuel + 1, cs =>
    match cs.dropWhile (isBlank false) with
    | ['\x7d'] => some []
    | '"' :: rest => do
      let (text, rest) ← readLiteralBody rest
      match rest.dropWhile (isBlank true) with
      | ['\x7d'] => some [text]
      | ',' :: rest => do
        let texts ← readElements fuel rest
        some (text :: texts)
      | _ => none
    | _ => none

def readStringSlice (source : String) : Option (List String) := do
  let rest ← Text.dropPrefix? "[]string\x7b".toList source.toList
  let texts ← readElements rest.length rest
  some (texts.map String.ofList)

end QueryBinding.Go
