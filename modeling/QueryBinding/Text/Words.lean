import QueryBinding.Text.Letter
import QueryBinding.Text.Case

/-! # Words inside names

Two respellings of a name. `lowerFirst` lowers its first word, where an initialism counts as one
word together with a plural `s`. `upperCamel` cuts a text into words and joins them, each with a
capital at its head. -/

namespace QueryBinding.Text

/-- Whether what follows a run of capitals is a plural `s`, at the end or before a capital. -/
def startsPlural : List Char → Bool
  | 's' :: rest => rest.head?.all isUpper
  | _ => false

/-- How many characters the first word has to lower: none without a leading capital, the whole run
of capitals if the name ends there or a plural follows, and otherwise all but the last capital,
which starts the next word. A single capital is always lowered. -/
def firstWordLength (cs : List Char) : Nat :=
  match cs.takeWhile isUpper, cs.dropWhile isUpper with
  | [], _ => 0
  | [_], _ => 1
  | run, [] => run.length
  | run, rest => if startsPlural rest then run.length else run.length - 1

def lowerFirstChars (cs : List Char) : List Char :=
  (cs.take (firstWordLength cs)).flatMap lowered ++ cs.drop (firstWordLength cs)

/-- A name with its first word in lower case: `AuthorID` gives `authorID`, `IDs` gives `ids`. -/
def lowerFirst (name : String) : String := String.ofList (lowerFirstChars name.toList)

/-- The case of the last cased character since the last word boundary. -/
inductive CaseMode where
  | boundary
  | lower
  | upper
deriving DecidableEq

def CaseMode.after (mode : CaseMode) (c : Char) : CaseMode :=
  if isLower c then .lower else if isUpper c then .upper else mode

def extendFirst (c : Char) : List (List Char) → List (List Char)
  | [] => [[c]]
  | word :: words => (c :: word) :: words

/-- The words of a piece without separators. A word ends after a small letter that a capital
follows, and before a capital that stands between a capital and a small letter. -/
def pieceWords : CaseMode → List Char → List (List Char)
  | _, [] => []
  | _, [c] => [[c]]
  | mode, c :: d :: rest =>
    if mode.after c = .lower ∧ isUpper d then [c] :: pieceWords .boundary (d :: rest)
    else if mode = .upper ∧ isUpper c ∧ isLower d then
      [] :: extendFirst c (pieceWords .boundary (d :: rest))
    else extendFirst c (pieceWords (mode.after c) (d :: rest))

def pieces : List Char → List (List Char)
  | [] => [[]]
  | c :: rest => if isAlphanumeric c then extendFirst c (pieces rest) else [] :: pieces rest

def words (cs : List Char) : List (List Char) := (pieces cs).flatMap (pieceWords .boundary)

/-- The tail of a word in lower case. A sigma that ends the word takes its final form. -/
def lowerTail : List Char → List Char
  | [] => []
  | ['Σ'] => ['ς']
  | c :: rest => lowered c ++ lowerTail rest

def capitalized : List Char → List Char
  | [] => []
  | c :: rest => raised c ++ lowerTail rest

/-- A text as one name in upper camel case: `author_id` gives `AuthorId`. -/
def upperCamel (text : String) : String :=
  String.ofList ((words text.toList).flatMap capitalized)

end QueryBinding.Text
