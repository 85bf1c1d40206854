import QueryBinding.Text.LetterTable

/-! # Letters

Three questions about one character: whether it belongs to a word, and whether it is a capital or a
small letter. A character may be a letter and neither capital nor small. -/

namespace QueryBinding.Text

/-- Whether the character is a letter or a number of any script. -/
def isAlphanumeric (c : Char) : Bool := listed alphanumericRuns c

def isUpper (c : Char) : Bool := listed upperRuns c

def isLower (c : Char) : Bool := listed lowerRuns c

end QueryBinding.Text
