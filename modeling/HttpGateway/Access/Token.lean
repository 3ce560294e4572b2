import HttpGateway.Text.Blank

/-!
# The tokens of a claim

A claim may hold several values in one text. Its tokens are the pieces between commas and white
space, without quotation marks at their ends. A claim of roles may also be the text of an array,
whose brackets and quotation marks do not count.
-/

namespace HttpGateway.Access

/-- Whether a character parts tokens: a comma or white space. -/
def isSeparator (c : Char) : Bool := c == ',' || Text.isBlank c

/-- Whether a character is a quotation mark of either kind. -/
def isQuote (c : Char) : Bool := c == '"' || c == '\''

/-- Whether a character falls away at the ends of a token. -/
def isTokenEdge (c : Char) : Bool := isQuote c || Text.isBlank c

/-- Whether a character belongs to the writing of an array: a bracket or a quotation mark. -/
def isArrayMark (c : Char) : Bool := c == '[' || c == ']' || isQuote c

/-- The tokens of a list of characters. -/
def tokenChars (raw : List Char) : List (List Char) :=
  ((raw.splitOnP isSeparator).map (Text.strip isTokenEdge)).filter (!·.isEmpty)

/-- The tokens of a claim. -/
def claimTokens (raw : String) : List String := (tokenChars raw.toList).map String.ofList

/-- The tokens of a claim of roles, as lists of characters. -/
def roleTokenChars (raw : List Char) : List (List Char) :=
  let trimmed := Text.strip Text.isBlank raw
  tokenChars (if trimmed.head? == some '[' then trimmed.filter (!isArrayMark ·) else trimmed)

/-- The tokens of a claim of roles. -/
def roleTokens (raw : String) : List String := (roleTokenChars raw.toList).map String.ofList

end HttpGateway.Access
