/-!
# Braces

A brace in the text of a literal would begin an expression. Texts with braces are put
together from these instead.
-/

namespace ImportOrder

/-- The brace that opens. -/
def openBrace : String := "\x7b"

/-- The brace that closes. -/
def closeBrace : String := "\x7d"

/-- A text between braces. -/
def braced (text : String) : String := openBrace ++ text ++ closeBrace

end ImportOrder
