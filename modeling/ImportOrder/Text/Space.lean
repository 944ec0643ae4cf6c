/-!
# White space

White space is trimmed from the ends of texts. It comprises more than blanks and line
breaks: some spaces of other widths, and the separators of lines and paragraphs.
-/

namespace ImportOrder

/-- Any white space. -/
def isSpace (c : Char) : Bool :=
  let n := c.toNat
  (0x09 ≤ n && n ≤ 0x0D) || n == 0x20 || n == 0x85 || n == 0xA0 || n == 0x1680 ||
    (0x2000 ≤ n && n ≤ 0x200A) || n == 0x2028 || n == 0x2029 || n == 0x202F ||
      n == 0x205F || n == 0x3000

/-- A text without the white space at its end. -/
def trimmedEnd (cs : List Char) : List Char := (cs.reverse.dropWhile isSpace).reverse

/-- A text without the white space at its ends. -/
def trimmed (cs : List Char) : List Char := trimmedEnd (cs.dropWhile isSpace)

/-- A text that ends visibly loses just what comes after it. -/
theorem trimmedEnd_append {c : Char} (hc : isSpace c = false) (cs : List Char) {spaces : List Char}
    (h : spaces.all isSpace = true) : trimmedEnd (cs ++ [c] ++ spaces) = cs ++ [c] := by
  have hdrop : (spaces.reverse ++ c :: cs.reverse).dropWhile isSpace = c :: cs.reverse := by
    rw [List.dropWhile_append_of_pos (by simpa using h), List.dropWhile_cons_of_neg (by simp [hc])]
  have hreverse : (cs ++ [c] ++ spaces).reverse = spaces.reverse ++ c :: cs.reverse := by simp
  rw [trimmedEnd, hreverse, hdrop]
  simp

end ImportOrder
