/-!
# DocAnalytics.Unicode.Blank

The Unicode property `White_Space`, which decides what trimming removes and where a text splits into
words.
-/

namespace DocAnalytics
namespace Unicode

/-- The code points with the property `White_Space`. The byte order mark, the zero-width space and
the information separators U+001C to U+001F are not among them. -/
def isBlank (c : Char) : Bool :=
  let n := c.toNat
  (9 ≤ n && n ≤ 13) || n == 0x20 || n == 0x85 || n == 0xA0 || n == 0x1680 ||
    (0x2000 ≤ n && n ≤ 0x200A) || n == 0x2028 || n == 0x2029 || n == 0x202F || n == 0x205F ||
    n == 0x3000

end Unicode
end DocAnalytics
