set_option autoImplicit false

/-! White space and trimming.  A character is blank when it has the Unicode
property White_Space.  Trimming works on lists of characters and removes the
longest blank run at the chosen end; the `String` forms are wrappers. -/

namespace RemoteQuery.Text

/-- The characters with the Unicode property White_Space. -/
def isBlank (c : Char) : Bool :=
  let n := c.toNat
  (9 ≤ n && n ≤ 13) || n == 0x20 || n == 0x85 || n == 0xA0 || n == 0x1680 ||
    (0x2000 ≤ n && n ≤ 0x200A) || n == 0x2028 || n == 0x2029 || n == 0x202F ||
    n == 0x205F || n == 0x3000

def dropEndWhile (drop : Char → Bool) (text : List Char) : List Char :=
  (text.reverse.dropWhile drop).reverse

def dropAroundWhile (drop : Char → Bool) (text : List Char) : List Char :=
  dropEndWhile drop (text.dropWhile drop)

def trimEnd (text : List Char) : List Char := dropEndWhile isBlank text

def trim (text : List Char) : List Char := dropAroundWhile isBlank text

/-- A text with no character but blank ones, the empty text included. -/
def isBlankText (text : String) : Bool := text.toList.all isBlank

def trimmed (text : String) : String := String.ofList (trim text.toList)

end RemoteQuery.Text
