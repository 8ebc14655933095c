/-!
# Blank characters

Two classes of characters separate words. *Space* is the Unicode property `White_Space`; *blank*
is space or a control character (category `Cc`). Trimming and squeezing act on character lists;
the functions on `String` are the same with a conversion at both ends.
-/

namespace SqlTriage.Text

/-! ## Classes -/

/-- The code points of the property `White_Space`, as closed ranges in ascending order. -/
def spaceRanges : List (Nat × Nat) :=
  [(0x09, 0x0D), (0x20, 0x20), (0x85, 0x85), (0xA0, 0xA0), (0x1680, 0x1680), (0x2000, 0x200A),
   (0x2028, 0x2029), (0x202F, 0x202F), (0x205F, 0x205F), (0x3000, 0x3000)]

/-- A character with the property `White_Space`. -/
def isSpace (c : Char) : Bool :=
  spaceRanges.any fun r => r.1 ≤ c.toNat && c.toNat ≤ r.2

/-- A control character: the code points below U+0020 and those from U+007F to U+009F. -/
def isControl (c : Char) : Bool :=
  c.toNat < 0x20 || (0x7F ≤ c.toNat && c.toNat ≤ 0x9F)

/-- A character that separates tokens: white space or control. -/
def isBlank (c : Char) : Bool :=
  isSpace c || isControl c

/-- A character that ends a line comment. -/
def isLineEnd (c : Char) : Bool :=
  c == '\n' || c == '\r'

/-! ## Trimming -/

/-- Drops the characters that satisfy `p` from both ends. -/
def trim (p : Char → Bool) (s : List Char) : List Char :=
  ((s.dropWhile p).reverse.dropWhile p).reverse

/-- The text without white space at its ends. -/
def trimSpace (s : String) : String :=
  String.ofList (trim isSpace s.toList)

/-! ## Words -/

/-- The maximal runs of characters other than white space. -/
def words (s : List Char) : List (List Char) :=
  (s.splitOnP isSpace).filter fun w => !w.isEmpty

/-- The text on one line: its words with one space between neighbours. -/
def singleLine (s : String) : String :=
  String.ofList ([' '].intercalate (words s.toList))

end SqlTriage.Text
