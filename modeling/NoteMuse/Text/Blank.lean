import NoteMuse.Text.Ranges

/-!
White space, and what is left of a text when the white space around it is taken away.
-/

namespace NoteMuse.Text

/-- The property White_Space, as ranges. -/
def blankRanges : Ranges :=
  [(0x9, 0xD), (0x20, 0x20), (0x85, 0x85), (0xA0, 0xA0), (0x1680, 0x1680), (0x2000, 0x200A),
   (0x2028, 0x2029), (0x202F, 0x202F), (0x205F, 0x205F), (0x3000, 0x3000)]

def isBlank (c : Char) : Bool := blankRanges.has c

def trimLeft (cs : List Char) : List Char := cs.dropWhile isBlank

theorem length_lt_of_trimLeft {cs rest : List Char} {c : Char} (h : trimLeft cs = c :: rest) :
    rest.length < cs.length := by
  have := (List.dropWhile_suffix isBlank (l := cs)).length_le
  simp only [trimLeft] at h
  rw [h] at this
  exact this

def trimRight (cs : List Char) : List Char := (cs.reverse.dropWhile isBlank).reverse

def trim (cs : List Char) : List Char := trimRight (trimLeft cs)

def trimmed (s : String) : String := String.ofList (trim s.toList)

/-- The text is empty or white space only. -/
def isBlankText (s : String) : Bool := s.toList.all isBlank

end NoteMuse.Text
