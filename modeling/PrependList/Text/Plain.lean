import PrependList.Text.Extender
import PrependList.Text.Unassigned

/-!
# Plain characters

A plain character can be seen, and seen apart from its neighbours. Not plain are controls, blanks
other than the space, format characters, characters that are ignored when text is shown, private and
unassigned code points, and the extenders, which merge with what comes before them. In a quoted text
only plain characters stand for themselves.

ASCII is decided by its order alone; the tables are for what lies beyond.
-/

namespace PrependList

/-- The control characters of Unicode: the two blocks of thirty-two, and delete. -/
def isControl (c : Char) : Bool := c.val < 0x20 || (0x7F ≤ c.val && c.val ≤ 0x9F)

/-- Characters that steer how others are laid out and have no form. -/
def formatRanges : List CodeRange :=
  [⟨0xAD, 0xAD⟩, ⟨0x600, 0x605⟩, ⟨0x61C, 0x61C⟩, ⟨0x6DD, 0x6DD⟩, ⟨0x70F, 0x70F⟩, ⟨0x890, 0x891⟩,
   ⟨0x8E2, 0x8E2⟩, ⟨0x180E, 0x180E⟩, ⟨0x200B, 0x200F⟩, ⟨0x202A, 0x202E⟩, ⟨0x2060, 0x2064⟩,
   ⟨0x2066, 0x206F⟩, ⟨0xFEFF, 0xFEFF⟩, ⟨0xFFF9, 0xFFFB⟩, ⟨0x110BD, 0x110BD⟩, ⟨0x110CD, 0x110CD⟩,
   ⟨0x13430, 0x1343F⟩, ⟨0x1BCA0, 0x1BCA3⟩, ⟨0x1D173, 0x1D17A⟩, ⟨0xE0001, 0xE0001⟩,
   ⟨0xE0020, 0xE007F⟩]

/-- Characters and places for characters that are ignored unless they have a known effect: among them
format characters and extenders, but also letters, the fillers for missing parts of Hangul syllables.
They are those with the property `Default_Ignorable_Code_Point`. -/
def ignorableRanges : List CodeRange :=
  [⟨0xAD, 0xAD⟩, ⟨0x34F, 0x34F⟩, ⟨0x61C, 0x61C⟩, ⟨0x115F, 0x1160⟩, ⟨0x17B4, 0x17B5⟩,
   ⟨0x180B, 0x180F⟩, ⟨0x200B, 0x200F⟩, ⟨0x202A, 0x202E⟩, ⟨0x2060, 0x206F⟩, ⟨0x3164, 0x3164⟩,
   ⟨0xFE00, 0xFE0F⟩, ⟨0xFEFF, 0xFEFF⟩, ⟨0xFFA0, 0xFFA0⟩, ⟨0xFFF0, 0xFFF8⟩, ⟨0x1BCA0, 0x1BCA3⟩,
   ⟨0x1D173, 0x1D17A⟩, ⟨0xE0000, 0xE0FFF⟩]

/-- Blanks of all widths beyond ASCII, and the two separators of lines and paragraphs. -/
def blankRanges : List CodeRange :=
  [⟨0xA0, 0xA0⟩, ⟨0x1680, 0x1680⟩, ⟨0x2000, 0x200A⟩, ⟨0x2028, 0x2029⟩, ⟨0x202F, 0x202F⟩,
   ⟨0x205F, 0x205F⟩, ⟨0x3000, 0x3000⟩]

/-- Code points without an agreed meaning. -/
def privateRanges : List CodeRange :=
  [⟨0xE000, 0xF8FF⟩, ⟨0xF0000, 0xFFFFD⟩, ⟨0x100000, 0x10FFFD⟩]

def isPlain (c : Char) : Bool :=
  if c.val < 0x7F then 0x20 ≤ c.val
  else !(isControl c || CodeRange.covers blankRanges c || CodeRange.covers formatRanges c
    || CodeRange.covers ignorableRanges c || CodeRange.covers Extender.ranges c
    || CodeRange.covers privateRanges c || CodeRange.covers Unassigned.ranges c)

theorem isControl_of_isPlain {c : Char} (h : isPlain c = true) : isControl c = false := by
  unfold isPlain at h
  split at h
  · rename_i hlt
    have hge : ¬ c.val < 0x20 := UInt32.not_lt.mpr (of_decide_eq_true h)
    have hlow : ¬ 0x7F ≤ c.val := UInt32.not_le.mpr hlt
    rw [isControl, decide_eq_false hge, decide_eq_false hlow]
    rfl
  · cases hc : isControl c with
    | false => rfl
    | true =>
      rw [hc] at h
      simp only [Bool.true_or, Bool.not_true] at h
      cases h

/-- Of ASCII everything from the space to the tilde is plain, and nothing else. -/
theorem isPlain_of_lt {c : Char} (h : c.val < 0x7F) : isPlain c = decide (0x20 ≤ c.val) := by
  simp [isPlain, h]

end PrependList
