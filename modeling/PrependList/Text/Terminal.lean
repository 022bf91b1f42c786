/-!
# Text without what a terminal would obey

Control characters do not show on a terminal, they act on it, and the escape character begins a
sequence that acts as a whole. `shown` is the text without both. Tabs, line ends and form feeds only
lay text out and stay.

An escape begins a sequence anywhere, also inside another one, and cancel and substitute end one
anywhere. How else a sequence ends depends on the character after the escape. The kinds agree with
the terminal standards except in one respect: layout inside a short sequence is not held back until
the end but shown at once, and suspends the sequence. From there on text is shown, until a control
character takes the sequence up again or a character beyond ASCII makes it forgotten.

Two laws fix what `shown` may do: nothing that acts is left (`isVisible_of_mem_shown`), and a text
without such characters is left alone (`shown_eq_self`).
-/

namespace PrependList.Terminal

/-- Begins a sequence. -/
def isEscape (c : Char) : Bool := c = '\x1b'

/-- Ends any sequence. -/
def isCancel (c : Char) : Bool := c = '\x18' || c = '\x1a'

/-- The control characters that only lay out text: tab, line feed, form feed and carriage return. -/
def isLayout (c : Char) : Bool := c = '\t' || c = '\n' || c = '\x0c' || c = '\r'

/-- Whether the character shows where no sequence is open. Only ASCII controls do not. -/
def isVisible (c : Char) : Bool := isLayout c || (0x20 ≤ c.val && c ≠ '\x7f')

/-- Whether the character lies in a part of ASCII, given by its ends. -/
def isBetween (first last : Char) (c : Char) : Bool := first ≤ c && c ≤ last

/-- How far an open sequence has come. -/
inductive Sequence where
  /-- Right after the escape. -/
  | escape
  /-- A short sequence that waits for its last character. -/
  | short
  /-- A control sequence: parameters, then a letter that says what to do. -/
  | control
  /-- A command to the terminal's system: everything up to a bell. -/
  | command
  /-- The head of a control string for the device, with nothing in it yet. -/
  | deviceHead
  /-- In the parameters of such a head. -/
  | deviceParameters
  /-- Behind the parameters of such a head. -/
  | deviceTail
  /-- The body of a control string: everything up to a terminator. -/
  | string
  deriving DecidableEq, Repr

/-- Where in a text one stands. -/
inductive State where
  | text
  | inside (sequence : Sequence)
  /-- Layout in the sequence has brought text back. -/
  | suspended (sequence : Sequence)
  deriving DecidableEq, Repr

/-- The terminator of a control string is a byte, and counts also as a part of a character. -/
def holdsTerminator (c : Char) : Bool := (String.utf8EncodeChar c).contains 0x9C

namespace Sequence

/-- Whether layout inside the sequence shows. -/
def showsLayout : Sequence → Bool
  | escape | short | control => true
  | command | deviceHead | deviceParameters | deviceTail | string => false

/-- What the character after an escape opens; it can also be the whole sequence. -/
def opened (c : Char) : State :=
  if isBetween ' ' '/' c then .inside short
  else if c = '[' then .inside control
  else if c = ']' then .inside command
  else if c = 'P' then .inside deviceHead
  else if c = 'X' || c = '^' || c = '_' then .inside string
  else if isBetween '0' '~' c then .text
  else .inside escape

/-- Reads on, past a character that is neither an escape nor a cancel. -/
def next (sequence : Sequence) (c : Char) : State :=
  match sequence with
  | escape => opened c
  | short => if isBetween '0' '~' c then .text else .inside short
  | control => if isBetween '@' '~' c then .text else .inside control
  | command => if c = '\x07' then .text else .inside command
  | deviceHead =>
    if isBetween ' ' '/' c then .inside deviceTail
    else if isBetween '0' '?' c then .inside deviceParameters
    else if isBetween '@' '~' c then .inside string
    else .inside deviceHead
  | deviceParameters =>
    if isBetween ' ' '/' c then .inside deviceTail
    else if isBetween '<' '~' c then .inside string
    else .inside deviceParameters
  | deviceTail => if isBetween '0' '~' c then .inside string else .inside deviceTail
  | string => if holdsTerminator c then .text else .inside string

end Sequence

/-- Whether the character is shown, and where one stands behind it. -/
def State.step (state : State) (c : Char) : Bool × State :=
  if isEscape c then (false, .inside .escape)
  else if isCancel c then (false, .text)
  else
    match state with
    | .text => (isVisible c, .text)
    | .inside sequence =>
      if sequence.showsLayout && isLayout c then (true, .suspended sequence)
      else (false, sequence.next c)
    | .suspended sequence =>
      if !isVisible c then (false, .inside sequence)
      else if c.val < 0x80 then (true, .suspended sequence)
      else (true, .text)

/-- What is shown of a text that one enters in the given state. -/
def shownFrom : State → List Char → List Char
  | _, [] => []
  | state, c :: cs =>
    match state.step c with
    | (true, next) => c :: shownFrom next cs
    | (false, next) => shownFrom next cs

/-- What is shown of a text. -/
def shown (cs : List Char) : List Char := shownFrom .text cs

theorem isVisible_of_step {state next : State} {c : Char} (h : state.step c = (true, next)) :
    isVisible c = true := by
  unfold State.step at h
  split at h
  · simp at h
  split at h
  · simp at h
  split at h
  · simp_all
  · split at h
    · simp_all [isVisible]
    · simp at h
  · split at h
    · simp at h
    · simp_all

theorem isVisible_of_mem_shownFrom {c : Char} (cs : List Char) :
    ∀ state, c ∈ shownFrom state cs → isVisible c = true := by
  induction cs with
  | nil => intro state h; simp [shownFrom] at h
  | cons d cs ih =>
    intro state h
    simp only [shownFrom] at h
    split at h
    · rename_i next hstep
      rcases List.mem_cons.1 h with rfl | h
      · exact isVisible_of_step hstep
      · exact ih next h
    · exact ih _ h

/-- Nothing is left that a terminal would obey. -/
theorem isVisible_of_mem_shown {c : Char} {cs : List Char} (h : c ∈ shown cs) :
    isVisible c = true :=
  isVisible_of_mem_shownFrom cs .text h

theorem step_text_of_isVisible {c : Char} (h : isVisible c = true) :
    State.step .text c = (true, .text) := by
  have hescape : isEscape c = false := by
    cases he : isEscape c
    · rfl
    · obtain rfl : c = '\x1b' := by simpa [isEscape] using he
      simp [isVisible, isLayout] at h
  have hcancel : isCancel c = false := by
    cases hc : isCancel c
    · rfl
    · obtain rfl | rfl : c = '\x18' ∨ c = '\x1a' := by simpa [isCancel] using hc
      · simp [isVisible, isLayout] at h
      · simp [isVisible, isLayout] at h
  simp [State.step, hescape, hcancel, h]

/-- A text without control characters, layout apart, is shown as it is. -/
theorem shown_eq_self {cs : List Char} (h : ∀ c ∈ cs, isVisible c = true) : shown cs = cs := by
  induction cs with
  | nil => rfl
  | cons c cs ih =>
    rw [List.forall_mem_cons] at h
    simp only [shown, shownFrom, step_text_of_isVisible h.1] at ih ⊢
    rw [ih h.2]

theorem shown_shown (cs : List Char) : shown (shown cs) = shown cs :=
  shown_eq_self fun _ h => isVisible_of_mem_shown h

end PrependList.Terminal
