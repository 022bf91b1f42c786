import PrependList.Log.Event

/-!
# Stories

All that matters to a log, in the order in which it comes: events, and between them settings of the
threshold. Which threshold is in force at a moment is a question about what was set before it
(`Story.inForce`), so a story says what a log should keep, and nobody needs to keep one for that.
-/

namespace PrependList

inductive Occurrence where
  | event (event : Event)
  /-- The threshold is set. -/
  | setting (threshold : Level)
  deriving DecidableEq, Repr

namespace Occurrence

def event? : Occurrence → Option Event
  | .event told => some told
  | .setting _ => none

def setting? : Occurrence → Option Level
  | .event _ => none
  | .setting threshold => some threshold

end Occurrence

abbrev Story := List Occurrence

namespace Story

/-- The events, in order. -/
def events (story : Story) : List Event := story.filterMap Occurrence.event?

/-- The threshold after the story: the one that was set last, or the one from the start. -/
def inForce (start : Level) (story : Story) : Level :=
  (story.filterMap Occurrence.setting?).getLast?.getD start

/-- Each event with the threshold that is in force when it comes. -/
def moments (start : Level) (story : Story) : List (Event × Level) :=
  (List.range story.length).filterMap fun place =>
    (story[place]?.bind Occurrence.event?).map fun event => (event, inForce start (story.take place))

/-- What a log should keep of events that come with these thresholds in force: those whose rank is not
above the threshold's. -/
def admitted (moments : List (Event × Level)) : List Event :=
  (moments.filter fun moment => moment.1.level.rank ≤ moment.2.rank).map Prod.fst

/-- The story in which others set the threshold as well, each time just before an event, of which
they know the number. The events of the story are counted from `number`. -/
def joined (others : Nat → Option Level) (number : Nat) : Story → Story
  | [] => []
  | .setting threshold :: story => .setting threshold :: joined others number story
  | .event event :: story =>
    (others number).toList.map .setting ++ .event event :: joined others (number + 1) story

@[simp] theorem events_nil : events [] = [] := rfl

@[simp] theorem events_cons_event (event : Event) (story : Story) :
    events (.event event :: story) = event :: events story := rfl

@[simp] theorem events_cons_setting (threshold : Level) (story : Story) :
    events (.setting threshold :: story) = events story := rfl

@[simp] theorem events_append (before after : Story) :
    events (before ++ after) = events before ++ events after := List.filterMap_append

@[simp] theorem events_map_event (told : List Event) : events (told.map .event) = told := by
  induction told with
  | nil => rfl
  | cons event told ih => rw [List.map_cons, events_cons_event, ih]

@[simp] theorem events_map_setting (settings : List Level) : events (settings.map .setting) = [] := by
  induction settings with
  | nil => rfl
  | cons threshold settings ih => rw [List.map_cons, events_cons_setting, ih]

theorem inForce_append_event (start : Level) (story : Story) (event : Event) :
    inForce start (story ++ [.event event]) = inForce start story := by
  simp [inForce, Occurrence.setting?]

theorem inForce_append_setting (start : Level) (story : Story) (threshold : Level) :
    inForce start (story ++ [.setting threshold]) = threshold := by
  simp [inForce, Occurrence.setting?]

/-- If nothing is set, what was in force stays in force. -/
theorem inForce_append_toList (start : Level) (story : Story) (setting : Option Level) :
    inForce start (story ++ setting.toList.map .setting) = setting.getD (inForce start story) := by
  cases setting with
  | none => exact congrArg (inForce start) (List.append_nil story)
  | some threshold => exact inForce_append_setting start story threshold

theorem joined_append (others : Nat → Option Level) (before after : Story) :
    ∀ number, joined others number (before ++ after)
      = joined others number before ++ joined others (number + (events before).length) after := by
  induction before with
  | nil => intro number; rfl
  | cons occurrence before ih =>
    intro number
    cases occurrence with
    | setting threshold =>
      rw [List.cons_append, joined, joined, ih, List.cons_append, events_cons_setting]
    | event event =>
      rw [List.cons_append, joined, joined, ih, List.append_assoc, List.cons_append,
        events_cons_event, List.length_cons, Nat.add_assoc, Nat.add_comm 1]

/-- Others add no event and take none away. -/
@[simp] theorem events_joined (others : Nat → Option Level) (story : Story) :
    ∀ number, events (joined others number story) = events story := by
  induction story with
  | nil => intro number; rfl
  | cons occurrence story ih =>
    intro number
    cases occurrence with
    | setting threshold => rw [joined, events_cons_setting, events_cons_setting, ih]
    | event event =>
      rw [joined, events_append, events_map_setting, events_cons_event, events_cons_event, ih,
        List.nil_append]

end Story

end PrependList
