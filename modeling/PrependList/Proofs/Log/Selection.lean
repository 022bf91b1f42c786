import Mathlib.Data.List.Basic
import Mathlib.Data.List.Induction
import PrependList.Log.Logger
import PrependList.Log.Story

/-!
# What a logger keeps

A logger decides about an event when it comes, by what it knows at that moment. A story shows
afterwards what was in force at each of its events. That a logger who follows a story keeps what the
story says it should (`Logger.informed_follow`) is an induction over a story that grows at its end:
the invariant (`Logger.Informed`) is what the logger knows of the story so far, and there is one case
for an event and one for a setting.
-/

namespace PrependList

/-! ## Moments -/

namespace Story

variable {start : Level} {story : Story}

/-- One occurrence more has no part in the moments before it. -/
theorem moments_append_singleton (occurrence : Occurrence) :
    moments start (story ++ [occurrence])
      = moments start story
          ++ (occurrence.event?.map fun event => (event, inForce start story)).toList := by
  rw [moments, List.length_append, List.length_singleton, List.range_succ, List.filterMap_append]
  congr 1
  · refine List.filterMap_congr fun place hplace => ?_
    have hlt : place < story.length := List.mem_range.mp hplace
    rw [List.getElem?_append_left hlt, List.take_append_of_le_length (Nat.le_of_lt hlt)]
  · rw [List.filterMap_cons, List.getElem?_concat_length, List.take_left]
    cases occurrence <;> rfl

theorem moments_append_event (event : Event) :
    moments start (story ++ [.event event]) = moments start story ++ [(event, inForce start story)] :=
  moments_append_singleton (.event event)

theorem moments_append_setting (threshold : Level) :
    moments start (story ++ [.setting threshold]) = moments start story :=
  (moments_append_singleton (.setting threshold)).trans (List.append_nil _)

theorem moments_append_toList (setting : Option Level) :
    moments start (story ++ setting.toList.map .setting) = moments start story := by
  cases setting with
  | none => exact congrArg (moments start) (List.append_nil story)
  | some threshold => exact moments_append_setting threshold

/-- Every event has its moment. -/
theorem map_fst_moments (start : Level) (story : Story) :
    (moments start story).map Prod.fst = events story := by
  induction story using List.reverseRecOn with
  | nil => rfl
  | append_singleton story occurrence ih =>
    rw [events_append, ← ih]
    cases occurrence with
    | event event => rw [moments_append_event, List.map_append]; rfl
    | setting threshold => rw [moments_append_setting]; exact (List.append_nil _).symm

theorem admitted_append_singleton (moments : List (Event × Level)) (event : Event)
    (threshold : Level) :
    admitted (moments ++ [(event, threshold)]) = admitted moments ++ threshold.keep [event] := by
  rw [admitted, List.filter_append, List.map_append]
  congr 1
  by_cases hrank : event.level.rank ≤ threshold.rank <;> simp [Level.keep, Level.admits, hrank]

end Story

namespace Logger

variable {logger : Logger} {start : Level} {others : Nat → Option Level} {story : Story}

/-- The logger comes across what occurs. -/
def notice (logger : Logger) : Occurrence → Logger
  | .event event => logger.hear event
  | .setting threshold => logger.set threshold

/-- The logger comes across all of a story. -/
def follow (logger : Logger) (story : Story) : Logger := story.foldl notice logger

theorem follow_cons (logger : Logger) (occurrence : Occurrence) (story : Story) :
    logger.follow (occurrence :: story) = (logger.notice occurrence).follow story := rfl

theorem follow_append (logger : Logger) (before after : Story) :
    logger.follow (before ++ after) = (logger.follow before).follow after := List.foldl_append

theorem follow_map_event (logger : Logger) (events : List Event) :
    logger.follow (events.map .event) = logger.hearAll events := List.foldl_map

/-! ## What a logger knows -/

/-- The logger, which began with these thresholds, is up to date with the story. -/
structure Informed (logger : Logger) (start : Level) (others : Nat → Option Level) (story : Story) :
    Prop where
  others_eq : logger.others = others
  heard_eq : logger.heard = (Story.events story).length
  threshold_eq : logger.threshold = Story.inForce start (Story.joined others 0 story)
  kept_eq : logger.kept = Story.admitted (Story.moments start (Story.joined others 0 story))

theorem informed_fresh (start : Level) (others : Nat → Option Level) :
    (fresh start others).Informed start others [] := ⟨rfl, rfl, rfl, rfl⟩

theorem Informed.set (h : logger.Informed start others story) (threshold : Level) :
    (logger.set threshold).Informed start others (story ++ [.setting threshold]) := by
  have hjoined : Story.joined others 0 (story ++ [.setting threshold])
      = Story.joined others 0 story ++ [.setting threshold] := Story.joined_append ..
  refine ⟨h.others_eq, ?_, ?_, ?_⟩
  · rw [Story.events_append, Story.events_cons_setting, Story.events_nil, List.append_nil]
    exact h.heard_eq
  · rw [hjoined, Story.inForce_append_setting]
    rfl
  · rw [hjoined, Story.moments_append_setting]
    exact h.kept_eq

/-- What others set just before the event counts for it and for those behind it. -/
theorem Informed.hear (h : logger.Informed start others story) (event : Event) :
    (logger.hear event).Informed start others (story ++ [.event event]) := by
  -- the story up to the event, with what others set before it
  obtain ⟨before, hbefore⟩ : ∃ before : Story,
      before = Story.joined others 0 story ++ (others logger.heard).toList.map .setting := ⟨_, rfl⟩
  have hjoined : Story.joined others 0 (story ++ [.event event]) = before ++ [.event event] := by
    rw [Story.joined_append, Nat.zero_add, ← h.heard_eq, hbefore, List.append_assoc]
    rfl
  have hcurrent : logger.current = Story.inForce start before := by
    rw [hbefore, Story.inForce_append_toList, ← h.threshold_eq, ← h.others_eq, current]
  have hmoments : Story.moments start before
      = Story.moments start (Story.joined others 0 story) := by
    rw [hbefore, Story.moments_append_toList]
  refine ⟨h.others_eq, ?_, ?_, ?_⟩
  · rw [Story.events_append, List.length_append, ← h.heard_eq]
    rfl
  · rw [hjoined, Story.inForce_append_event, ← hcurrent]
    rfl
  · rw [hjoined, Story.moments_append_event, hmoments, ← hcurrent,
      Story.admitted_append_singleton, ← h.kept_eq, kept_hear]

/-- **A logger that follows a story is up to date with it.** -/
theorem informed_follow (start : Level) (others : Nat → Option Level) (story : Story) :
    ((fresh start others).follow story).Informed start others story := by
  induction story using List.reverseRecOn with
  | nil => exact informed_fresh start others
  | append_singleton story occurrence ih =>
    rw [follow_append]
    cases occurrence with
    | event event => exact ih.hear event
    | setting threshold => exact ih.set threshold

/-- The logger kept exactly, in order, those events of all that were admitted when they came. -/
structure Selects (logger : Logger) (moments : List (Event × Level)) (all : List Event) : Prop where
  all : moments.map Prod.fst = all
  kept : logger.kept = Story.admitted moments

theorem selects_follow (start : Level) (others : Nat → Option Level) (story : Story) :
    ((fresh start others).follow story).Selects
      (Story.moments start (Story.joined others 0 story)) (Story.events story) := by
  refine ⟨?_, (informed_follow start others story).kept_eq⟩
  rw [Story.map_fst_moments, Story.events_joined]

/-! ## Everything is kept -/

/-- A logger whose threshold others set to the highest before each event keeps what comes. -/
theorem kept_follow_of_open (story : Story) :
    ∀ {logger : Logger}, (logger.others = fun _ => some .trace) →
      (logger.follow story).kept = logger.kept ++ Story.events story := by
  induction story with
  | nil => intro logger _; exact (List.append_nil _).symm
  | cons occurrence story ih =>
    intro logger h
    cases occurrence with
    | setting threshold =>
      have hset : (logger.set threshold).others = fun _ => some .trace := h
      exact ih hset
    | event event =>
      have hcurrent : logger.current = .trace := by rw [current, h]; rfl
      have hkeep : Level.trace.keep [event] = [event] := by cases event <;> rfl
      have hhear : (logger.hear event).others = fun _ => some .trace := h
      rw [follow_cons, notice, ih hhear, kept_hear, hcurrent, hkeep, Story.events_cons_event,
        List.append_assoc, List.singleton_append]

theorem kept_follow_full (story : Story) : (full.follow story).kept = Story.events story :=
  kept_follow_of_open story rfl

end Logger

end PrependList
