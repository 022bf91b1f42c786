import PrependList.Proofs.Session.Logging
import PrependList.Session.Course

/-!
# Every run is a course

Whatever a client does, its run is a course of deeds: the answers and the slots in its history are
those of the course, and so are the memory and the events at the end. What holds after every course
therefore holds at every moment of every run, in the middle of walks as well.
-/

namespace PrependList

variable {α : Type} [Allocator α] {n : Nat} {β γ : Type}

/-- The course leads from here to where the trace ends, and adds its outcomes to the history. -/
structure Moment.Leads (here : Moment α n) (deeds : List (Deed n))
    (history : List (Answer × Slots n)) (trace : Trace α (β × Standing n)) : Prop where
  last : here.after deeds
    = ⟨trace.value.2.slots, trace.memory, here.events ++ trace.events⟩
  history : trace.value.2.history = (here.outcomes deeds).reverse ++ history

namespace Moment

variable {here : Moment α n} {first second : List (Deed n)} {earlier : List (Answer × Slots n)}
  {trace : Trace α (β × Standing n)} {rest : Trace α (γ × Standing n)}

/-- One course after another. -/
theorem Leads.append (h : here.Leads first earlier trace)
    (hrest : (here.after first).Leads second trace.value.2.history rest) :
    here.Leads (first ++ second) earlier (rest.after trace.events) := by
  have hevents : (here.after first).events = here.events ++ trace.events := by rw [h.last]
  refine ⟨?_, ?_⟩
  · rw [after_append, hrest.last, hevents, List.append_assoc]
    rfl
  · show rest.value.2.history = _
    rw [hrest.history, h.history, outcomes_append, List.reverse_append, List.append_assoc]

/-- A deed that only says something. -/
theorem leads_visit (here : Moment α n) (value : Int32) (state : β) :
    here.Leads [.visit value] earlier
      ⟨(state, ⟨here.slots, earlier⟩), here.memory, [.visiting value]⟩ := ⟨rfl, rfl⟩

theorem leads_announce (here : Moment α n) (length : Nat) (state : β) :
    here.Leads [.announce length] earlier
      ⟨(state, ⟨here.slots, earlier⟩), here.memory, [.traversing length]⟩ := ⟨rfl, rfl⟩

theorem leads_call (here : Moment α n) (request : Call n) (earlier : List (Answer × Slots n)) :
    let trace := (request.perform here.slots).run here.memory
    here.Leads [.call request] earlier
      ⟨(trace.value.1, Standing.note ⟨here.slots, earlier⟩ trace.value), trace.memory,
        trace.events⟩ := by
  refine ⟨?_, rfl⟩
  show Moment.mk _ _ (here.events ++ (_ ++ [])) = _
  rw [List.append_nil]
  rfl

end Moment

/-! ## Walks and clients -/

namespace Client

theorem exists_course_walk {visit : γ → Int32 → Client n γ}
    (hvisit : ∀ (state : γ) (value : Int32) (here : Moment α n)
      (history : List (Answer × Slots n)), ∃ deeds, here.Leads deeds history
        (((visit state value).run ⟨here.slots, history⟩).run here.memory))
    (values : List Int32) :
    ∀ (state : γ) (here : Moment α n) (history : List (Answer × Slots n)),
      ∃ deeds, here.Leads deeds history
        ((Chain.walk (fun (sofar : γ × Standing n) value => (visit sofar.1 value).run sofar.2)
          (state, ⟨here.slots, history⟩) values).run here.memory) := by
  induction values with
  | nil =>
    intro state here history
    exact ⟨[], ⟨by rw [Chain.run_walk_nil, List.append_nil]; rfl, rfl⟩⟩
  | cons value values ih =>
    intro state here history
    -- the value is announced, then the visitor makes its calls, and then the walk goes on
    obtain ⟨called, hcalled⟩ := hvisit state value (here.after [.visit value]) history
    have hfirst := (here.leads_visit value state).append hcalled
    obtain ⟨others, hothers⟩ := ih
      (((visit state value).run ⟨here.slots, history⟩).run here.memory).value.1
      (here.after ([.visit value] ++ called))
      (((visit state value).run ⟨here.slots, history⟩).run here.memory).value.2.history
    have hboth := hfirst.append hothers
    rw [hfirst.last] at hboth
    exact ⟨[.visit value] ++ called ++ others, hboth⟩

theorem exists_course_walkChain {visit : γ → Int32 → Client n γ}
    (hvisit : ∀ (state : γ) (value : Int32) (here : Moment α n)
      (history : List (Answer × Slots n)), ∃ deeds, here.Leads deeds history
        (((visit state value).run ⟨here.slots, history⟩).run here.memory))
    (checked : Bool) (chain : Chain) (start : γ) (here : Moment α n)
    (history : List (Answer × Slots n)) :
    ∃ last deeds, here.Leads deeds history last
      ∧ (walkChain checked chain
            (fun (sofar : γ × Standing n) value => (visit sofar.1 value).run sofar.2)
            (start, ⟨here.slots, history⟩)).run here.memory
          = ⟨.ok last.value, last.memory, last.events⟩ := by
  cases checked with
  | false =>
    obtain ⟨deeds, hdeeds⟩ := exists_course_walk hvisit chain.nodes start here history
    exact ⟨_, deeds, hdeeds, run_walkChain false chain _ _ _⟩
  | true =>
    obtain ⟨deeds, hdeeds⟩ := exists_course_walk hvisit chain.nodes start
      (here.after [.announce chain.length]) history
    exact ⟨_, _, (here.leads_announce chain.length start).append hdeeds,
      run_walkChain true chain _ _ _⟩

/-- **Every run of a client is a course.** -/
theorem exists_course (client : Client n β) :
    ∀ (here : Moment α n) (history : List (Answer × Slots n)),
      ∃ deeds, here.Leads deeds history
        ((client.run ⟨here.slots, history⟩).run here.memory) := by
  induction client with
  | done value =>
    intro here history
    exact ⟨[], ⟨by rw [run, Traced.run_pure, List.append_nil]; rfl, rfl⟩⟩
  | call request next ih =>
    intro here history
    have hcall := here.leads_call request history
    obtain ⟨deeds, hdeeds⟩ := ih ((request.perform here.slots).run here.memory).value.1
      (here.after [.call request])
      (((request.perform here.slots).run here.memory).value :: history)
    exact ⟨[.call request] ++ deeds, hcall.append hdeeds⟩
  | walk checked slot visit start next ihvisit ihnext =>
    intro here history
    rw [run]
    cases hslot : here.slots.get slot with
    | none => exact ihnext _ here history
    | some chain =>
      obtain ⟨last, walked, hwalked, hrun⟩ :=
        exists_course_walkChain ihvisit checked chain start here history
      obtain ⟨deeds, hdeeds⟩ := ihnext (.ok last.value.1) (here.after walked)
        last.value.2.history
      have hboth := hwalked.append hdeeds
      rw [hwalked.last] at hboth
      refine ⟨walked ++ deeds, ?_⟩
      rw [Traced.run_bind, hrun]
      exact hboth

end Client

end PrependList
