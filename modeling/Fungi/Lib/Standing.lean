import Fungi.Lib.Run

/-!
# What stands after a history

A history lists events, some of which establish a fact and some of which revoke it.  The fact
stands when nothing has revoked it since it was last established, or since the start where it held
from the start.
-/

namespace Fungi.Lib

variable {Event : Type*}

/-- Nothing has revoked the fact since it was established. -/
def Stands (establishes revokes : Event → Prop) (initially : Prop) (history : List Event) : Prop :=
  initially ∧ (∀ event ∈ history, ¬ revokes event) ∨
    ∃ before event after, history = before ++ event :: after ∧ establishes event ∧
      ∀ later ∈ after, ¬ revokes later

namespace Stands

variable {establishes revokes : Event → Prop} {initially : Prop} {history : List Event}
  {event : Event}

@[simp] theorem nil_iff : Stands establishes revokes initially [] ↔ initially := by
  unfold Stands
  simp

/-- The last event decides, if it is about the fact at all. -/
theorem snoc_iff :
    Stands establishes revokes initially (history ++ [event]) ↔
      establishes event ∨ Stands establishes revokes initially history ∧ ¬ revokes event := by
  unfold Stands
  constructor
  · rintro (⟨held, spared⟩ | ⟨before, made, after, same, established, spared⟩)
    · right
      constructor
      · left
        exact ⟨held, fun earlier member => spared earlier (List.mem_append_left _ member)⟩
      · exact spared event (by simp)
    · rcases List.eq_nil_or_concat after with rfl | ⟨middle, last, rfl⟩
      · left
        obtain ⟨-, now⟩ := List.append_inj' same rfl
        obtain rfl := List.singleton_inj.mp now
        exact established
      · rw [List.concat_eq_append] at same spared
        right
        have split : history ++ [event] = (before ++ made :: middle) ++ [last] := by
          rw [same, List.append_assoc, List.cons_append]
        obtain ⟨earlier, now⟩ := List.append_inj' split rfl
        obtain rfl := List.singleton_inj.mp now
        constructor
        · right
          exact ⟨before, made, middle, earlier, established,
            fun later member => spared later (List.mem_append_left _ member)⟩
        · exact spared event (by simp)
  · rintro (established | ⟨⟨held, spared⟩ | ⟨before, made, after, rfl, established, spared⟩, kept⟩)
    · right
      exact ⟨history, event, [], rfl, established, by simp⟩
    · left
      refine ⟨held, fun other member => ?_⟩
      rcases List.mem_append.mp member with earlier | now
      · exact spared other earlier
      · rw [List.mem_singleton.mp now]
        exact kept
    · right
      refine ⟨before, made, after ++ [event], by simp, established, fun other member => ?_⟩
      rcases List.mem_append.mp member with earlier | now
      · exact spared other earlier
      · rw [List.mem_singleton.mp now]
        exact kept

/-- A run in which each step changes a fact as its event says ends with the fact if it stands. -/
theorem of_run {State : Type*} {step : State → Event → Option State} {start final : State}
    {holds : State → Prop}
    (follows : ∀ state event next, step state event = some next →
      (holds next ↔ establishes event ∨ holds state ∧ ¬ revokes event))
    (reached : run step start history = some final) :
    holds final ↔ Stands establishes revokes (holds start) history := by
  refine run_induction (motive := fun history state =>
    (holds state ↔ Stands establishes revokes (holds start) history)) ?_ ?_ reached
  · rw [nil_iff]
  · intro history state event next _ inductionHypothesis taken
    rw [follows state event next taken, snoc_iff, inductionHypothesis]

end Stands

end Fungi.Lib
