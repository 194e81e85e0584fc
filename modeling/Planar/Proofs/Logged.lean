import Planar.Event

/-! Outcomes of runs that log. -/
namespace Planar.Logged
variable {α β γ : Type}

@[simp] theorem outcome_pure (b : β) : (pure b : Logged α β).outcome = .ok b := rfl

@[simp] theorem events_pure (b : β) : (pure b : Logged α β).events = [] := rfl

theorem mk_bind (events : List (Event α)) (outcome : Except Fault β) (k : β → Logged α γ) :
    (⟨events, outcome⟩ : Logged α β) >>= k =
      match outcome with
      | .ok b => ⟨events ++ (k b).events, (k b).outcome⟩
      | .error fault => ⟨events, .error fault⟩ := by
  cases outcome with
  | error fault => rfl
  | ok b => rfl

theorem outcome_bind (x : Logged α β) (k : β → Logged α γ) :
    (x >>= k).outcome = x.outcome >>= fun b => (k b).outcome := by
  obtain ⟨events, outcome⟩ := x
  rw [mk_bind]
  cases outcome with
  | error fault => rfl
  | ok b => rfl

theorem events_bind_of_ok {x : Logged α β} {b : β} (h : x.outcome = .ok b) (k : β → Logged α γ) :
    (x >>= k).events = x.events ++ (k b).events := by
  obtain ⟨events, outcome⟩ := x
  cases h
  rfl

end Planar.Logged
