import RwaControlPlane.Library.Runs

namespace runs

variable {σ α β : Type*} {step : σ → α → σ} {start : σ}

/-- An item that a state holds was produced by a step of the run, and every state
since then holds it. -/
theorem run_origin {view : σ → List β} {Produced : σ → α → β → Prop} {actions : List α} {item : β}
    (hstart : view start = [])
    (hstep : ∀ state action, ∀ item ∈ view (step state action), item ∈ view state ∨ Produced state action item)
    (h : item ∈ view (run step start actions)) :
    ∃ before action after, actions = before ++ action :: after ∧ Produced (run step start before) action item ∧
      ∀ middle, middle <+: after → item ∈ view (run step start (before ++ action :: middle)) := by
  induction actions using List.reverseRecOn with
  | nil => exact absurd (hstart ▸ h) List.not_mem_nil
  | append_singleton actions last ih =>
    have hnow := h
    rw [run_concat] at h
    obtain hold | hproduced := hstep _ last item h
    · obtain ⟨before, action, after, rfl, hproduced, hheld⟩ := ih hold
      refine ⟨before, action, after ++ [last], by simp, hproduced, fun middle hmiddle => ?_⟩
      obtain rfl | hmiddle := List.prefix_concat_iff.mp hmiddle
      · simpa using hnow
      · exact hheld middle hmiddle
    · refine ⟨actions, last, [], rfl, hproduced, fun middle hmiddle => ?_⟩
      rw [List.prefix_nil.mp hmiddle]
      exact hnow

end runs
