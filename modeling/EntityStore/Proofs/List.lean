import Mathlib.Data.List.Induction
import Mathlib.Data.List.Nodup

/-!
# Lists without repetitions

Every element of a list is kept where it comes first.
-/

namespace EntityStore

/-- The last element of a list counts if it is new. -/
theorem eraseDups_append_singleton {α : Type} [DecidableEq α] (as : List α) (a : α) :
  (as ++ [a]).eraseDups = if a ∈ as then as.eraseDups else as.eraseDups ++ [a]
  := by
  rw [List.eraseDups_append, List.removeAll]
  by_cases h : a ∈ as <;> simp [h, List.eraseDups_cons]

/-- What is left has no repetitions. -/
theorem nodup_eraseDups {α : Type} [DecidableEq α] (as : List α) :
  as.eraseDups.Nodup
  := by
  induction as using List.reverseRecOn with
  | nil => simp
  | append_singleton as a ih =>
      rw [eraseDups_append_singleton]
      split
      · apply ih
      · rename_i h
        rw [List.nodup_append]
        refine ⟨ih, by simp, ?_⟩
        rintro b hb c hc rfl
        rw [List.mem_singleton.mp hc] at hb
        apply h (List.mem_eraseDups.mp hb)

end EntityStore
