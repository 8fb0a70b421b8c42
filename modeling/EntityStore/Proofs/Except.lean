import Mathlib.Tactic.Common

/-!
# Steps that can fail

If steps succeed one after the other, each of them succeeds, and if they fail one of them does.
Steps that agree on the elements of a list agree when they are done one after the other.
-/

namespace EntityStore

variable {ε α β γ : Type}

/-- If two steps succeed, the first does and the second does with its result. -/
theorem exists_of_bind_ok {x : Except ε α} {f : α → Except ε β} {b : β}
    (h : x >>= f = .ok b) :
  ∃ a, x = .ok a ∧ f a = .ok b
  := by
  cases x with
  | error e => cases h
  | ok a => use a, rfl, h

/-- There is a result if a step succeeds with it. -/
theorem toOption_eq_some_iff {x : Except ε α} {a : α} :
  x.toOption = some a ↔ x = .ok a
  := by cases x <;> simp [Except.toOption]

/-- What every step keeps holds after all of them. -/
theorem foldlM_preserves {P : β → Prop} {step : β → α → Except ε β}
    (hstep : ∀ b a b', P b → step b a = .ok b' → P b') {as : List α} {b b' : β} (hb : P b)
    (h : as.foldlM step b = .ok b') :
  P b'
  := by
  induction as generalizing b with
  | nil =>
      cases h
      apply hb
  | cons a as ih =>
      rw [List.foldlM_cons] at h
      obtain ⟨c, hfirst, hrest⟩ := exists_of_bind_ok h
      apply ih (hstep b a c hb hfirst) hrest

/-- If a step succeeds for all members of a list, the results are those of the members in
their order. -/
theorem map_eq_of_mapM_ok {f : α → Except ε β} {as : List α} {bs : List β}
    (h : as.mapM f = .ok bs) :
  as.map f = bs.map .ok
  := by
  induction as generalizing bs with
  | nil =>
      cases h
      rfl
  | cons a as ih =>
      rw [List.mapM_cons] at h
      obtain ⟨b, hb, hrest⟩ := exists_of_bind_ok h
      obtain ⟨rest, hmap, heq⟩ := exists_of_bind_ok hrest
      cases heq
      rw [List.map_cons, List.map_cons, hb, ih hmap]

/-- A step succeeds for all members of a list exactly if it does for each. -/
theorem exists_mapM_ok_iff {f : α → Except ε β} {as : List α} :
  (∃ bs, as.mapM f = .ok bs) ↔ ∀ a ∈ as, ∃ b, f a = .ok b
  := by
  constructor
  · rintro ⟨bs, hbs⟩ a ha
    have hmem := List.mem_map_of_mem (f := f) ha
    rw [map_eq_of_mapM_ok hbs] at hmem
    obtain ⟨b, -, hb⟩ := List.mem_map.mp hmem
    exact ⟨b, hb.symm⟩
  · intro h
    induction as with
    | nil => exact ⟨[], rfl⟩
    | cons a as ih =>
        obtain ⟨⟨b, hb⟩, hrest⟩ := List.forall_mem_cons.mp h
        obtain ⟨bs, hbs⟩ := ih hrest
        use b :: bs
        rw [List.mapM_cons, hb, hbs]
        rfl

/-- What every step keeps of a member is kept of all members in their order. -/
theorem map_eq_map_of_mapM_ok {f : α → Except ε β} {g : α → γ} {k : β → γ}
    (hkept : ∀ a b, f a = .ok b → k b = g a) {as : List α} {bs : List β}
    (h : as.mapM f = .ok bs) :
  bs.map k = as.map g
  := by
  have hmap := map_eq_of_mapM_ok h
  clear h
  induction as generalizing bs with
  | nil =>
      obtain rfl := List.map_eq_nil_iff.mp hmap.symm
      rfl
  | cons a as ih =>
      obtain ⟨b, bs, rfl, hb, hrest⟩ := List.map_eq_cons_iff.mp hmap.symm
      rw [List.map_cons, List.map_cons, hkept a b hb.symm, ih hrest.symm]

/-- Members of a list may be worked out first, as far as this succeeds, and used afterwards. -/
theorem foldlM_map_eq (work : α → Except ε γ) (use : β → α → γ → β)
    (as : List α) (b : β) :
  as.foldlM (fun b a => (work a).map (use b a)) b =
    (as.mapM work).map fun cs => (as.zip cs).foldl (fun b x => use b x.1 x.2) b
  := by
  induction as generalizing b with
  | nil => rfl
  | cons a as ih =>
      rw [List.foldlM_cons, List.mapM_cons]
      cases work a with
      | error e => rfl
      | ok c =>
          show as.foldlM _ (use b a c) = _
          rw [ih]
          cases as.mapM work <;> rfl

/-- Steps that do the same for all members of a list do so one after the other. -/
theorem foldlM_congr {f g : β → α → Except ε β} {as : List α}
    (h : ∀ a ∈ as, ∀ b, f b a = g b a) (b : β) :
  as.foldlM f b = as.foldlM g b
  := by
  induction as generalizing b with
  | nil => rfl
  | cons a as ih =>
      rw [List.forall_mem_cons] at h
      rw [List.foldlM_cons, List.foldlM_cons, h.1 b]
      congr 1
      funext b'
      apply ih h.2

/-- Steps that do the same for each member of a list do so for all. -/
theorem mapM_congr {f g : α → Except ε β} {as : List α}
    (h : ∀ a ∈ as, f a = g a) :
  as.mapM f = as.mapM g
  := by
  induction as with
  | nil => rfl
  | cons a as ih =>
      rw [List.forall_mem_cons] at h
      rw [List.mapM_cons, List.mapM_cons, h.1, ih h.2]

/-- If a step fails for some member of a list, what is told is that of the first such. -/
theorem exists_of_mapM_error {f : α → Except ε β} {as : List α} {e : ε}
    (h : as.mapM f = .error e) :
  ∃ before a behind, as = before ++ a :: behind ∧ f a = .error e ∧
    ∀ x ∈ before, ∃ b, f x = .ok b
  := by
  induction as with
  | nil => cases h
  | cons a as ih =>
      rw [List.mapM_cons] at h
      cases ha : f a with
      | error e' =>
          rw [ha] at h
          cases h
          exact ⟨[], a, as, rfl, ha, by simp⟩
      | ok b =>
          rw [ha] at h
          cases hrest : as.mapM f with
          | error e' =>
              rw [hrest] at h
              cases h
              obtain ⟨before, a', behind, rfl, ha', hbefore⟩ := ih hrest
              refine ⟨a :: before, a', behind, rfl, ha', ?_⟩
              rw [List.forall_mem_cons]
              exact ⟨⟨b, ha⟩, hbefore⟩
          | ok bs =>
              rw [hrest] at h
              cases h

/-- If a step can fail in one way only, so do steps for all members of a list. -/
theorem mapM_ite_error {p : α → Bool} {e : ε} {as : List α} {f : α → Except ε β} {g : α → β}
    (h : ∀ a ∈ as, f a = if p a then .ok (g a) else .error e) :
  as.mapM f = if as.all p then .ok (as.map g) else .error e
  := by
  induction as with
  | nil => rfl
  | cons a as ih =>
    obtain ⟨ha, has⟩ := List.forall_mem_cons.mp h
    rw [List.mapM_cons, ha, ih has, List.all_cons]
    cases p a <;> cases as.all p <;> rfl

theorem foldlM_ite_error {p : α → Bool} {e : ε} {as : List α} {f : β → α → Except ε β}
    {g : β → α → β}
    (h : ∀ a ∈ as, ∀ b, f b a = if p a then .ok (g b a) else .error e) (b : β) :
  as.foldlM f b = if as.all p then .ok (as.foldl g b) else .error e
  := by
  induction as generalizing b with
  | nil => rfl
  | cons a as ih =>
    obtain ⟨ha, has⟩ := List.forall_mem_cons.mp h
    rw [List.foldlM_cons, ha, List.all_cons, List.foldl_cons]
    cases p a with
    | false => rfl
    | true => exact ih has (g b a)

/-- A step that cannot fail for any member of a list. -/
theorem mapM_map_ok {f : β → Except ε γ} {r : α → β} {g : α → γ}
    (h : ∀ a, f (r a) = .ok (g a)) (as : List α) :
  (as.map r).mapM f = .ok (as.map g)
  := by
  induction as with
  | nil => rfl
  | cons a as ih =>
    rw [List.map_cons, List.mapM_cons, h, ih]
    rfl

end EntityStore
