import Mathlib.Data.List.Forall2

/-! # Computations: what the parts gave, read off the whole

    A computation that is mapped or run for its failure gives what it gave
    before.  Computations that run one after the other succeed with what each
    of them gives (`mapM_eq_ok_iff`) or fail as the first of them that fails,
    and what stands behind it does not matter (`mapM_eq_error_iff`).  Where
    each one carries its argument along, the arguments stand beside what comes
    out and the one that fails is known (`mapM_labelled_of_forall₂`,
    `mapM_labelled_of_failsFirst`). -/

namespace Except

variable {ε ε' α β : Type} {x : Except ε α}

/-- A result comes from a result. -/
theorem map_eq_ok_iff {f : α → β} {b : β} :
    x.map f = .ok b ↔ ∃ a, x = .ok a ∧ f a = b := by
  cases x <;> simp [Except.map]

theorem map_eq_error_iff {f : α → β} {e : ε} : x.map f = .error e ↔ x = .error e := by
  cases x <;> simp [Except.map]

/-- Two computations one after the other succeed if both do. -/
theorem bind_eq_ok_iff {f : α → Except ε β} {b : β} :
    x >>= f = .ok b ↔ ∃ a, x = .ok a ∧ f a = .ok b := by
  cases x <;> simp [bind, Except.bind]

theorem mapError_eq_ok_iff {f : ε → ε'} {a : α} : x.mapError f = .ok a ↔ x = .ok a := by
  cases x <;> simp [Except.mapError]

/-- A failure comes from a failure. -/
theorem mapError_eq_error_iff {f : ε → ε'} {e' : ε'} :
    x.mapError f = .error e' ↔ ∃ e, x = .error e ∧ f e = e' := by
  cases x <;> simp [Except.mapError]

/-- A list of computations fails as the first of them that fails. -/
theorem mapM_eq_error_iff {f : α → Except ε β} {xs : List α} {e : ε} :
    xs.mapM f = .error e ↔ ∃ before y after, xs = before ++ y :: after ∧
      (∀ z ∈ before, ∃ b, f z = .ok b) ∧ f y = .error e := by
  constructor
  · intro h
    induction xs with
    | nil => cases h
    | cons y xs ih =>
        rw [List.mapM_cons] at h
        cases hy : f y with
        | error e' =>
            rw [hy] at h
            cases h
            exact ⟨[], y, xs, rfl, fun _ hz => (nomatch hz), hy⟩
        | ok b =>
            rw [hy] at h
            -- the failure comes from the rest, and the head goes to those in front of it
            have hrest : (xs.mapM f).map (b :: ·) = .error e := h
            obtain ⟨before, z, after, rfl, hbefore, hz⟩ := ih (map_eq_error_iff.mp hrest)
            exact ⟨y :: before, z, after, rfl, List.forall_mem_cons.mpr ⟨⟨b, hy⟩, hbefore⟩, hz⟩
  · rintro ⟨before, y, after, rfl, hbefore, hy⟩
    induction before with
    | nil =>
        rw [List.nil_append, List.mapM_cons, hy]
        rfl
    | cons z before ih =>
        obtain ⟨⟨b, hz⟩, hbefore⟩ := List.forall_mem_cons.mp hbefore
        rw [List.cons_append, List.mapM_cons, hz]
        show ((before ++ y :: after).mapM f).map (b :: ·) = .error e
        rw [ih hbefore]
        rfl

/-- A list of computations succeeds with the list of what each of them gives. -/
theorem mapM_eq_ok_iff {f : α → Except ε β} {xs : List α} {ys : List β} :
    xs.mapM f = .ok ys ↔ List.Forall₂ (fun x y => f x = .ok y) xs ys := by
  induction xs generalizing ys with
  | nil =>
      rw [List.forall₂_nil_left_iff]
      constructor
      · rintro ⟨⟩
        rfl
      · rintro rfl
        rfl
  | cons x xs ih =>
      rw [List.mapM_cons, List.forall₂_cons_left_iff]
      constructor
      · intro h
        cases hx : f x with
        | error e =>
            rw [hx] at h
            cases h
        | ok y =>
            rw [hx] at h
            have hrest : (xs.mapM f).map (y :: ·) = .ok ys := h
            obtain ⟨rest, hxs, rfl⟩ := map_eq_ok_iff.mp hrest
            exact ⟨y, rest, rfl, ih.mp hxs, rfl⟩
      · rintro ⟨y, rest, hx, hrest, rfl⟩
        rw [hx]
        show (xs.mapM f).map (y :: ·) = .ok (y :: rest)
        rw [ih.mpr hrest]
        rfl

/-! ## Computations that carry their argument along -/

/-- A computation with its argument beside the result and in the failure. -/
def labelled (f : α → Except ε β) (failure : α → ε → ε') (x : α) : Except ε' (α × β) :=
  ((f x).map (x, ·)).mapError (failure x)

/-- Of the computations on a list, the one on `x` is the first that fails. -/
def FailsFirst (f : α → Except ε β) (xs : List α) (x : α) (e : ε) : Prop :=
  ∃ before after, xs = before ++ x :: after ∧ (∀ y ∈ before, ∃ b, f y = .ok b) ∧ f x = .error e

variable {f : α → Except ε β} {failure : α → ε → ε'}

/-- A labelled result is the result with its item. -/
theorem labelled_eq_ok_iff {x : α} {result : α × β} :
    labelled f failure x = .ok result ↔ ∃ b, f x = .ok b ∧ (x, b) = result := by
  rw [labelled, mapError_eq_ok_iff, map_eq_ok_iff]

/-- A labelled failure is worded for its item. -/
theorem labelled_eq_error_iff {x : α} {e' : ε'} :
    labelled f failure x = .error e' ↔ ∃ e, f x = .error e ∧ failure x e = e' := by
  simp only [labelled, mapError_eq_error_iff, map_eq_error_iff]

/-- One that fails first fails. -/
theorem FailsFirst.not_all {xs : List α} {x : α} {e : ε} (h : FailsFirst f xs x e) :
    ¬ ∀ y ∈ xs, ∃ b, f y = .ok b := by
  obtain ⟨before, after, rfl, -, hx⟩ := h
  intro hall
  obtain ⟨b, hb⟩ := hall x (List.mem_append_right before (List.mem_cons_self ..))
  cases hx.symm.trans hb

/-- If all items succeed, each comes with its result. -/
theorem mapM_labelled_of_forall₂ {xs : List α} {bs : List β}
    (h : List.Forall₂ (fun x b => f x = .ok b) xs bs) :
    xs.mapM (labelled f failure) = .ok (xs.zip bs) := by
  rw [mapM_eq_ok_iff]
  induction h with
  | nil => exact .nil
  | cons hx _ ih => exact .cons (labelled_eq_ok_iff.mpr ⟨_, hx, rfl⟩) ih

/-- If some item fails, the first such failure is worded for its item. -/
theorem mapM_labelled_of_failsFirst {xs : List α} {x : α} {e : ε} (h : FailsFirst f xs x e) :
    xs.mapM (labelled f failure) = .error (failure x e) := by
  obtain ⟨before, after, hxs, hbefore, hx⟩ := h
  refine mapM_eq_error_iff.mpr ⟨before, x, after, hxs, fun y hy => ?_, ?_⟩
  · obtain ⟨b, hb⟩ := hbefore y hy
    exact ⟨(y, b), labelled_eq_ok_iff.mpr ⟨b, hb, rfl⟩⟩
  · exact labelled_eq_error_iff.mpr ⟨e, hx, rfl⟩

/-- No two computations are the first that fails. -/
theorem FailsFirst.unique {xs : List α} {x x' : α} {e e' : ε} (h : FailsFirst f xs x e)
    (h' : FailsFirst f xs x' e') : x = x' ∧ e = e' := by
  have hx : xs.mapM (labelled f Prod.mk) = .error (x, e) := mapM_labelled_of_failsFirst h
  have hx' : xs.mapM (labelled f Prod.mk) = .error (x', e') := mapM_labelled_of_failsFirst h'
  cases hx.symm.trans hx'
  exact ⟨rfl, rfl⟩

/-- Either all computations on a list succeed or one of them is the first to fail. -/
theorem forall₂_or_failsFirst (f : α → Except ε β) (xs : List α) :
    (∃ bs, List.Forall₂ (fun x b => f x = .ok b) xs bs) ∨ ∃ x e, FailsFirst f xs x e := by
  cases h : xs.mapM f with
  | ok bs => exact .inl ⟨bs, mapM_eq_ok_iff.mp h⟩
  | error e =>
      obtain ⟨before, x, after, hxs, hbefore, hx⟩ := mapM_eq_error_iff.mp h
      exact .inr ⟨x, e, before, after, hxs, hbefore, hx⟩

/-- All computations on a list succeed if each one does. -/
theorem exists_forall₂_iff {xs : List α} :
    (∃ bs, List.Forall₂ (fun x b => f x = .ok b) xs bs) ↔ ∀ x ∈ xs, ∃ b, f x = .ok b := by
  constructor
  · rintro ⟨bs, hbs⟩
    exact ((List.forall₂_and_left xs bs).mp (hbs.imp fun x b hx => ⟨⟨b, hx⟩, hx⟩)).1
  · intro hall
    rcases forall₂_or_failsFirst f xs with hbs | ⟨x, e, hfirst⟩
    · exact hbs
    · exact absurd hall hfirst.not_all

end Except
