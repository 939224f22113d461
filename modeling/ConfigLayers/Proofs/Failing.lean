import ConfigLayers.Error
import Mathlib.Data.List.Forall2

/-! How a computation may fail: a property of all its errors is one of the errors of its parts. -/
namespace ConfigLayers

/-- Every error that a computation ends in has a property. -/
def FailsAs {α : Type} (p : Error → Prop) (x : Except Error α) : Prop :=
  ∀ e, x = .error e → p e

section FailsAs

variable {α β : Type} {p q : Error → Prop}

theorem failsAs_ok (a : α) : FailsAs p (.ok a) := by
  intro e h
  cases h

theorem failsAs_error {e : Error} (h : p e) : FailsAs p (.error e : Except Error α) := by
  intro e' h'
  cases h'
  exact h

theorem failsAs_of_isOk {x : Except Error α} (h : x.isOk = true) : FailsAs p x := by
  rintro e rfl
  cases h

theorem FailsAs.bind {x : Except Error α} {f : α → Except Error β} (hx : FailsAs p x)
    (hf : ∀ a, x = .ok a → FailsAs p (f a)) : FailsAs p (x >>= f) := by
  cases x with
  | ok a => exact hf a rfl
  | error e => exact failsAs_error (hx e rfl)

theorem FailsAs.mono {x : Except Error α} (hx : FailsAs p x) (h : ∀ e, p e → q e) : FailsAs q x :=
  fun e he => h e (hx e he)

theorem FailsAs.exists_error_iff {x : Except Error α} (hx : FailsAs p x) :
    (∃ e, x = .error e ∧ p e) ↔ ¬ ∃ a, x = .ok a := by
  cases x with
  | ok a => simp
  | error e => simp [hx e rfl]

end FailsAs

theorem exists_of_bind_eq_ok {α β ε : Type} {x : Except ε α} {f : α → Except ε β} {b : β} (h : x >>= f = .ok b) :
    ∃ a, x = .ok a ∧ f a = .ok b := by
  cases x with
  | ok a => exact ⟨a, rfl, h⟩
  | error e => cases h

section List

variable {α β ε : Type} {f : α → Except ε β} {xs : List α}

theorem mapM_eq_ok_iff {ys : List β} : xs.mapM f = .ok ys ↔ List.Forall₂ (fun x y => f x = .ok y) xs ys := by
  induction xs generalizing ys with
  | nil => cases ys <;> simp [pure, Except.pure]
  | cons x xs ih =>
    rw [List.mapM_cons]
    cases hx : f x with
    | error e => cases ys <;> simp [bind, Except.bind, hx]
    | ok y =>
      cases hxs : xs.mapM f with
      | error e => cases ys <;> simp [bind, Except.bind, ← ih, hx, hxs]
      | ok ys' => cases ys <;> simp [bind, Except.bind, pure, Except.pure, ← ih, hx, hxs]

theorem exists_mapM_eq_ok_iff : (∃ ys, xs.mapM f = .ok ys) ↔ ∀ x ∈ xs, ∃ y, f x = .ok y := by
  simp only [mapM_eq_ok_iff]
  induction xs with
  | nil => simp
  | cons x xs ih => simp [List.forall₂_cons_left_iff, ← ih]

theorem exists_of_mem_of_mapM {ys : List β} {y : β} (h : xs.mapM f = .ok ys) (hy : y ∈ ys) :
    ∃ x ∈ xs, f x = .ok y := by
  have hall := mapM_eq_ok_iff.mp h
  clear h
  induction hall with
  | nil => cases hy
  | @cons x y' xs ys hx _ ih =>
    rcases List.mem_cons.mp hy with rfl | hy
    · exact ⟨x, List.mem_cons_self, hx⟩
    · obtain ⟨x', hx', hf⟩ := ih hy
      exact ⟨x', List.mem_cons_of_mem x hx', hf⟩

theorem mem_iff_of_mapM {ys : List β} (h : xs.mapM f = .ok ys) {y : β} : y ∈ ys ↔ ∃ x ∈ xs, f x = .ok y := by
  refine ⟨exists_of_mem_of_mapM h, ?_⟩
  rintro ⟨x, hx, hf⟩
  have hall := mapM_eq_ok_iff.mp h
  clear h
  induction hall with
  | nil => cases hx
  | @cons x' y' xs ys hx' _ ih =>
    rcases List.mem_cons.mp hx with rfl | hx
    · obtain rfl : y' = y := Except.ok.inj (hx'.symm.trans hf)
      exact List.mem_cons_self
    · exact List.mem_cons_of_mem y' (ih hx)

theorem mapM_eq_error_iff {e : ε} :
    xs.mapM f = .error e ↔
      ∃ before x after, xs = before ++ x :: after ∧ (∀ y ∈ before, ∃ b, f y = .ok b) ∧ f x = .error e := by
  induction xs with
  | nil =>
    simp [pure, Except.pure]
  | cons x xs ih =>
    rw [List.mapM_cons]
    constructor
    · intro h
      cases hx : f x with
      | error e' =>
        rw [hx] at h
        cases h
        exact ⟨[], x, xs, rfl, by simp, hx⟩
      | ok b =>
        cases hxs : xs.mapM f with
        | error e' =>
          rw [hx, hxs] at h
          cases h
          obtain ⟨before, y, after, rfl, hb, hy⟩ := ih.mp hxs
          exact ⟨x :: before, y, after, rfl, List.forall_mem_cons.mpr ⟨⟨b, hx⟩, hb⟩, hy⟩
        | ok bs =>
          rw [hx, hxs] at h
          cases h
    · rintro ⟨before, y, after, hxs, hb, hy⟩
      cases before with
      | nil =>
        cases hxs
        rw [hy]
        rfl
      | cons z before =>
        cases hxs
        obtain ⟨⟨b, hz⟩, hb⟩ := List.forall_mem_cons.mp hb
        rw [hz, ih.mpr ⟨before, y, after, rfl, hb, hy⟩]
        rfl

end List

end ConfigLayers
