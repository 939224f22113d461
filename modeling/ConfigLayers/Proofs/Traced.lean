import ConfigLayers.Traced

/-! Which notes a computation can take: a property of all its notes is one of the notes of its parts. And how a
computation relates to one that goes on where it fails. -/
namespace ConfigLayers
namespace Traced

variable {ω ω' ε ε' α β : Type} {p : ω → Prop}

def Notes (p : ω → Prop) (x : Traced ω ε α) : Prop :=
  ∀ w ∈ x.trace, p w

theorem eq_ok_of_toOption {x : Except ε α} {a : α} (h : x.toOption = some a) : x = .ok a := by
  cases x with
  | ok b => exact congrArg _ (Option.some.inj h)
  | error e => cases h

theorem value_liftM (x : Except ε α) : (liftM x : Traced ω ε α).value = x := rfl

theorem notes_pure (a : α) : (pure a : Traced ω ε α).Notes p := by
  intro w hw
  simp at hw

theorem notes_fail (e : ε) : (fail e : Traced ω ε α).Notes p := by
  intro w hw
  cases hw

theorem notes_throw (e : ε) : (throw e : Traced ω ε α).Notes p :=
  notes_fail e

theorem notes_ofExcept (x : Except ε α) : (ofExcept x : Traced ω ε α).Notes p := by
  intro w hw
  simp at hw

theorem notes_note {w : ω} (h : p w) : (note w : Traced ω ε Unit).Notes p := by
  intro w' hw
  rw [trace_note, List.mem_singleton] at hw
  exact hw ▸ h

theorem notes_bind {x : Traced ω ε α} {f : α → Traced ω ε β} (hx : x.Notes p)
    (hf : ∀ a, x.value = .ok a → (f a).Notes p) : (x >>= f).Notes p := by
  intro w hw
  cases h : x.value with
  | ok a =>
    rw [trace_bind_ok f h] at hw
    rcases List.mem_append.mp hw with hw | hw
    · exact hx w hw
    · exact hf a h w hw
  | error e =>
    rw [trace_bind_error f h] at hw
    exact hx w hw

theorem notes_tryCatch {x : Traced ω ε α} {f : ε → Traced ω ε α} (hx : x.Notes p) (hf : ∀ e, (f e).Notes p) :
    (tryCatch x f).Notes p := by
  intro w hw
  change w ∈ (recover x f).trace at hw
  unfold recover at hw
  split at hw
  · exact hx w hw
  · rename_i e _
    rcases List.mem_append.mp hw with hw | hw
    · exact hx w hw
    · exact hf e w hw

theorem notes_of_bind {x : Traced ω ε α} {f : α → Traced ω ε β} (h : (x >>= f).Notes p) :
    x.Notes p ∧ ∀ a, x.value = .ok a → (f a).Notes p := by
  cases hx : x.value with
  | error e =>
    rw [Notes, trace_bind_error f hx] at h
    exact ⟨h, fun a ha => nomatch ha⟩
  | ok a =>
    rw [Notes, trace_bind_ok f hx] at h
    refine ⟨fun w hw => h w (List.mem_append_left _ hw), fun b hb w hw => ?_⟩
    cases hb
    exact h w (List.mem_append_right _ hw)

theorem bind_congr_of_notes {x y : Traced ω ε α} {f g : α → Traced ω ε β} (h : (x >>= f).Notes p)
    (hx : x.Notes p → y = x) (hf : ∀ a, (f a).Notes p → g a = f a) : y >>= g = x >>= f := by
  obtain ⟨hn, hnf⟩ := notes_of_bind h
  rw [hx hn]
  change Traced.bind x g = Traced.bind x f
  unfold Traced.bind
  split
  · rename_i a ha
    rw [hf a (hnf a ha)]
  · rfl

/-- The first of two computations is the second, or cut off in it by an error: it takes the first notes of the second,
and all of them if it ends in a value, the same value then. -/
structure IsCut (x y : Traced ω ε α) : Prop where
  notes : x.trace <+: y.trace
  ended : ∀ a, x.value = .ok a → y = x

theorem IsCut.refl (x : Traced ω ε α) : x.IsCut x :=
  ⟨List.prefix_refl _, fun _ _ => rfl⟩

theorem isCut_fail (e : ε) (y : Traced ω ε α) : (fail e).IsCut y :=
  ⟨List.nil_prefix, fun _ h => nomatch h⟩

theorem IsCut.bind {x y : Traced ω ε α} {f g : α → Traced ω ε β} (h : x.IsCut y) (hf : ∀ a, (f a).IsCut (g a)) :
    (x >>= f).IsCut (y >>= g) := by
  cases hx : x.value with
  | error e =>
    refine ⟨?_, fun b hb => ?_⟩
    · rw [trace_bind_error f hx]
      cases hy : y.value with
      | error e' =>
        rw [trace_bind_error g hy]
        exact h.notes
      | ok a =>
        rw [trace_bind_ok g hy]
        exact h.notes.trans (List.prefix_append _ _)
    · rw [value_bind_error f hx] at hb
      cases hb
  | ok a =>
    obtain rfl := h.ended a hx
    obtain ⟨hnotes, hended⟩ := hf a
    refine ⟨?_, fun b hb => ?_⟩
    · rw [trace_bind_ok f hx, trace_bind_ok g hx]
      exact (List.prefix_append_right_inj _).mpr hnotes
    · rw [value_bind_ok f hx] at hb
      change Traced.bind y g = Traced.bind y f
      unfold Traced.bind
      rw [hx]
      dsimp only
      rw [hended b hb]

theorem IsCut.rephrase {x y : Traced ω ε α} (h : x.IsCut y) (g : ω → ω') (k k' : ε → ε') :
    (x.rephrase g k).IsCut (y.rephrase g k') := by
  refine ⟨h.notes.map g, fun a ha => ?_⟩
  rw [value_rephrase_eq_ok_iff] at ha
  rw [h.ended a ha, Traced.rephrase, Traced.rephrase, ha]
  rfl

end Traced
end ConfigLayers
