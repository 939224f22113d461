/-! Computations that end in a value or an error and note what happened on the way. The value is a
function of the values of the parts alone, whatever was noted. -/
namespace ConfigLayers

/-- A value or an error, with the notes taken until then. -/
structure Traced (ω ε α : Type) where
  value : Except ε α
  trace : List ω

namespace Traced

variable {ω ω' ε ε' α β : Type}

protected def pure (a : α) : Traced ω ε α :=
  ⟨.ok a, []⟩

protected def bind (x : Traced ω ε α) (f : α → Traced ω ε β) : Traced ω ε β :=
  match x.value with
  | .ok a => ⟨(f a).value, x.trace ++ (f a).trace⟩
  | .error e => ⟨.error e, x.trace⟩

instance : Monad (Traced ω ε) where
  pure := Traced.pure
  bind := Traced.bind

def fail (e : ε) : Traced ω ε α :=
  ⟨.error e, []⟩

def note (w : ω) : Traced ω ε Unit :=
  ⟨.ok (), [w]⟩

def ofExcept (x : Except ε α) : Traced ω ε α :=
  ⟨x, []⟩

/-- Continues after an error with the notes kept. -/
def recover (x : Traced ω ε α) (f : ε → Traced ω ε α) : Traced ω ε α :=
  match x.value with
  | .ok a => ⟨.ok a, x.trace⟩
  | .error e => ⟨(f e).value, x.trace ++ (f e).trace⟩

def rephrase (g : ω → ω') (h : ε → ε') (x : Traced ω ε α) : Traced ω' ε' α :=
  ⟨x.value.mapError h, x.trace.map g⟩

instance : MonadExceptOf ε (Traced ω ε) where
  throw := fail
  tryCatch := recover

instance : MonadLift (Except ε) (Traced ω ε) where
  monadLift := ofExcept

@[simp] theorem value_pure (a : α) : (pure a : Traced ω ε α).value = .ok a := rfl

@[simp] theorem trace_pure (a : α) : (pure a : Traced ω ε α).trace = [] := rfl

@[simp] theorem value_bind (x : Traced ω ε α) (f : α → Traced ω ε β) :
    (x >>= f).value = x.value >>= fun a => (f a).value := by
  change (Traced.bind x f).value = _
  unfold Traced.bind
  cases x.value <;> rfl

theorem value_bind_ok {x : Traced ω ε α} {a : α} (f : α → Traced ω ε β) (h : x.value = .ok a) :
    (x >>= f).value = (f a).value := by
  rw [value_bind, h]
  rfl

theorem value_bind_error {x : Traced ω ε α} {e : ε} (f : α → Traced ω ε β) (h : x.value = .error e) :
    (x >>= f).value = .error e := by
  rw [value_bind, h]
  rfl

theorem value_bind_eq_ok_iff {x : Traced ω ε α} {f : α → Traced ω ε β} {b : β} :
    (x >>= f).value = .ok b ↔ ∃ a, x.value = .ok a ∧ (f a).value = .ok b := by
  constructor
  · intro h
    cases hx : x.value with
    | error e =>
      rw [value_bind, hx] at h
      cases h
    | ok a => exact ⟨a, rfl, by rw [← h, value_bind_ok f hx]⟩
  · rintro ⟨a, hx, hf⟩
    rw [value_bind_ok f hx, hf]

theorem trace_bind_ok {x : Traced ω ε α} {a : α} (f : α → Traced ω ε β) (h : x.value = .ok a) :
    (x >>= f).trace = x.trace ++ (f a).trace := by
  change (Traced.bind x f).trace = _
  simp [Traced.bind, h]

theorem trace_bind_error {x : Traced ω ε α} {e : ε} (f : α → Traced ω ε β) (h : x.value = .error e) :
    (x >>= f).trace = x.trace := by
  change (Traced.bind x f).trace = _
  simp [Traced.bind, h]

theorem value_tryCatch_ok {x : Traced ω ε α} {a : α} (f : ε → Traced ω ε α) (h : x.value = .ok a) :
    (tryCatch x f).value = .ok a := by
  change (recover x f).value = _
  simp [recover, h]

theorem value_tryCatch_error {x : Traced ω ε α} {e : ε} (f : ε → Traced ω ε α) (h : x.value = .error e) :
    (tryCatch x f).value = (f e).value := by
  change (recover x f).value = _
  simp [recover, h]

@[simp] theorem value_fail (e : ε) : (fail e : Traced ω ε α).value = .error e := rfl

@[simp] theorem value_note (w : ω) : (note w : Traced ω ε Unit).value = .ok () := rfl

@[simp] theorem trace_note (w : ω) : (note w : Traced ω ε Unit).trace = [w] := rfl

@[simp] theorem value_ofExcept (x : Except ε α) : (ofExcept x : Traced ω ε α).value = x := rfl

@[simp] theorem trace_ofExcept (x : Except ε α) : (ofExcept x : Traced ω ε α).trace = [] := rfl

@[simp] theorem value_rephrase (g : ω → ω') (h : ε → ε') (x : Traced ω ε α) :
    (x.rephrase g h).value = x.value.mapError h := rfl

theorem value_rephrase_eq_ok_iff {g : ω → ω'} {h : ε → ε'} {x : Traced ω ε α} {a : α} :
    (x.rephrase g h).value = .ok a ↔ x.value = .ok a := by
  rw [value_rephrase]
  cases x.value with
  | ok b => exact ⟨fun e => congrArg _ (Except.ok.inj e), fun e => congrArg _ (Except.ok.inj e)⟩
  | error e =>
    constructor
    · intro h
      cases h
    · intro h
      cases h

@[simp] theorem trace_rephrase (g : ω → ω') (h : ε → ε') (x : Traced ω ε α) :
    (x.rephrase g h).trace = x.trace.map g := rfl

end Traced
end ConfigLayers
