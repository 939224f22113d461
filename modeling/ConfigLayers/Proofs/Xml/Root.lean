import ConfigLayers.Xml.Parser

/-! The root of a document is an element, whatever the text. -/
namespace ConfigLayers
namespace Xml

namespace Node

mutual

def decEq : (n m : Node) → Decidable (n = m)
  | .text s, .text t => decidable_of_iff (s = t) (by simp)
  | .text _, .element .. => isFalse (by simp)
  | .element .., .text _ => isFalse (by simp)
  | .element name attributes ns, .element name' attributes' ms =>
    have := decEqAll ns ms
    decidable_of_iff (name = name' ∧ attributes = attributes' ∧ ns = ms) (by simp)

def decEqAll : (ns ms : List Node) → Decidable (ns = ms)
  | [], [] => isTrue rfl
  | [], _ :: _ => isFalse (by simp)
  | _ :: _, [] => isFalse (by simp)
  | n :: ns, m :: ms =>
    have := decEq n m
    have := decEqAll ns ms
    decidable_of_iff (n = m ∧ ns = ms) (by simp)

end

instance : DecidableEq Node := decEq

end Node

namespace Scan

variable {α β : Type} {p : α → Prop}

def Yields (p : α → Prop) (x : Scan α) : Prop :=
  ∀ c a c', x c = some (a, c') → p a

theorem yields_pure {a : α} (h : p a) : Yields p (pure a) := by
  rintro c b c' hb
  cases hb
  exact h

theorem Yields.bind {q : β → Prop} {x : Scan β} {f : β → Scan α} (hx : Yields q x) (h : ∀ b, q b → Yields p (f b)) :
    Yields p (x >>= f) := by
  intro c a c' ha
  change (x c >>= fun y => f y.1 y.2) = some (a, c') at ha
  obtain ⟨⟨b, d⟩, hb, hf⟩ := Option.bind_eq_some_iff.mp ha
  exact h b (hx c b d hb) d a c' hf

theorem yields_bind {x : Scan β} {f : β → Scan α} (h : ∀ b, Yields p (f b)) : Yields p (x >>= f) :=
  Yields.bind (q := fun _ => True) (fun _ _ _ _ => trivial) fun b _ => h b

theorem Yields.read? {x : Scan α} (h : Yields p x) {cs : List Char} {a : α} (ha : x.read? cs = some a) : p a := by
  obtain ⟨⟨b, c⟩, hb, rfl⟩ := Option.map_eq_some_iff.mp ha
  exact h _ _ _ hb

def IsRoot (n : Node) : Prop :=
  ∃ name attributes content, n = .element name attributes content

theorem yields_element (s : Setting) (d : Declarations) (fuel : Nat) (scope : Scope) (depth : Nat)
    (inside : List String) : Yields IsRoot (element s d fuel scope depth inside) := by
  cases fuel with
  | zero =>
    rintro c a c' ha
    rw [element] at ha
    cases ha
  | succ fuel =>
    rw [element]
    refine yields_bind fun _ => yields_bind fun tag => yields_bind fun raws =>
      yields_bind fun (name, attributes, scope) => yields_bind fun closed => ?_
    cases closed with
    | true => exact yields_pure ⟨name, attributes, [], rfl⟩
    | false =>
      refine yields_bind fun _ => yields_bind fun nodes => yields_bind fun _ => yields_bind fun _ =>
        yields_bind fun _ => yields_bind fun _ => yields_bind fun _ => ?_
      exact yields_pure ⟨name, attributes, nodes, rfl⟩

theorem yields_document (s : Setting) : Yields IsRoot (document s) := by
  refine yields_bind fun _ => yields_bind fun _ => yields_bind fun _ => yields_bind fun d => yields_bind fun _ =>
    yields_bind fun _ => ?_
  refine (yields_element s d _ _ _ _).bind fun root hr => ?_
  exact yields_bind fun _ => yields_bind fun _ => yields_bind fun _ => yields_pure hr

end Scan

theorem isRoot_of_ofBytes? {read : String → Entity} {reach : Nat} {isUtf8 : Bool} {bytes : Bytes} {n : Node}
    (h : ofBytes? read reach isUtf8 bytes = some n) :
    ∃ name attributes content, n = .element name attributes content := by
  obtain ⟨text, -, h⟩ := Option.bind_eq_some_iff.mp h
  exact (Scan.yields_document _).read? h

end Xml
end ConfigLayers
