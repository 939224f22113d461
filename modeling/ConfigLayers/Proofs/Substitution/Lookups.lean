import ConfigLayers.Proofs.Substitution.FixedPoint
import ConfigLayers.Proofs.Traced

/-! Which lookups a substitution depends on: those of the names that it notes. What other names stand for makes no
difference, neither to the result nor to the notes. -/
namespace ConfigLayers
namespace Substitution

variable {lookup other : String → Option String} {inner inner' : List Char → Expansion (List Char)}

theorem replace_congr {ps : List Piece}
    (hi : ∀ cs, (inner cs).Notes (fun name => other name = lookup name) → inner' cs = inner cs)
    (h : (replace lookup inner ps).Notes fun name => other name = lookup name) :
    replace other inner' ps = replace lookup inner ps := by
  induction ps with
  | nil => rfl
  | cons p ps ih =>
    cases p with
    | char c => exact Traced.bind_congr_of_notes h ih fun _ _ => rfl
    | reference name =>
      have hname : other (String.ofList name) = lookup (String.ofList name) :=
        (Traced.notes_of_bind h).1 _ List.mem_cons_self
      refine Traced.bind_congr_of_notes h (fun _ => rfl) fun _ h => ?_
      rw [hname]
      cases hl : lookup (String.ofList name) with
      | none =>
        simp only [hl] at h
        exact Traced.bind_congr_of_notes h ih fun _ _ => rfl
      | some raw =>
        simp only [hl] at h
        refine Traced.bind_congr_of_notes h (hi raw.toList) fun _ h => ?_
        exact Traced.bind_congr_of_notes h ih fun _ _ => rfl

theorem expand_congr {levels : Nat} {text : List Char}
    (h : (expand lookup levels text).Notes fun name => other name = lookup name) :
    expand other levels text = expand lookup levels text := by
  induction levels generalizing text with
  | zero => rfl
  | succ levels ih =>
    rw [expand_succ] at h ⊢
    refine Traced.bind_congr_of_notes h (replace_congr fun _ => ih) fun (result, replaced) h => ?_
    dsimp only at h ⊢
    split
    · rfl
    · rename_i hr
      rw [if_neg hr] at h
      exact ih h

theorem substitute_congr {value name : Option String} {limit : Int}
    (h : (substitute value lookup name limit).Notes fun name => other name = lookup name) :
    substitute value other name limit = substitute value lookup name limit := by
  cases value with
  | none => rfl
  | some value =>
    refine Traced.bind_congr_of_notes h (fun h => ?_) fun _ _ => rfl
    rw [Traced.Notes, Traced.trace_rephrase, List.map_id] at h
    rw [expand_congr h]

end Substitution
end ConfigLayers
