import ConfigLayers.Proofs.Substitution.FixedPoint
import ConfigLayers.Proofs.Traced

/-! Substitution up to different limits. The one with the lower limit does what the other one does, until it is over or
its limit stops it. -/
namespace ConfigLayers
namespace Substitution

variable {lookup : String → Option String} {inner inner' : List Char → Expansion (List Char)}

theorem isCut_replace (hi : ∀ cs, (inner cs).IsCut (inner' cs)) (ps : List Piece) :
    (replace lookup inner ps).IsCut (replace lookup inner' ps) := by
  induction ps with
  | nil => exact .refl _
  | cons p ps ih =>
    cases p with
    | char c => exact ih.bind fun _ => .refl _
    | reference name =>
      refine .bind (.refl _) fun _ => ?_
      cases lookup (String.ofList name) with
      | none => exact ih.bind fun _ => .refl _
      | some raw => exact (hi raw.toList).bind fun _ => ih.bind fun _ => .refl _

theorem isCut_expand {levels levels' : Nat} (h : levels ≤ levels') (text : List Char) :
    (expand lookup levels text).IsCut (expand lookup levels' text) := by
  induction levels generalizing levels' text with
  | zero => exact Traced.isCut_fail _ _
  | succ levels ih =>
    obtain ⟨levels', rfl⟩ := Nat.exists_eq_succ_of_ne_zero (Nat.ne_of_gt (Nat.zero_lt_of_lt h))
    have hl : levels ≤ levels' := Nat.le_of_succ_le_succ h
    rw [expand_succ, expand_succ]
    refine (isCut_replace (fun cs => ih hl cs) (pieces text)).bind fun (result, replaced) => ?_
    dsimp only
    split
    · exact .refl _
    · exact ih hl result

theorem isCut_substitute {limit limit' : Int} (h : limit ≤ limit') (value : Option String)
    (lookup : String → Option String) (name : Option String) :
    (substitute value lookup name limit).IsCut (substitute value lookup name limit') := by
  cases value with
  | none => exact .refl _
  | some value => exact ((isCut_expand (by omega) value.toList).rephrase _ _ _).bind fun _ => .refl _

/-- A larger limit on nesting never changes a result. What a substitution ends in, it ends in with any larger limit, and
by the same lookups; and if the nesting is too deep for the larger limit, it is so for the lower one. Where the lower
limit stops a substitution, the one with the larger limit has begun with the same lookups. -/
theorem larger_limit_keeps_result {limit limit' : Int} (h : limit ≤ limit') (value : Option String)
    (lookup : String → Option String) (name : Option String) :
    (∀ r, (substitute value lookup name limit).value = .ok r →
      (substitute value lookup name limit').value = .ok r ∧
        (substitute value lookup name limit').trace = (substitute value lookup name limit).trace) ∧
    (∀ e, (substitute value lookup name limit').value = .error e → ∃ text, value = some text ∧
      e = .substitutionTooDeep (name.getD text) limit' ∧
      (substitute value lookup name limit).value = .error (.substitutionTooDeep (name.getD text) limit)) ∧
    (substitute value lookup name limit).trace <+: (substitute value lookup name limit').trace := by
  obtain ⟨hnotes, hended⟩ := isCut_substitute h value lookup name
  refine ⟨fun r hr => ?_, fun e he => ?_, hnotes⟩
  · rw [hended r hr]
    exact ⟨hr, rfl⟩
  · obtain ⟨text, rfl, rfl, -⟩ := substitute_eq_error_iff.mp he
    refine ⟨text, rfl, rfl, ?_⟩
    cases hv : (substitute (some text) lookup name limit).value with
    | ok r =>
      rw [hended r hv, hv] at he
      cases he
    | error e =>
      obtain ⟨_, ht, rfl, -⟩ := substitute_eq_error_iff.mp hv
      cases ht
      rfl

/-- A chain of two references that a limit of two leaves room for, and a name that stands for itself. -/
theorem larger_limit_keeps_result_chain :
    let lookup := fun x => if x = "a" then some "x$\x7bb\x7d" else if x = "b" then some "y"
      else if x = "p" then some "$\x7bp\x7d" else none
    (2 : Int) ≤ 7 ∧ (substitute (some "$\x7ba\x7d") lookup none 2).value = .ok (some "xy") ∧
      (substitute (some "$\x7ba\x7d") lookup none 7).value = .ok (some "xy") ∧
      (3 : Int) ≤ 5 ∧ (substitute (some "$\x7bp\x7d") lookup (some "k") 5).value = .error (.substitutionTooDeep "k" 5) ∧
      (substitute (some "$\x7bp\x7d") lookup (some "k") 3).value = .error (.substitutionTooDeep "k" 3) := by
  intro lookup
  have hchain : (substitute (some "$\x7ba\x7d") lookup none 2).value = .ok (some "xy") := by
    rw [substitute_some]
    exact Traced.eq_ok_of_toOption (by decide +kernel)
  have hself : (substitute (some "$\x7bp\x7d") lookup (some "k") 5).value = .error (.substitutionTooDeep "k" 5) := by
    have hnone : (expand lookup 6 "$\x7bp\x7d".toList).value.toOption = none := by decide +kernel
    refine substitute_eq_error_iff.mpr ⟨_, rfl, rfl, fun result hr => ?_⟩
    change (expand lookup 6 "$\x7bp\x7d".toList).value = .ok result at hr
    rw [hr] at hnone
    cases hnone
  obtain ⟨hkept, -, -⟩ := larger_limit_keeps_result (show (2 : Int) ≤ 7 by decide) (some "$\x7ba\x7d") lookup none
  obtain ⟨-, hfails, -⟩ := larger_limit_keeps_result (show (3 : Int) ≤ 5 by decide) (some "$\x7bp\x7d") lookup (some "k")
  obtain ⟨text, ht, -, hlow⟩ := hfails _ hself
  exact ⟨by decide, hchain, (hkept _ hchain).1, by decide, hself, hlow⟩

end Substitution
end ConfigLayers
