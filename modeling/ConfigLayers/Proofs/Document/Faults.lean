import ConfigLayers.Proofs.Document.Inclusion
import ConfigLayers.Proofs.World.Replacing

/-! How finding a document may fail. It is not available or cannot be parsed; anything else is for an address that
is no locator, a path that no file can have, or a name that the file system refuses to look up. -/
namespace ConfigLayers

namespace Error

/-- A document that cannot be opened or cannot be parsed. -/
def IsOfDocument (e : Error) : Prop :=
  e.kind = .resourceUnavailable ∨ e.kind = .documentParse

/-- An address that is no locator, a path with a character that no path can have, or a name that is not looked up:
it is too long, or is in a directory that may not be searched. -/
def IsOfAddress (e : Error) : Prop :=
  e = .malformedUrl ∨ e = .nulInPath ∨ e = .file .denied ∨ e = .file .nameTooLong

theorem IsOfAddress.kind_ne {e : Error} (h : e.IsOfAddress) : e.kind ≠ .resourceUnavailable := by
  rcases h with rfl | rfl | rfl | rfl <;> decide

theorem IsOfAddress.ne_nestingTooDeep {e : Error} (h : e.IsOfAddress) : e ≠ .nestingTooDeep := by
  rcases h with rfl | rfl | rfl | rfl <;> simp

end Error

namespace FileTree

variable {t : FileTree} {place : Place} {fault : FileFault}

theorem step_eq_error {name : String} (h : t.step place name = .error fault) :
    fault = .missing ∨ fault = .notDirectory ∨ fault = .denied ∨ fault = .nameTooLong := by
  unfold step enter at h
  split at h
  · cases h
    exact .inl rfl
  · cases h
    exact .inr (.inl rfl)
  · split at h
    · cases h
      exact .inr (.inr (.inl rfl))
    · split at h
      · cases h
      · split at h
        · cases h
          exact .inr (.inr (.inr rfl))
        · split at h <;> split at h <;> cases h <;> exact .inl rfl

theorem walk_eq_error {steps : List String} (h : t.walk place steps = .error fault) :
    fault = .missing ∨ fault = .notDirectory ∨ fault = .denied ∨ fault = .nameTooLong := by
  induction steps generalizing place with
  | nil => cases h
  | cons name rest ih =>
    rw [walk] at h
    split at h
    · exact ih h
    · rename_i fault' hs
      cases h
      exact step_eq_error hs

theorem isFile_eq_error {p : Path} (h : t.isFile p = .error fault) : fault = .denied ∨ fault = .nameTooLong := by
  unfold isFile find? at h
  split at h
  · cases h
  · cases h
  · rename_i fault' hl
    split at h
    · cases h
    · rename_i hne
      cases h
      unfold locate at hl
      split at hl
      · rename_i refused hr
        cases hl
        rcases refusal?_eq hr with hn | hn <;> cases hn
        exact .inr rfl
      · dsimp only at hl
        cases hw : t.walk (t.start p).1 (t.start p).2 with
        | ok place =>
          rw [hw] at hl
          cases hl
        | error fault =>
          rw [hw] at hl
          cases hl
          rcases walk_eq_error hw with hf | hf | hf
          · exact (hne (.inl hf)).elim
          · exact (hne (.inr hf)).elim
          · exact hf

end FileTree

theorem Resolver.failsAs_findResource (resolver : Resolver) (files : FileTree) (name : String) :
    FailsAs Error.IsOfAddress (resolver.findResource files name) := by
  have hfirst : ∀ paths, FailsAs Error.IsOfAddress (firstFile files paths) := by
    intro paths
    induction paths with
    | nil => exact failsAs_ok _
    | cons p rest ih =>
      unfold firstFile
      split
      · exact failsAs_ok _
      · exact ih
      · rename_i fault hf
        rcases FileTree.isFile_eq_error hf with rfl | rfl
        · exact failsAs_error (.inr (.inr (.inl rfl)))
        · exact failsAs_error (.inr (.inr (.inr rfl)))
  cases resolver with
  | search directories => exact hfirst _
  | fixed types => exact failsAs_ok _

theorem Url.failsAs_split (s scheme : String) : FailsAs (· = .malformedUrl) (Url.split s scheme) := by
  unfold Url.split
  dsimp only
  split
  · split
    · exact failsAs_error rfl
    · exact failsAs_ok _
  · split
    · exact failsAs_error rfl
    · exact failsAs_ok _

theorem Url.failsAs_join (base reference : String) : FailsAs (· = .malformedUrl) (Url.join base reference) := by
  unfold Url.join
  split
  · exact failsAs_ok _
  · split
    · exact failsAs_ok _
    · refine (failsAs_split _ _).bind fun b _ => (failsAs_split _ _).bind fun r _ => ?_
      split
      · exact failsAs_ok _
      · split
        · exact failsAs_ok _
        · dsimp only
          split
          · exact failsAs_ok _
          · exact failsAs_ok _

namespace Resource

theorem failsAs_ofUri (uri : String) : FailsAs (· = .malformedUrl) (ofUri uri) :=
  (Url.failsAs_split _ _).bind fun _ _ => failsAs_ok _

theorem failsAs_readFile (files : FileTree) (p : Path) :
    FailsAs (fun e => e.kind = .resourceUnavailable ∨ e.IsOfAddress) (readFile files p) := by
  unfold readFile
  split
  · exact failsAs_ok _
  · exact failsAs_error (.inr (.inr (.inl rfl)))
  · exact failsAs_error (.inl rfl)

theorem failsAs_fetch (r : Resource) (resolver : Resolver) (w : World) :
    FailsAs (fun e => e.kind = .resourceUnavailable ∨ e.IsOfAddress) (r.fetch resolver w) := by
  have hfile : ∀ p, FailsAs (fun e => e.kind = .resourceUnavailable ∨ e.IsOfAddress)
      (do return ⟨← readFile w.files p, some p.text, none⟩ : Except Error Fetched) :=
    fun p => (failsAs_readFile w.files p).bind fun _ _ => failsAs_ok _
  cases r with
  | file p => exact hfile p
  | uri u scheme =>
    rw [fetch]
    split
    · refine FailsAs.bind ?_ fun p _ => hfile p
      exact ((Url.failsAs_split u "").bind fun _ _ => failsAs_ok _).mono fun e he => .inr (.inl he)
    · split
      · split
        · exact failsAs_ok _
        · exact failsAs_error (.inl rfl)
      · exact failsAs_error (.inl rfl)
  | named name isDefault =>
    rw [fetch]
    split
    · rename_i e he
      exact failsAs_error (.inr (Resolver.failsAs_findResource _ _ _ e he))
    · exact failsAs_error (.inl rfl)
    · exact hfile _
  | stream stream name =>
    cases stream with
    | bytes content => exact failsAs_ok _
    | text content => exact failsAs_ok _
    | closed => exact failsAs_error (.inl rfl)

end Resource

namespace Loader

variable {s : Surroundings} {base : Option String} {target : String}

theorem failsAs_candidates (home : Path) (target : String) (base : Option String) :
    FailsAs (· = .malformedUrl) (candidates home target base) := by
  unfold candidates
  split
  · exact (Resource.failsAs_ofUri _).bind fun _ _ => failsAs_ok _
  · split
    · exact failsAs_ok _
    · dsimp only
      split
      · exact failsAs_ok _
      · exact failsAs_ok _
      · split
        · exact (Url.failsAs_join _ _).bind fun _ _ => (Resource.failsAs_ofUri _).bind fun _ _ => failsAs_ok _
        · exact failsAs_ok _

theorem exists_of_firstFetched_eq_error {tried : List Resource} {e : Error} (h : firstFetched s tried = .error e) :
    ∃ r ∈ tried, r.fetch s.resolver s.world = .error e ∧ e.kind ≠ .resourceUnavailable := by
  induction tried with
  | nil => cases h
  | cons r rest ih =>
    unfold firstFetched at h
    split at h
    · cases h
    · rename_i e' he
      split at h
      · obtain ⟨q, hq, hf, hk⟩ := ih h
        exact ⟨q, List.mem_cons_of_mem _ hq, hf, hk⟩
      · rename_i hk
        cases h
        exact ⟨r, List.mem_cons_self, he, fun hn => hk (beq_iff_eq.mpr hn)⟩

/-- A target with an address at fault: it has no candidates, or one of them cannot be asked for. -/
def Misaddressed (s : Surroundings) (base : Option String) (target : String) (e : Error) : Prop :=
  e.IsOfAddress ∧ (candidates s.world.files.home target base = .error e ∨
    ∃ tried, candidates s.world.files.home target base = .ok tried ∧
      ∃ r ∈ tried, r.fetch s.resolver s.world = .error e)

theorem failsAs_tree (s : Surroundings) (label : String) (fetched : Fetched) :
    FailsAs (·.kind = .documentParse) (tree s label fetched) := by
  unfold tree
  split
  · exact failsAs_ok _
  · exact failsAs_error rfl

theorem failsAs_meant (s : Surroundings) (base : Option String) (target : String) :
    FailsAs (fun e => e.kind = .documentParse ∨ Misaddressed s base target e) (meant s base target) := by
  unfold meant
  split
  · exact failsAs_error (.inl rfl)
  · split
    · rename_i e he
      exact failsAs_error (.inr ⟨.inl (failsAs_candidates _ _ _ e he), .inl he⟩)
    · rename_i tried hc
      split
      · rename_i e he
        obtain ⟨r, hr, hf, hk⟩ := exists_of_firstFetched_eq_error he
        have ha : e.IsOfAddress := (Resource.failsAs_fetch r _ _ e hf).resolve_left hk
        exact failsAs_error (.inr ⟨ha, .inr ⟨tried, hc, r, hr, hf⟩⟩)
      · exact failsAs_ok _
      · rename_i r fetched _
        exact ((failsAs_tree s _ _).mono fun _ he => .inl he).bind fun _ _ => failsAs_ok _

end Loader
end ConfigLayers
