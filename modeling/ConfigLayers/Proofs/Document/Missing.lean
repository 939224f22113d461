import ConfigLayers.Proofs.Document.Ending
import ConfigLayers.Proofs.World.Replacing

/-! When a document that is searched for counts as not available: no file is found for its name, the file that is found
cannot be read, or a walk over the document, and over those that are opened inside it, comes to an inclusion that is not
available and has nothing to fall back on. -/
namespace ConfigLayers
namespace Loader

variable {s : Surroundings} {base : Option String} {ns : List Xml.Node} {name : String}

/-- One of the documents that are opened inside one another has an inclusion that the walk comes to, of a target that
is not available, without a fallback. -/
def LacksInclusion (s : Surroundings) (base : Option String) (ns : List Xml.Node) : Prop :=
  ∃ rs last innermost attributes content, Nests s base ns rs last innermost ∧
    Meets s last innermost attributes content ∧ meant s last (targetOf attributes) = .ok none ∧
    firstFallback? content = none

/-- No document is found for a name, or the one that is found cannot be read or lacks an inclusion. -/
def Lacking (s : Surroundings) (name : String) : Prop :=
  s.resolver.findResource s.world.files name = .ok none ∨
    (∃ p fault, s.resolver.findResource s.world.files name = .ok (some p) ∧
      s.world.files.read p = .error (.file fault)) ∨
    ∃ base ns, Holds s (.named name true) base ns ∧ LacksInclusion s base ns

theorem LacksInclusion.walk (h : LacksInclusion s base ns) : ∃ e, Walk s base ns (.error e) := by
  obtain ⟨rs, last, innermost, attributes, content, hn, hm, hmeant, hf⟩ := h
  exact ⟨_, Walk.error_iff_fails.mpr ⟨rs, last, innermost, attributes, content, hn, hm, .inr ⟨hmeant, hf, rfl⟩⟩⟩

theorem lacksInclusion_of_walk {e : Error} (h : Walk s base ns (.error e)) (he : e.kind = .resourceUnavailable) :
    LacksInclusion s base ns := by
  obtain ⟨rs, last, innermost, attributes, content, hn, hm, hmeant | ⟨hmeant, hf, -⟩⟩ := Walk.error_iff_fails.mp h
  · rcases failsAs_meant s last _ e hmeant with hk | ⟨ha, -⟩
    · cases he.symm.trans hk
    · exact (ha.kind_ne he).elim
  · exact ⟨rs, last, innermost, attributes, content, hn, hm, hmeant, hf⟩

theorem lacking_of_fetch {e : Error} (h : (Resource.named name true).fetch s.resolver s.world = .error e)
    (he : e.kind = .resourceUnavailable) : Lacking s name := by
  unfold Resource.fetch at h
  cases hp : s.resolver.findResource s.world.files name with
  | error e' =>
    simp only [hp] at h
    cases h
    exact ((Resolver.failsAs_findResource _ _ _ e hp).kind_ne he).elim
  | ok found =>
    cases found with
    | none => exact .inl hp
    | some p =>
      simp only [hp] at h
      cases hr : s.world.files.read p with
      | ok content => simp [Resource.readFile, hr, bind, Except.bind, pure, Except.pure] at h
      | error fault =>
        cases fault with
        | nul =>
          simp only [Resource.readFile, hr, bind, Except.bind] at h
          cases h
          cases he
        | file fault => exact .inr (.inl ⟨p, fault, hp, hr⟩)

theorem lacking_of_load {e : Error} (h : (load s (.named name true)).value = .error e)
    (he : e.kind = .resourceUnavailable) : Lacking s name := by
  rcases loadWithin_error_cases h with hf | hk | ⟨base, ns, hh, hc⟩
  · exact lacking_of_fetch hf he
  · cases he.symm.trans hk
  · have hw : Walk s base ns (.error e) := by
      refine .of_loadContent hc fun hn => ?_
      cases hn
      cases he
    exact .inr (.inr ⟨base, ns, hh, lacksInclusion_of_walk hw he⟩)

theorem Lacking.load_ne_ok (h : Lacking s name) (ps : List Declared) : (load s (.named name true)).value ≠ .ok ps := by
  intro hl
  have hfetch : ∀ e, (Resource.named name true).fetch s.resolver s.world ≠ .error e := by
    intro e hf
    cases (value_loadWithin_of_unfetched hf).symm.trans hl
  rcases h with hn | ⟨p, fault, hp, hr⟩ | ⟨base, ns, hh, hi⟩
  · exact hfetch (.resourceNotFound name) (by simp only [Resource.fetch, hn])
  · exact hfetch (.unreadableFile p.text fault) (by simp [Resource.fetch, hp, Resource.readFile, hr, bind, Except.bind])
  · obtain ⟨e, hw⟩ := hi.walk
    rw [load, hh.value_loadWithin] at hl
    rcases hw.value_eq_or (s.world.room + 1) with hv | hv <;> cases hv.symm.trans hl

end Loader
end ConfigLayers
