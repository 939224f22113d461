import ConfigLayers.Document.Loader
import ConfigLayers.Proofs.Traced

/-! Loading a document reports on documents alone: it looks up no deprecated name, and all its notices come
from the loader. -/
namespace ConfigLayers
namespace Loader

def IsOwn (e : Event) : Prop :=
  ∃ level text, e = .noticed ⟨level, .loader, text⟩

variable {s : Surroundings} {nested inner : Walker}

theorem notes_included (hi : ∀ base content, (inner base content).Notes IsOwn) (base : Option String)
    (target : String) : (included s inner base target).Notes IsOwn := by
  unfold included
  extract_lets fetchAll
  have hf : ∀ u, (fetchAll u).Notes IsOwn := by
    intro u
    refine Traced.notes_bind (Traced.notes_ofExcept _) fun tried _ =>
      Traced.notes_bind (Traced.notes_ofExcept _) fun found _ => ?_
    rcases found with _ | ⟨r, fetched⟩
    · exact Traced.notes_pure _
    · refine Traced.notes_bind (Traced.notes_ofExcept _) fun root _ => ?_
      cases root with
      | text t => exact Traced.notes_pure _
      | element name attributes content =>
        exact Traced.notes_bind (hi _ _) fun _ _ => Traced.notes_pure _
  split
  · exact Traced.notes_bind (Traced.notes_throw _) fun u _ => hf u
  · exact hf ()

theorem notes_loadNode (hn : ∀ base content, (nested base content).Notes IsOwn)
    (hi : ∀ base content, (inner base content).Notes IsOwn) (base : Option String) (n : Xml.Node) :
    (loadNode s nested inner base n).Notes IsOwn := by
  cases n with
  | text t => exact Traced.notes_pure _
  | element name attributes content =>
    rw [loadNode]
    cases roleOf name with
    | property => exact Traced.notes_pure _
    | configuration => exact hn base content
    | inclusion =>
      refine Traced.notes_bind (notes_included hi _ _) fun found _ => ?_
      cases found with
      | some declared => exact Traced.notes_pure _
      | none =>
        change (loadFallback inner base _ content).Notes IsOwn
        unfold loadFallback
        split
        · exact hi base _
        · exact Traced.notes_throw _
    | fallback => exact Traced.notes_pure _
    | unknown =>
      exact Traced.notes_bind (Traced.notes_note ⟨_, _, rfl⟩) fun _ _ => Traced.notes_pure _

theorem notes_loadNodes (hn : ∀ base content, (nested base content).Notes IsOwn)
    (hi : ∀ base content, (inner base content).Notes IsOwn) (base : Option String) (ns : List Xml.Node) :
    (loadNodes s nested inner base ns).Notes IsOwn := by
  induction ns with
  | nil => exact Traced.notes_pure _
  | cons n rest ih =>
    exact Traced.notes_bind (notes_loadNode hn hi base n) fun _ _ =>
      Traced.notes_bind ih fun _ _ => Traced.notes_pure _

theorem notes_loadContent (calls : Nat) (base : Option String) (content : List Xml.Node) :
    (loadContent s calls base content).Notes IsOwn := by
  induction calls using loadContent.induct generalizing base content with
  | case1 => exact Traced.notes_throw _
  | case2 ih => exact notes_loadNodes ih ih base content
  | case3 calls ihn ihi => exact notes_loadNodes ihn ihi base content

theorem notes_load (s : Surroundings) (r : Resource) : (load s r).Notes IsOwn := by
  refine Traced.notes_bind (Traced.notes_ofExcept _) fun fetched _ =>
    Traced.notes_bind (Traced.notes_ofExcept _) fun root _ => ?_
  cases root with
  | text t => exact Traced.notes_throw _
  | element name attributes content =>
    change (if _ then _ else _ : Outcome (List Declared)).Notes IsOwn
    split
    · exact notes_loadContent _ _ _
    · exact Traced.notes_throw _

end Loader
end ConfigLayers
