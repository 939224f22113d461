import ConfigLayers.Credential.Scheme
import ConfigLayers.Proofs.Document.Faults
import ConfigLayers.Proofs.World.Replacing

/-! How a provider of secrets may fail to be made or read: as an error about secrets, but for a locator that cannot be
taken apart, and for a file that cannot be looked up, whose bytes are no text, or whose text holds more than can be
read. -/
namespace ConfigLayers

namespace CredentialFile

variable {path : Path} {w : World} {content : Bytes} {e : Error}

/-- A file from which no record is read, though it may hold one. It cannot be looked up, its bytes are no text, or they
hold a number or a nesting beyond the limits. -/
inductive Misread (w : World) (path : Path) : Error → Prop
  | unsearched {fault : FileFault} (h : w.files.isPresent path = .error fault) : Misread w path (.file fault)
  | undecodable {content : Bytes} (hr : w.files.read path = .ok content) (h : Utf8.decode? content = none) :
      Misread w path .undecodableText
  | tooManyDigits {content : Bytes} {text : List Char} (hr : w.files.read path = .ok content)
      (h : Utf8.decode? content = some text) (hj : Json.read w.room text = .error .tooManyDigits) :
      Misread w path .tooManyDigits
  | tooDeep {content : Bytes} {text : List Char} (hr : w.files.read path = .ok content)
      (h : Utf8.decode? content = some text) (hj : Json.read w.room text = .error .tooDeep) :
      Misread w path .valueTooDeep

theorem misread_of_entriesOf {text : List Char} (hr : w.files.read path = .ok content)
    (h : Utf8.decode? content = some text) (ht : entriesOf path w.room text = .error e) (he : e.kind ≠ .credential) :
    Misread w path e := by
  unfold entriesOf at ht
  split at ht
  · cases ht
  · cases ht
    exact absurd rfl he
  · cases ht
    exact absurd rfl he
  · rename_i hj
    cases ht
    exact .tooManyDigits hr h hj
  · rename_i hj
    cases ht
    exact .tooDeep hr h hj

theorem Misread.entriesIn_eq (h : Misread w path e) : entriesIn path w = .error e := by
  cases h with
  | unsearched h => simp only [entriesIn, h]
  | undecodable hr h => simp only [entriesIn, FileTree.isPresent_of_read hr, hr, h]
  | tooManyDigits hr h hj | tooDeep hr h hj =>
    simp only [entriesIn, FileTree.isPresent_of_read hr, hr, h, entriesOf, hj]

theorem entriesIn_eq_error_iff (he : e.kind ≠ .credential) : entriesIn path w = .error e ↔ Misread w path e := by
  refine ⟨fun h => ?_, Misread.entriesIn_eq⟩
  unfold entriesIn at h
  rcases hp : w.files.isPresent path with fault | _ | _ <;> rw [hp] at h <;> dsimp only at h
  · cases h
    exact .unsearched hp
  · cases h
  · rcases hr : w.files.read path with (_ | fault) | content <;> rw [hr] at h <;> dsimp only at h
    · exact absurd hr (FileTree.read_ne_nul hp)
    · cases h
      exact absurd rfl he
    · rcases hd : Utf8.decode? content with _ | text <;> rw [hd] at h <;> dsimp only at h
      · cases h
        exact .undecodable hr hd
      · exact misread_of_entriesOf hr hd h he

theorem load_ofPath (path : Path) (w : World) : ((ofPath path).load w).2 = entriesIn path w := by
  simp only [load, ofPath]
  cases entriesIn path w <;> rfl

end CredentialFile

namespace CredentialSchemes

variable {uri : String} {p : CredentialProvider} {e : Error}

theorem standard_get? {name : String} {scheme : CredentialScheme} (h : standard.schemes.get? name = some scheme) :
    scheme = .file ∨ scheme = .environment := by
  have hs : standard.schemes = (Table.insert ∅ "localjson" .file).insert "env" .environment := rfl
  rw [hs, Table.get?_insert, Table.get?_insert, Table.get?_empty] at h
  split at h
  · exact .inr (Option.some.inj h).symm
  · split at h
    · exact .inl (Option.some.inj h).symm
    · cases h

theorem provider_eq_error_iff (he : e.kind ≠ .credential) :
    standard.provider uri = .error e ↔ e = .malformedUrl ∧ Url.split uri "" = .error .malformedUrl := by
  unfold provider
  cases hu : Url.split uri "" with
  | error e' =>
    cases Url.failsAs_split uri "" e' hu
    simp only [bind, Except.bind, Except.error.injEq, and_true]
    exact eq_comm
  | ok url =>
    simp only [bind, Except.bind, reduceCtorEq, and_false, iff_false]
    intro h
    split at h
    · rename_i scheme hs
      rcases standard_get? hs with rfl | rfl
      · simp only [CredentialScheme.provider, hu, bind, Except.bind] at h
        split at h
        · cases h
        · cases h
          exact he rfl
      · cases h
    · cases h
      exact he rfl

theorem provider_ok (h : standard.provider uri = .ok p) :
    (∃ path, p = .file (.ofPath path)) ∨ ∃ start, p = .environment start := by
  unfold provider at h
  obtain ⟨url, -, h⟩ := exists_of_bind_eq_ok h
  split at h
  · rename_i scheme hs
    rcases standard_get? hs with rfl | rfl
    · obtain ⟨url, -, h⟩ := exists_of_bind_eq_ok h
      split at h
      · cases h
        exact .inl ⟨_, rfl⟩
      · cases h
    · cases h
      exact .inr ⟨_, rfl⟩
  · cases h

end CredentialSchemes

namespace CredentialProvider

variable {w : World} {p : CredentialProvider}

theorem get_get (p : CredentialProvider) (w : World) (first name : String) :
    ((p.get w first).1.get w name).2 = (p.get w name).2 := by
  cases p with
  | file f =>
    simp only [get, CredentialFile.load]
    cases hf : f.entries with
    | some entries => simp only [hf]
    | none =>
      cases he : CredentialFile.entriesIn f.path w with
      | ok entries => rfl
      | error e => simp only [hf, he]
  | environment start => rfl
  | fixed secrets => rfl

end CredentialProvider

end ConfigLayers
