import ConfigLayers.Credential.Provider
import ConfigLayers.Proofs.Json.Reread
import ConfigLayers.Proofs.World.Replacing

/-! A file of secrets against a map with two states, what callers see and what is saved. Reading is put off, changes
wait for a flush, and only a flush touches the file; none of this is seen from outside. -/
namespace ConfigLayers

/-- What a caller asks of a provider. -/
inductive SecretRequest where
  | get (name : String)
  | names
  | create (name secret : String)
  | delete (name : String)
  | flush
  deriving DecidableEq

inductive SecretAnswer where
  | secret (secret : Option String)
  | names (names : List String)
  | done
  deriving DecidableEq

/-- A provider in its world with the answers that it has given. -/
structure Served where
  provider : CredentialProvider
  world : World
  answers : List (Except Error SecretAnswer)

namespace CredentialProvider

def respond (p : CredentialProvider) (w : World) :
    SecretRequest → CredentialProvider × World × Except Error SecretAnswer
  | .get name => ((p.get w name).1, w, (p.get w name).2.map .secret)
  | .names => ((p.names w).1, w, (p.names w).2.map .names)
  | .create name secret => ((p.create w name secret).1, w, (p.create w name secret).2.map fun _ => .done)
  | .delete name => ((p.delete w name).1, w, (p.delete w name).2.map fun _ => .done)
  | .flush => ((p.flush w).1, (p.flush w).2.1, (p.flush w).2.2.map fun _ => .done)

def serve (p : CredentialProvider) (w : World) : List SecretRequest → Served
  | [] => ⟨p, w, []⟩
  | request :: rest =>
    let r := p.respond w request
    let served := r.1.serve r.2.1 rest
    { served with answers := r.2.2 :: served.answers }

/-- All files can be written that are to be written while the requests are served. -/
def canFlush (p : CredentialProvider) (w : World) : List SecretRequest → Bool
  | [] => true
  | request :: rest =>
    let r := p.respond w request
    (request != .flush || r.2.2.isOk) && r.1.canFlush r.2.1 rest

end CredentialProvider

/-- Entries that callers see, and those that are saved. -/
structure Ledger where
  entries : Table String
  saved : Table String
  isChanged : Bool

namespace Ledger

def ofSaved (saved : Table String) : Ledger :=
  ⟨saved, saved, false⟩

/-- The map of the secrets kept at a path. -/
def respond (path : Path) (l : Ledger) : SecretRequest → Ledger × Except Error SecretAnswer
  | .get name => (l, .ok (.secret (l.entries.get? name)))
  | .names => (l, .ok (.names l.entries.keys))
  | .create name secret =>
    if l.entries.contains name then (l, .error (.credentialExists name path.text))
    else ({ l with entries := l.entries.insert name secret, isChanged := true }, .ok .done)
  | .delete name =>
    if l.entries.contains name then ({ l with entries := l.entries.erase name, isChanged := true }, .ok .done)
    else (l, .error (.credentialMissing name path.text))
  | .flush => ({ l with saved := l.entries, isChanged := false }, .ok .done)

def serve (path : Path) (l : Ledger) : List SecretRequest → Ledger × List (Except Error SecretAnswer)
  | [] => (l, [])
  | request :: rest =>
    let (l, answer) := l.respond path request
    let (l, answers) := l.serve path rest
    (l, answer :: answers)

variable {path : Path} {l : Ledger}

theorem respond_of_error {request : SecretRequest} {e : Error} (h : (l.respond path request).2 = .error e) :
    (l.respond path request).1 = l := by
  cases request with
  | get name => rfl
  | names => rfl
  | create name secret =>
    simp only [respond] at h ⊢
    split at h
    · rename_i hc
      rw [if_pos hc]
    · cases h
  | delete name =>
    simp only [respond] at h ⊢
    split at h
    · cases h
    · rename_i hc
      rw [if_neg hc]
  | flush => cases h

theorem serve_append (before later : List SecretRequest) :
    (l.serve path (before ++ later)).1 = ((l.serve path before).1.serve path later).1 := by
  induction before generalizing l with
  | nil => rfl
  | cons request before ih => exact ih

end Ledger

namespace CredentialFile

variable {path : Path} {w : World} {files : FileTree} {f : CredentialFile} {t : Table String}

/-- There is no file at a path and the table is empty, or the file holds one record of texts, the table's entries. -/
def Holds (w : World) (path : Path) (t : Table String) : Prop :=
  (w.files.isPresent path = .ok false ∧ t = ∅) ∨
    ∃ content text, w.files.read path = .ok content ∧ Utf8.decode? content = some text ∧
      Json.read w.room text = .ok (.record (t.entries.map fun e => (e.1, .text e.2)))

theorem map_plain_text (entries : List (String × String)) :
    (entries.map fun e => (e.1, Json.text e.2)).map (fun (key, v) => (key, v.plain)) = entries := by
  rw [List.map_map]
  exact List.map_id _

theorem entriesIn_of_holds (h : Holds w path t) : entriesIn path w = .ok t := by
  rcases h with ⟨hp, rfl⟩ | ⟨content, text, hr, hd, hj⟩
  · rw [entriesIn, hp]
  · have hp := FileTree.isPresent_of_read hr
    simp only [entriesIn, hp, hr, hd, entriesOf, hj, map_plain_text, Table.ofList_entries]

theorem holds_written (h : w.files.replacePrivately path (written t) = .ok files) : Holds { w with files } path t :=
  .inr ⟨written t, (Json.textLines t.entries).toList, FileTree.read_of_replacePrivately h, Utf8.decode?_encode _,
    Json.read_textLines t.nodup w.room⟩

def awaitsFlush (f : CredentialFile) : Bool :=
  f.isDirty && f.entries.isSome

theorem flush_of_not_awaitsFlush (h : f.awaitsFlush = false) : f.flush files = (f, files, .ok ()) := by
  obtain ⟨place, entries, isDirty⟩ := f
  cases isDirty <;> cases entries <;> first | rfl | cases h

/-- A file of secrets and a ledger that tell the same. -/
structure Follows (f : CredentialFile) (w : World) (place : Path) (l : Ledger) : Prop where
  path : f.path = place
  saved : Holds w place l.saved
  changed : f.isDirty = l.isChanged
  /-- Until the entries have been read nothing is changed. -/
  entries : f.entries = some l.entries ∨ f.entries = none ∧ l.isChanged = false
  unchanged : l.isChanged = false → l.entries = l.saved

section Follows

variable {l : Ledger} (h : Follows f w path l)
include h

theorem Follows.load : f.load w = ({ f with entries := some l.entries }, .ok l.entries) := by
  obtain ⟨place, entries, isDirty⟩ := f
  obtain ⟨hp, hs, -, he, hu⟩ := h
  rcases he with he | ⟨he, hc⟩
  · cases he
    rfl
  · cases he
    cases hp
    have hin := entriesIn_of_holds hs
    rw [← hu hc] at hin
    simp only [CredentialFile.load, hin]

theorem Follows.read : Follows { f with entries := some l.entries } w path l :=
  { h with entries := .inl rfl }

theorem Follows.awaitsFlush_eq : f.awaitsFlush = l.isChanged := by
  rw [awaitsFlush, h.changed]
  rcases h.entries with he | ⟨-, hc⟩
  · rw [he, Option.isSome_some, Bool.and_true]
  · rw [hc, Bool.false_and]

theorem Follows.changeTo (t : Table String) :
    Follows { f with entries := some t, isDirty := true } w path { l with entries := t, isChanged := true } where
  path := h.path
  saved := h.saved
  changed := rfl
  entries := .inl rfl
  unchanged hc := nomatch hc

theorem Follows.create (name secret : String) :
    ∃ f', f.create w name secret = (f', (l.respond path (.create name secret)).2.map fun _ => ()) ∧
      Follows f' w path (l.respond path (.create name secret)).1 := by
  obtain rfl := h.path
  simp only [CredentialFile.create, h.load, Ledger.respond]
  by_cases hc : l.entries.contains name = true
  · simp only [hc, if_true]
    exact ⟨_, rfl, h.read⟩
  · simp only [hc, Bool.false_eq_true, if_false]
    exact ⟨_, rfl, h.changeTo _⟩

theorem Follows.delete (name : String) :
    ∃ f', f.delete w name = (f', (l.respond path (.delete name)).2.map fun _ => ()) ∧
      Follows f' w path (l.respond path (.delete name)).1 := by
  obtain rfl := h.path
  simp only [CredentialFile.delete, h.load, Ledger.respond]
  by_cases hc : l.entries.contains name = true
  · simp only [hc, if_true]
    exact ⟨_, rfl, h.changeTo _⟩
  · simp only [hc, Bool.false_eq_true, if_false]
    exact ⟨_, rfl, h.read⟩

theorem Follows.settle {w' : World} (hs : Holds w' path l.entries) :
    Follows { f with isDirty := false } w' path { l with saved := l.entries, isChanged := false } where
  path := h.path
  saved := hs
  changed := rfl
  entries := h.entries.imp_right fun he => ⟨he.1, rfl⟩
  unchanged _ := rfl

theorem Follows.flush (hf : (f.flush w.files).2.2.isOk = true) :
    ∃ f' files, f.flush w.files = (f', files, .ok ()) ∧
      Follows f' { w with files } path (l.respond path .flush).1 := by
  cases ha : f.awaitsFlush with
  | false =>
    have hl : l.isChanged = false := h.awaitsFlush_eq ▸ ha
    have hs : Holds w path l.entries := (h.unchanged hl).symm ▸ h.saved
    have hd : { f with isDirty := false } = f := by
      rw [← hl, ← h.changed]
    exact ⟨f, w.files, flush_of_not_awaitsFlush ha, hd ▸ h.settle hs⟩
  | true =>
    obtain ⟨hd, he⟩ := Bool.and_eq_true_iff.mp ha
    have he : f.entries = some l.entries := h.entries.resolve_right fun hn => by simp [hn.1] at he
    obtain rfl := h.path
    simp only [CredentialFile.flush, hd, he] at hf ⊢
    cases hr : w.files.replacePrivately f.path (written l.entries) with
    | ok files => exact ⟨_, files, rfl, he ▸ h.settle (holds_written hr)⟩
    | error fault =>
      rw [hr] at hf
      cases fault <;> cases hf

end Follows

theorem follows_ofPath (h : Holds w path t) : Follows (ofPath path) w path (.ofSaved t) where
  path := rfl
  saved := h
  changed := rfl
  entries := .inr ⟨rfl, rfl⟩
  unchanged _ := rfl

end CredentialFile

namespace CredentialProvider

open CredentialFile

variable {path : Path} {w : World} {f : CredentialFile} {l : Ledger} {requests : List SecretRequest}

theorem respond_of_follows (h : Follows f w path l) (request : SecretRequest)
    (hf : request = .flush → ((file f).respond w request).2.2.isOk = true) :
    ∃ f' w', (file f).respond w request = (file f', w', (l.respond path request).2) ∧
      Follows f' w' path (l.respond path request).1 := by
  cases request with
  | get name =>
    refine ⟨_, w, ?_, h.read⟩
    simp only [respond, get, h.load]
    rfl
  | names =>
    refine ⟨_, w, ?_, h.read⟩
    simp only [respond, names, h.load]
    rfl
  | create name secret =>
    obtain ⟨f', hr, h'⟩ := h.create name secret
    refine ⟨f', w, ?_, h'⟩
    simp only [respond, create, hr, Ledger.respond]
    split <;> rfl
  | delete name =>
    obtain ⟨f', hr, h'⟩ := h.delete name
    refine ⟨f', w, ?_, h'⟩
    simp only [respond, delete, hr, Ledger.respond]
    split <;> rfl
  | flush =>
    have hok : (f.flush w.files).2.2.isOk = true := by
      have hf := hf rfl
      simp only [respond, flush] at hf
      cases hr : (f.flush w.files).2.2 with
      | ok => rfl
      | error e =>
        rw [hr] at hf
        cases hf
    obtain ⟨f', files', hr, h'⟩ := h.flush hok
    refine ⟨f', { w with files := files' }, ?_, h'⟩
    simp only [respond, flush, hr]
    rfl

theorem serve_of_follows (h : Follows f w path l) (hc : (file f).canFlush w requests = true) :
    ((file f).serve w requests).answers = (l.serve path requests).2 ∧
      ∃ f', ((file f).serve w requests).provider = file f' ∧
        Follows f' ((file f).serve w requests).world path (l.serve path requests).1 := by
  induction requests generalizing f w l with
  | nil => exact ⟨rfl, f, rfl, h⟩
  | cons request rest ih =>
    rw [canFlush, Bool.and_eq_true] at hc
    obtain ⟨hf, hrest⟩ := hc
    have hf : request = .flush → ((file f).respond w request).2.2.isOk = true := by
      rintro rfl
      exact hf
    obtain ⟨f', w', hr, h'⟩ := respond_of_follows h request hf
    rw [hr] at hrest
    obtain ⟨hanswers, hserved⟩ := ih h' hrest
    simp only [serve, Ledger.serve, hr, hanswers]
    exact ⟨trivial, hserved⟩

theorem world_respond {request : SecretRequest} (p : CredentialProvider) (w : World) (h : request ≠ .flush) :
    (p.respond w request).2.1 = w := by
  cases request with
  | flush => exact absurd rfl h
  | _ => rfl

theorem world_serve (p : CredentialProvider) (w : World) (h : .flush ∉ requests) :
    (p.serve w requests).world = w := by
  induction requests generalizing p with
  | nil => rfl
  | cons request rest ih =>
    obtain ⟨hr, hrest⟩ := not_or.mp (fun hm => h (List.mem_cons.mpr hm))
    rw [serve, world_respond p w fun he => hr he.symm]
    exact ih _ hrest

theorem world_serve_append (p : CredentialProvider) (w : World) (before later : List SecretRequest) :
    (p.serve w (before ++ later)).world =
      ((p.serve w before).provider.serve (p.serve w before).world later).world := by
  induction before generalizing p w with
  | nil => rfl
  | cons request before ih => exact ih _ _

def awaitsFlush : CredentialProvider → Bool
  | file f => f.awaitsFlush
  | _ => false

/-- What can be seen of a provider is what a ledger says. -/
structure Mirrors (p : CredentialProvider) (w : World) (path : Path) (l : Ledger) : Prop where
  names : (p.names w).2 = .ok l.entries.keys
  get : ∀ name, (p.get w name).2 = .ok (l.entries.get? name)
  create_fails : ∀ name secret, (p.create w name secret).2.isOk = false ↔ name ∈ l.entries.keys
  delete_fails : ∀ name, (p.delete w name).2.isOk = false ↔ name ∉ l.entries.keys
  awaitsFlush : p.awaitsFlush = l.isChanged
  /-- A provider that is new at the path has what is saved. -/
  fresh : ((CredentialFile.ofPath path).load w).2 = .ok l.saved

theorem mirrors_of_follows (h : Follows f w path l) : Mirrors (file f) w path l where
  names := by
    simp only [names, h.load]
    rfl
  get name := by
    simp only [get, h.load]
    rfl
  create_fails name secret := by
    obtain ⟨f', hr, -⟩ := h.create name secret
    simp only [create, hr, Ledger.respond, ← Table.contains_iff]
    cases l.entries.contains name <;> simp [Except.map, Except.isOk, Except.toBool]
  delete_fails name := by
    obtain ⟨f', hr, -⟩ := h.delete name
    simp only [delete, hr, Ledger.respond, ← Table.contains_iff]
    cases l.entries.contains name <;> simp [Except.map, Except.isOk, Except.toBool]
  awaitsFlush := h.awaitsFlush_eq
  fresh := by
    rw [(follows_ofPath h.saved).load]
    rfl

/-- A provider of the secrets in a file is a map that starts with the file's record. A request that fails changes
nothing that can be seen, the world stays as it is between flushes, and after one the file has all entries. -/
theorem serve_eq_ledger {saved : Table String} (hs : Holds w path saved)
    (hc : (file (.ofPath path)).canFlush w requests = true) :
    let served := (file (.ofPath path)).serve w requests
    let ledger := (Ledger.ofSaved saved).serve path requests
    served.answers = ledger.2 ∧ Mirrors served.provider served.world path ledger.1 ∧
      (∀ request e, request ≠ .flush → (served.provider.respond served.world request).2.2 = .error e →
        Mirrors (served.provider.respond served.world request).1 served.world path ledger.1) ∧
      (requests.getLast? = some .flush → ledger.1.saved = ledger.1.entries) ∧
      ∀ before later, requests = before ++ later → .flush ∉ later →
        served.world = ((file (.ofPath path)).serve w before).world := by
  intro served ledger
  obtain ⟨hanswers, f, hp, hf⟩ := serve_of_follows (follows_ofPath hs) hc
  refine ⟨hanswers, hp ▸ mirrors_of_follows hf, ?_, ?_, ?_⟩
  · intro request e hn he
    have hp : served.provider = file f := hp
    rw [hp] at he ⊢
    obtain ⟨f', w', hr, h'⟩ := respond_of_follows hf request fun hflush => absurd hflush hn
    have hw : w' = served.world := by
      rw [← world_respond (file f) served.world hn, hr]
    subst hw
    rw [hr] at he ⊢
    exact mirrors_of_follows (Ledger.respond_of_error he ▸ h')
  · intro hlast
    obtain ⟨before, rfl⟩ := List.getLast?_eq_some_iff.mp hlast
    have hl : ledger.1 = _ := Ledger.serve_append before [.flush]
    rw [hl]
    rfl
  · rintro before later rfl hn
    exact (world_serve_append _ w before later).trans (world_serve _ _ hn)

theorem serve_eq_ledger_at_file :
    let path := Path.parse "keys.json"
    let text := (Json.textLines [("a", "1"), ("b", "2")]).toList
    let w : World := ⟨⟨⟨"/", ["srv"]⟩, [(["keys.json"], .file (Utf8.encode text) 0o644)]⟩, ∅, ∅, 0⟩
    let requests : List SecretRequest := [.create "a" "3", .delete "a", .create "a" "3", .flush, .names]
    Holds w path (.ofList [("a", "1"), ("b", "2")]) ∧ (file (.ofPath path)).canFlush w requests = true ∧
      ((file (.ofPath path)).serve w requests).answers =
        [.error (.credentialExists "a" "keys.json"), .ok .done, .ok .done, .ok .done, .ok (.names ["b", "a"])] := by
  intro path text w requests
  have hs : Holds w path (.ofList [("a", "1"), ("b", "2")]) := by
    have hr : w.files.read path = .ok (Utf8.encode text) := by decide +kernel
    exact .inr ⟨_, text, hr, Utf8.decode?_encode text, Json.read_textLines (by decide) 0⟩
  have hc : (file (.ofPath path)).canFlush w requests = true := by decide +kernel
  refine ⟨hs, hc, ?_⟩
  rw [(serve_eq_ledger hs hc).1]
  rfl

end CredentialProvider
end ConfigLayers
