import ConfigLayers.Proofs.Failing
import ConfigLayers.World.FileTree
import Mathlib.Data.List.Basic

/-! Files that are written are read back. A walk along a path goes through directories alone, so it comes to the same
place wherever they are kept; writing, replacing and removing a file keeps all of them. -/
namespace ConfigLayers
namespace FileTree

variable {t u : FileTree} {p : Path} {content : Bytes} {place : Place} {steps rest : List String} {name : String}

section Lookup

variable (a b : List String) (nodes : List (List String × FileNode)) (node : FileNode)

theorem lookup_cons_eq : ((b, node) :: nodes).lookup a = if a = b then some node else nodes.lookup a := by
  rw [List.lookup_cons]
  by_cases h : a = b
  · simp [h]
  · simp [h, beq_eq_false_iff_ne.mpr h]

theorem lookup_map_replaced :
    (nodes.map fun e => if e.1 == b then (b, node) else e).lookup a =
      if a = b ∧ (nodes.lookup b).isSome then some node else nodes.lookup a := by
  induction nodes with
  | nil => simp
  | cons e nodes ih =>
    obtain ⟨key, old⟩ := e
    rw [List.map_cons, lookup_cons_eq b key, lookup_cons_eq a key]
    by_cases hk : key = b
    · subst hk
      simp only [beq_self_eq_true, if_true, lookup_cons_eq, ih]
      by_cases ha : a = key <;> simp [ha]
    · have hk' : b ≠ key := fun h => hk h.symm
      rw [if_neg hk', if_neg (fun h => hk (beq_iff_eq.mp h)), lookup_cons_eq, ih]
      by_cases ha : a = key
      · simp [ha, hk]
      · simp [ha]

theorem lookup_filter_ne :
    (nodes.filter fun e => e.1 != b).lookup a = if a = b then none else nodes.lookup a := by
  induction nodes with
  | nil => simp
  | cons e nodes ih =>
    obtain ⟨key, old⟩ := e
    rw [lookup_cons_eq a key, List.filter_cons]
    by_cases hk : key = b
    · subst hk
      simp only [bne_self_eq_false, Bool.false_eq_true, if_false, ih]
      by_cases ha : a = key <;> simp [ha]
    · simp only [bne_iff_ne, ne_eq, hk, not_false_eq_true, if_true, lookup_cons_eq, ih]
      by_cases ha : a = key
      · simp [ha, hk]
      · simp [ha]

end Lookup

theorem node?_of_ne_nil (t : FileTree) (h : steps ≠ []) : t.node? steps = t.nodes.lookup steps := by
  cases steps with
  | nil => exact (h rfl).elim
  | cons first rest => rfl

theorem node?_put (t : FileTree) {other : List String} (h : other ≠ []) (node : FileNode) :
    (t.put steps node).node? other = if other = steps then some node else t.node? other := by
  rw [node?_of_ne_nil _ h, node?_of_ne_nil _ h, put]
  dsimp only
  split
  · rename_i hs
    rw [lookup_map_replaced]
    simp [hs]
  · rename_i hs
    rw [Bool.not_eq_true, Option.isSome_eq_false_iff, Option.isNone_iff_eq_none] at hs
    rw [List.lookup_append, lookup_cons_eq, List.lookup_nil]
    by_cases ho : other = steps <;> simp [ho, hs]

def without (t : FileTree) (steps : List String) : FileTree :=
  { t with nodes := t.nodes.filter fun e => e.1 != steps }

theorem node?_without (t : FileTree) {other : List String} (h : other ≠ []) :
    (t.without steps).node? other = if other = steps then none else t.node? other := by
  rw [node?_of_ne_nil _ h, node?_of_ne_nil _ h, without]
  exact lookup_filter_ne other steps t.nodes

def NoFolder (t : FileTree) (steps : List String) : Prop :=
  ∀ mode, t.node? steps ≠ some (.directory mode)

theorem noFolder_of_file {mode : Nat} (h : t.node? steps = some (.file content mode)) : t.NoFolder steps := by
  intro mode' hd
  cases h.symm.trans hd

/-- All directories of one tree are in the other with the same rights, below the same working directory. -/
structure Keeps (t u : FileTree) : Prop where
  home : u.home = t.home
  directory : ∀ steps mode, t.node? steps = some (.directory mode) → u.node? steps = some (.directory mode)

theorem keeps_put (h : t.NoFolder steps) (node : FileNode) : Keeps t (t.put steps node) := by
  refine ⟨rfl, fun other mode ho => ?_⟩
  by_cases hn : other = []
  · rw [hn] at ho ⊢
    exact ho
  · rw [node?_put t hn, if_neg, ho]
    rintro rfl
    exact h mode ho

theorem keeps_without (h : t.NoFolder steps) : Keeps t (t.without steps) := by
  refine ⟨rfl, fun other mode ho => ?_⟩
  by_cases hn : other = []
  · rw [hn] at ho ⊢
    exact ho
  · rw [node?_without t hn, if_neg, ho]
    rintro rfl
    exact h mode ho

theorem Keeps.nodeAt (h : Keeps t u) {mode : Nat} (hd : t.nodeAt place = some (.directory mode)) :
    u.nodeAt place = some (.directory mode) := by
  cases place with
  | above depth => exact hd
  | inside steps => exact h.directory steps mode hd

def IsSearched (t : FileTree) (place : Place) : Prop :=
  ∃ mode, t.nodeAt place = some (.directory mode) ∧ isSearchable mode = true

theorem isSearched_of_step {next : Place} (h : t.step place name = .ok next) : t.IsSearched place := by
  unfold step at h
  split at h
  · cases h
  · cases h
  · rename_i mode hd
    refine ⟨mode, hd, ?_⟩
    cases hs : isSearchable mode with
    | true => rfl
    | false =>
      rw [hs] at h
      cases h

theorem step_back (h : t.IsSearched place) : t.step place ".." = .ok (t.back place) := by
  obtain ⟨mode, hd, hs⟩ := h
  simp [step, hd, hs]

theorem step_eq_enter (h : t.IsSearched place) (hn : name ≠ "..") : t.step place name = t.enter place name := by
  obtain ⟨mode, hd, hs⟩ := h
  simp [step, hd, hs, hn]

theorem exists_of_enter_above {depth : Nat} {next : Place} (h : t.enter (.above depth) name = .ok next) :
    ∃ depth, next = .above depth := by
  unfold enter at h
  split at h
  · cases h
  · dsimp only at h
    split at h
    · cases h
      exact ⟨_, rfl⟩
    · cases h

theorem enter_inside_eq_ok_iff :
    t.enter (.inside steps) name = .ok place ↔
      Utf8.size name ≤ maxName ∧ (t.node? (steps ++ [name])).isSome = true ∧ place = .inside (steps ++ [name]) := by
  unfold enter
  by_cases hsize : maxName < Utf8.size name
  · simp [hsize, Nat.not_le.mpr hsize]
  · simp only [hsize, if_false, Nat.not_lt.mp hsize, true_and]
    by_cases hn : (t.node? (steps ++ [name])).isSome = true
    · simp [hn, eq_comm]
    · simp [hn]

theorem walk_cons_ok {last : Place} :
    t.walk place (name :: rest) = .ok last ↔ ∃ next, t.step place name = .ok next ∧ t.walk next rest = .ok last := by
  rw [walk]
  cases t.step place name <;> simp

theorem walk_append {before : List String} {middle : Place} (h : t.walk place before = .ok middle)
    (rest : List String) : t.walk place (before ++ rest) = t.walk middle rest := by
  induction before generalizing place with
  | nil =>
    cases h
    rfl
  | cons name before ih =>
    obtain ⟨next, hs, hb⟩ := walk_cons_ok.mp h
    rw [List.cons_append, walk, hs]
    exact ih hb

theorem walk_append_ok {before : List String} {last : Place} :
    t.walk place (before ++ rest) = .ok last ↔
      ∃ middle, t.walk place before = .ok middle ∧ t.walk middle rest = .ok last := by
  induction before generalizing place with
  | nil => simp [walk]
  | cons name before ih =>
    rw [List.cons_append]
    simp only [walk_cons_ok, ih]
    constructor
    · rintro ⟨next, hs, middle, hb, hr⟩
      exact ⟨middle, ⟨next, hs, hb⟩, hr⟩
    · rintro ⟨middle, ⟨next, hs, hb⟩, hr⟩
      exact ⟨next, hs, middle, hb, hr⟩

theorem walk_singleton (t : FileTree) (place : Place) (name : String) : t.walk place [name] = t.step place name := by
  rw [walk]
  cases t.step place name <;> rfl

theorem exists_directory_of_walk {last : Place} {mode : Nat} (h : t.walk place rest = .ok last)
    (hd : t.nodeAt last = some (.directory mode)) : ∃ mode, t.nodeAt place = some (.directory mode) := by
  cases rest with
  | nil =>
    cases h
    exact ⟨mode, hd⟩
  | cons name rest =>
    obtain ⟨next, hs, -⟩ := walk_cons_ok.mp h
    obtain ⟨mode, hd, -⟩ := isSearched_of_step hs
    exact ⟨mode, hd⟩

theorem exists_above_of_walk {depth : Nat} {last : Place} (h : t.walk (.above depth) rest = .ok last) :
    ∃ depth, last = .above depth := by
  induction rest generalizing depth with
  | nil =>
    cases h
    exact ⟨depth, rfl⟩
  | cons name rest ih =>
    obtain ⟨next, hs, hr⟩ := walk_cons_ok.mp h
    have hsearched := isSearched_of_step hs
    by_cases hn : name = ".."
    · subst hn
      rw [step_back hsearched] at hs
      cases hs
      exact ih hr
    · rw [step_eq_enter hsearched hn] at hs
      obtain ⟨deeper, rfl⟩ := exists_of_enter_above hs
      exact ih hr

theorem directory_of_walk {last : List String} (h : t.walk (.inside steps) rest = .ok (.inside last))
    (hs : ∀ n < steps.length, ∃ mode, t.node? (steps.take n) = some (.directory mode)) :
    ∀ n < last.length, ∃ mode, t.node? (last.take n) = some (.directory mode) := by
  induction rest generalizing steps with
  | nil =>
    cases h
    exact hs
  | cons name rest ih =>
    obtain ⟨next, hn, hr⟩ := walk_cons_ok.mp h
    have hsearched := isSearched_of_step hn
    by_cases hname : name = ".."
    · subst hname
      rw [step_back hsearched] at hn
      cases hn
      cases steps with
      | nil =>
        obtain ⟨depth, hl⟩ := exists_above_of_walk hr
        cases hl
      | cons first others =>
        refine ih hr fun n hlt => ?_
        rw [List.length_dropLast] at hlt
        rw [List.dropLast_eq_take, List.take_take, Nat.min_eq_left (Nat.le_of_lt hlt)]
        exact hs n (by omega)
    · rw [step_eq_enter hsearched hname] at hn
      obtain ⟨-, -, rfl⟩ := enter_inside_eq_ok_iff.mp hn
      refine ih hr fun n hlt => ?_
      rw [List.length_append, List.length_singleton] at hlt
      rw [List.take_append_of_le_length (by omega)]
      by_cases hl : n = steps.length
      · obtain ⟨mode, hd, -⟩ := hsearched
        exact ⟨mode, by rw [hl, List.take_length]; exact hd⟩
      · exact hs n (by omega)

section Keeps

variable (h : Keeps t u)
include h

theorem Keeps.isSearched (hs : t.IsSearched place) : u.IsSearched place := by
  obtain ⟨mode, hd, hs⟩ := hs
  exact ⟨mode, h.nodeAt hd, hs⟩

theorem Keeps.step {next : Place} {mode : Nat} (hs : t.step place name = .ok next)
    (hd : t.nodeAt next = some (.directory mode)) : u.step place name = .ok next := by
  have hp := isSearched_of_step hs
  by_cases hn : name = ".."
  · subst hn
    rw [step_back hp] at hs
    rw [step_back (h.isSearched hp), ← hs]
    rcases place with depth | _ | ⟨first, rest⟩
    · rfl
    · rw [back, back, h.home]
    · rfl
  · rw [step_eq_enter hp hn] at hs
    rw [step_eq_enter (h.isSearched hp) hn]
    cases place with
    | above depth =>
      rw [enter, h.home]
      exact hs
    | inside steps =>
      obtain ⟨hsize, -, rfl⟩ := enter_inside_eq_ok_iff.mp hs
      refine enter_inside_eq_ok_iff.mpr ⟨hsize, ?_, rfl⟩
      rw [h.directory _ mode hd, Option.isSome_some]

theorem Keeps.walk {last : Place} {mode : Nat} (hw : t.walk place rest = .ok last)
    (hd : t.nodeAt last = some (.directory mode)) : u.walk place rest = .ok last := by
  induction rest generalizing place with
  | nil => exact hw
  | cons name rest ih =>
    obtain ⟨next, hs, hr⟩ := walk_cons_ok.mp hw
    obtain ⟨mode', hd'⟩ := exists_directory_of_walk hr hd
    exact walk_cons_ok.mpr ⟨next, h.step hs hd', ih hr⟩

end Keeps

/-- Where a path starts, next to where its folder does: both inside the working directory, or the folder above it. -/
theorem start_cases (t : FileTree) (root : String) (init : List String) :
    (∃ before, t.start ⟨root, init⟩ = (.inside [], before) ∧
      ∀ name, t.start ⟨root, init ++ [name]⟩ = (.inside [], before ++ [name])) ∨
    (t.start ⟨root, init⟩ = (.above 0, init) ∧ ∀ name, t.start ⟨root, init ++ [name]⟩ = (.inside [], []) ∨
      t.start ⟨root, init ++ [name]⟩ = (.above 0, init ++ [name])) := by
  by_cases hroot : (⟨root, init⟩ : Path).isAbsolute = true
  · have hroot' : ∀ steps, (⟨root, steps⟩ : Path).isAbsolute = true := fun _ => hroot
    by_cases hp : t.home.steps <+: init
    · refine .inl ⟨init.drop t.home.steps.length, ?_, fun name => ?_⟩
      · simp [start, hroot', hp]
      · have hp' : t.home.steps <+: init ++ [name] := hp.trans (List.prefix_append _ _)
        simp [start, hroot', hp', List.drop_append_of_le_length hp.length_le]
    · refine .inr ⟨by simp [start, hroot', hp], fun name => ?_⟩
      by_cases hp' : t.home.steps <+: init ++ [name]
      · have heq : t.home.steps = init ++ [name] := (List.prefix_concat_iff.mp hp').resolve_right hp
        exact .inl (by simp [start, hroot', heq])
      · exact .inr (by simp [start, hroot', hp'])
  · have hroot' : ∀ steps, (⟨root, steps⟩ : Path).isAbsolute = false := fun _ => Bool.not_eq_true _ ▸ hroot
    exact .inl ⟨init, by simp [start, hroot'], fun name => by simp [start, hroot']⟩

theorem locate_of_refusal? {fault : Fault} (h : refusal? p = some fault) : t.locate p = .error fault := by
  rw [locate, h]

theorem locate_eq (h : refusal? p = none) : t.locate p = (t.walk (t.start p).1 (t.start p).2).mapError .file := by
  rw [locate, h]

theorem locate_eq_ok_iff : t.locate p = .ok place ↔
    refusal? p = none ∧ t.walk (t.start p).1 (t.start p).2 = .ok place := by
  cases hr : refusal? p with
  | some fault => simp [locate_of_refusal? hr]
  | none =>
    rw [locate_eq hr]
    cases t.walk (t.start p).1 (t.start p).2 <;> simp [Except.mapError]

theorem refusal?_eq {fault : Fault} (h : refusal? p = some fault) : fault = .nul ∨ fault = .file .nameTooLong := by
  unfold refusal? at h
  split at h
  · exact .inl (Option.some.inj h).symm
  · split at h
    · exact .inr (Option.some.inj h).symm
    · cases h

/-- The paths of some steps and one name more lead into a directory inside the working directory. -/
structure LeadsInto (t : FileTree) (root : String) (init before folder : List String) (mode : Nat) : Prop where
  start : ∀ name, t.start ⟨root, init ++ [name]⟩ = (.inside [], before ++ [name])
  walk : t.walk (.inside []) before = .ok (.inside folder)
  directory : t.node? folder = some (.directory mode)

section LeadsInto

variable {root : String} {init before folder : List String} {mode : Nat}

theorem Keeps.leadsInto (h : Keeps t u) (hl : t.LeadsInto root init before folder mode) :
    u.LeadsInto root init before folder mode where
  start name := by
    rw [← hl.start name, FileTree.start, FileTree.start, h.home]
  walk := h.walk hl.walk hl.directory
  directory := h.directory folder mode hl.directory

theorem LeadsInto.isSearched (h : t.LeadsInto root init before folder mode) (hm : isSearchable mode = true) :
    t.IsSearched (.inside folder) :=
  ⟨mode, h.directory, hm⟩

theorem LeadsInto.locate_eq (h : t.LeadsInto root init before folder mode)
    (hr : refusal? ⟨root, init ++ [name]⟩ = none) :
    t.locate ⟨root, init ++ [name]⟩ = (t.step (.inside folder) name).mapError .file := by
  rw [FileTree.locate_eq hr, h.start name]
  dsimp only
  rw [walk_append h.walk, walk_singleton]

theorem LeadsInto.locate_eq_ok_iff (h : t.LeadsInto root init before folder mode) :
    t.locate ⟨root, init ++ [name]⟩ = .ok place ↔
      refusal? ⟨root, init ++ [name]⟩ = none ∧ t.step (.inside folder) name = .ok place := by
  cases hr : refusal? ⟨root, init ++ [name]⟩ with
  | some fault => simp [locate_of_refusal? hr]
  | none =>
    rw [h.locate_eq hr]
    cases t.step (.inside folder) name <;> simp [Except.mapError]

theorem exists_leadsInto (h : t.locate ⟨root, init⟩ = .ok (.inside folder))
    (hd : t.node? folder = some (.directory mode)) : ∃ before, t.LeadsInto root init before folder mode := by
  obtain ⟨-, hw⟩ := FileTree.locate_eq_ok_iff.mp h
  rcases start_cases t root init with ⟨before, hs, hnames⟩ | ⟨hs, -⟩
  · rw [hs] at hw
    exact ⟨before, hnames, hw, hd⟩
  · rw [hs] at hw
    obtain ⟨depth, ha⟩ := exists_above_of_walk hw
    cases ha

theorem eq_nil_of_locate_above {depth : Nat} (h : t.locate ⟨root, init⟩ = .ok (.above depth))
    (hp : t.locate ⟨root, init ++ [name]⟩ = .ok (.inside steps)) : steps = [] := by
  obtain ⟨-, hw⟩ := FileTree.locate_eq_ok_iff.mp h
  obtain ⟨-, hc⟩ := FileTree.locate_eq_ok_iff.mp hp
  rcases start_cases t root init with ⟨before, hs, hnames⟩ | ⟨-, hnames⟩
  · rw [hs] at hw
    rw [hnames name] at hc
    obtain ⟨middle, hm, hc⟩ := walk_append_ok.mp hc
    cases hw.symm.trans hm
    obtain ⟨depth, ha⟩ := exists_above_of_walk hc
    cases ha
  · rcases hnames name with hs | hs
    · rw [hs] at hc
      cases hc
      rfl
    · rw [hs] at hc
      obtain ⟨depth, ha⟩ := exists_above_of_walk hc
      cases ha

theorem LeadsInto.locate_name_eq_ok_iff (h : t.LeadsInto root init before folder mode) (hname : name ≠ "..") :
    t.locate ⟨root, init ++ [name]⟩ = .ok place ↔
      (refusal? ⟨root, init ++ [name]⟩ = none ∧ isSearchable mode = true ∧ Utf8.size name ≤ maxName) ∧
        (t.node? (folder ++ [name])).isSome = true ∧ place = .inside (folder ++ [name]) := by
  rw [h.locate_eq_ok_iff, and_assoc]
  refine and_congr_right fun _ => ?_
  constructor
  · intro hs
    have hsearched := isSearched_of_step hs
    rw [step_eq_enter hsearched hname] at hs
    obtain ⟨hsize, hn⟩ := enter_inside_eq_ok_iff.mp hs
    obtain ⟨mode', hd, hmode⟩ := hsearched
    cases h.directory.symm.trans hd
    exact ⟨⟨hmode, hsize⟩, hn⟩
  · rintro ⟨⟨hmode, hsize⟩, hn⟩
    rw [step_eq_enter (h.isSearched hmode) hname]
    exact enter_inside_eq_ok_iff.mpr ⟨hsize, hn⟩

theorem LeadsInto.node?_of_missing (h : t.LeadsInto root init before folder mode) (hname : name ≠ "..")
    (hp : t.locate ⟨root, init ++ [name]⟩ = .error (.file .missing)) : t.node? (folder ++ [name]) = none := by
  cases hr : refusal? ⟨root, init ++ [name]⟩ with
  | some fault =>
    rw [locate_of_refusal? hr] at hp
    cases hp
    rcases refusal?_eq hr with hf | hf <;> cases hf
  | none =>
    rw [h.locate_eq hr] at hp
    cases hm : isSearchable mode with
    | false =>
      have hdenied : t.step (.inside folder) name = .error .denied := by
        simp [step, nodeAt, h.directory, hm]
      rw [hdenied] at hp
      cases hp
    | true =>
      rw [step_eq_enter (h.isSearched hm) hname, enter] at hp
      split at hp
      · cases hp
      · split at hp
        · cases hp
        · rename_i hn
          rwa [Option.not_isSome_iff_eq_none] at hn

end LeadsInto

/-- What is written replaces a file that is there, or is a new one in a directory. -/
theorem write_cases {root : String} {init : List String} (h : t.write ⟨root, init ++ [name]⟩ content = .ok u) :
    name ≠ ".." ∧ ∃ place folderMode, t.locate ⟨root, init⟩ = .ok place ∧
      t.nodeAt place = some (.directory folderMode) ∧
      ((∃ steps old mode, t.locate ⟨root, init ++ [name]⟩ = .ok (.inside steps) ∧
          t.node? steps = some (.file old mode) ∧ u = t.put steps (.file content mode)) ∨
        ∃ folder, place = .inside folder ∧ t.locate ⟨root, init ++ [name]⟩ = .error (.file .missing) ∧
          u = t.put (folder ++ [name]) (.file content standardMode)) := by
  unfold write at h
  rw [List.getLast?_concat] at h
  split at h
  · cases h
  · obtain ⟨place, -, h⟩ := exists_of_bind_eq_ok h
    cases h
  · rename_i hup hl
    cases hl
    have hparent : (⟨root, init ++ [name]⟩ : Path).parent = ⟨root, init⟩ := by
      rw [Path.parent, List.dropLast_concat]
    rw [hparent] at h
    obtain ⟨place, hf, h⟩ := exists_of_bind_eq_ok h
    split at h
    · rename_i folderMode hd
      refine ⟨hup, place, folderMode, hf, hd, ?_⟩
      split at h
      · rename_i steps hp
        split at h
        · rename_i old mode hn
          split at h
          · cases h
            exact .inl ⟨steps, old, mode, hp, hn, rfl⟩
          · cases h
        · cases h
      · cases h
      · rename_i hp
        split at h
        · rename_i folder
          split at h
          · cases h
            exact .inr ⟨folder, rfl, hp, rfl⟩
          · cases h
        · cases h
      · cases h
    · cases h
    · cases h

theorem write_ok {root : String} {init : List String} (h : t.write ⟨root, init ++ [name]⟩ content = .ok u) :
    name ≠ ".." ∧ ∃ before folder folderMode mode, t.LeadsInto root init before folder folderMode ∧
      t.NoFolder (folder ++ [name]) ∧ u = t.put (folder ++ [name]) (.file content mode) := by
  obtain ⟨hup, place, folderMode, hf, hd, ⟨steps, old, mode, hp, hn, rfl⟩ | ⟨folder, rfl, hp, rfl⟩⟩ := write_cases h
  · cases place with
    | above depth =>
      cases eq_nil_of_locate_above hf hp
      cases hn
    | inside folder =>
      obtain ⟨before, hl⟩ := exists_leadsInto hf hd
      obtain ⟨-, -, hs⟩ := (hl.locate_name_eq_ok_iff hup).mp hp
      cases hs
      exact ⟨hup, before, folder, folderMode, mode, hl, noFolder_of_file hn, rfl⟩
  · obtain ⟨before, hl⟩ := exists_leadsInto hf hd
    refine ⟨hup, before, folder, folderMode, standardMode, hl, fun mode hn => ?_, rfl⟩
    cases (hl.node?_of_missing hup hp).symm.trans hn

theorem remove_ok (h : t.remove p = .ok u) :
    ∃ steps, t.locate p = .ok (.inside steps) ∧ t.NoFolder steps ∧ u = t.without steps := by
  obtain ⟨place, hp, h⟩ := exists_of_bind_eq_ok h
  split at h
  · rename_i steps
    split at h
    · rename_i content mode hn
      split at h
      · cases h
        exact ⟨steps, hp, noFolder_of_file hn, rfl⟩
      · cases h
    · cases h
  · cases h

theorem directory_of_walk_back {before last : List String}
    (h : t.walk (.inside []) (before ++ [".."]) = .ok (.inside last)) :
    ∃ mode, t.node? last = some (.directory mode) := by
  obtain ⟨middle, hm, hb⟩ := walk_append_ok.mp h
  rw [walk_singleton] at hb
  rw [step_back (isSearched_of_step hb)] at hb
  rcases middle with depth | _ | ⟨first, others⟩
  · cases hb
  · cases hb
  · cases hb
    have hall := directory_of_walk hm fun n hn => absurd hn (Nat.not_lt_zero n)
    rw [List.dropLast_eq_take]
    exact hall _ (by simp)

theorem last_ne_back_of_remove {root : String} {init : List String} (h : t.remove ⟨root, init ++ [name]⟩ = .ok u) :
    name ≠ ".." := by
  rintro rfl
  obtain ⟨steps, hp, hn, -⟩ := remove_ok h
  obtain ⟨-, hw⟩ := locate_eq_ok_iff.mp hp
  rcases start_cases t root init with ⟨before, -, hnames⟩ | ⟨-, hnames⟩
  · rw [hnames] at hw
    obtain ⟨mode, hd⟩ := directory_of_walk_back hw
    exact hn mode hd
  · rcases hnames ".." with hs | hs
    · rw [hs] at hw
      cases hw
      exact hn folderMode rfl
    · rw [hs] at hw
      obtain ⟨depth, ha⟩ := exists_above_of_walk hw
      cases ha

theorem read_eq_ok_iff :
    t.read p = .ok content ↔ ∃ place mode, t.locate p = .ok place ∧ t.nodeAt place = some (.file content mode) ∧
      isReadable mode = true := by
  unfold read
  constructor
  · intro h
    obtain ⟨place, hp, h⟩ := exists_of_bind_eq_ok h
    split at h
    · rename_i mode hn
      split at h
      · rename_i hr
        cases h
        exact ⟨place, mode, hp, hn, hr⟩
      · cases h
    · cases h
    · cases h
  · rintro ⟨place, mode, hp, hn, hr⟩
    simp only [hp, bind, Except.bind, hn, hr, if_true]
    rfl

theorem isPresent_of_read (h : t.read p = .ok content) : t.isPresent p = .ok true := by
  obtain ⟨place, mode, hp, hn, -⟩ := read_eq_ok_iff.mp h
  simp [isPresent, find?, hp, hn, Except.map]

theorem read_ne_nul (h : t.isPresent p = .ok true) : t.read p ≠ .error .nul := by
  intro hr
  unfold isPresent find? at h
  unfold read at hr
  cases hp : t.locate p with
  | error fault =>
    simp only [hp, bind, Except.bind, Except.error.injEq] at hr
    subst hr
    simp [hp, Except.map] at h
  | ok place =>
    simp only [hp, bind, Except.bind] at hr
    split at hr
    · split at hr <;> cases hr
    · cases hr
    · cases hr

/-- A file that is put where a path leads to is read there, if it may be. -/
theorem LeadsInto.read_put {root : String} {init before folder : List String} {folderMode mode : Nat}
    (h : t.LeadsInto root init before folder folderMode) (hname : name ≠ "..")
    (hp : refusal? ⟨root, init ++ [name]⟩ = none ∧ isSearchable folderMode = true ∧ Utf8.size name ≤ maxName)
    (hn : t.NoFolder (folder ++ [name])) (hr : isReadable mode = true) :
    (t.put (folder ++ [name]) (.file content mode)).read ⟨root, init ++ [name]⟩ = .ok content := by
  have hnode : (t.put (folder ++ [name]) (.file content mode)).node? (folder ++ [name]) =
      some (.file content mode) := by
    rw [node?_put t (by simp), if_pos rfl]
  have hin := (keeps_put hn (.file content mode)).leadsInto h
  have hp := (hin.locate_name_eq_ok_iff hname).mpr ⟨hp, by rw [hnode, Option.isSome_some], rfl⟩
  exact read_eq_ok_iff.mpr ⟨_, mode, hp, hnode, hr⟩

/-- Once what was at a path is removed, as far as it could be found, no directory is there. -/
theorem LeadsInto.noFolder_of_cleared {root : String} {init before folder : List String} {mode : Nat}
    (h : t.LeadsInto root init before folder mode)
    (hp : refusal? ⟨root, init ++ [name]⟩ = none ∧ isSearchable mode = true ∧ Utf8.size name ≤ maxName)
    (hr : ∀ place, t.locate ⟨root, init ++ [name]⟩ = .ok place → t.remove ⟨root, init ++ [name]⟩ = .ok u) :
    name ≠ ".." ∧ t.NoFolder (folder ++ [name]) := by
  have hname : name ≠ ".." := by
    intro hup
    subst hup
    have hs : t.step (.inside folder) ".." = .ok _ := step_back (h.isSearched hp.2.1)
    exact last_ne_back_of_remove (hr _ (h.locate_eq_ok_iff.mpr ⟨hp.1, hs⟩)) rfl
  refine ⟨hname, fun mode' hd => ?_⟩
  have hl := (h.locate_name_eq_ok_iff hname).mpr ⟨hp, by rw [hd, Option.isSome_some], rfl⟩
  obtain ⟨steps, hsteps, hn, -⟩ := remove_ok (hr _ hl)
  cases hl.symm.trans hsteps
  exact hn mode' hd

theorem size_append (s t : String) : Utf8.size (s ++ t) = Utf8.size s + Utf8.size t := by
  simp [Utf8.size, Utf8.encode]

theorem join_extended (init : List String) (name ending : String) :
    Text.join "/" (init ++ [name ++ ending]) = Text.join "/" (init ++ [name]) ++ ending := by
  induction init with
  | nil => rfl
  | cons first init ih =>
    have hcons : ∀ last : String, Text.join "/" (first :: (init ++ [last])) =
        first ++ "/" ++ Text.join "/" (init ++ [last]) := by
      intro last
      cases init <;> rfl
    rw [List.cons_append, List.cons_append, hcons, hcons, ih]
    exact String.append_assoc.symm

theorem refusal?_of_extended {root : String} {init : List String} {ending : String}
    (h : refusal? ⟨root, init ++ [name ++ ending]⟩ = none) : refusal? ⟨root, init ++ [name]⟩ = none := by
  have htext : ∀ last : String, (⟨root, init ++ [last]⟩ : Path).text = root ++ Text.join "/" (init ++ [last]) := by
    simp [Path.text]
  have hnul : holdsNul ⟨root, init ++ [name ++ ending]⟩ = false → holdsNul ⟨root, init ++ [name]⟩ = false := by
    simp only [holdsNul, List.any_append, List.any_cons, List.any_nil, Bool.or_false, Bool.or_eq_false_iff,
      String.toList_append, List.contains_append]
    exact fun h => ⟨h.1, h.2.1⟩
  unfold refusal? at h ⊢
  rw [htext, join_extended, ← String.append_assoc, size_append] at h
  rw [htext]
  split at h
  · cases h
  · rename_i hn
    rw [hnul (Bool.not_eq_true _ ▸ hn)]
    split at h
    · cases h
    · rename_i hs
      rw [if_neg (by simp), if_neg (by omega)]

/-- A file that is written and removed again leaves a path that leads into its folder. -/
theorem leadsInto_of_draft {root draft : String} {init : List String} {drafted : FileTree}
    (hw : t.write ⟨root, init ++ [draft]⟩ content = .ok drafted)
    (hl : drafted.locate ⟨root, init ++ [draft]⟩ = .ok place)
    (hr : drafted.remove ⟨root, init ++ [draft]⟩ = .ok u) :
    ∃ before folder mode, u.LeadsInto root init before folder mode ∧
      (refusal? ⟨root, init ++ [draft]⟩ = none ∧ isSearchable mode = true ∧ Utf8.size draft ≤ maxName) ∧
      place = .inside (folder ++ [draft]) := by
  obtain ⟨hup, before, folder, folderMode, mode, hin, hn, rfl⟩ := write_ok hw
  have hin := (keeps_put hn (.file content mode)).leadsInto hin
  obtain ⟨hp, -, hplace⟩ := (hin.locate_name_eq_ok_iff hup).mp hl
  obtain ⟨steps, -, hn, hu⟩ := remove_ok hr
  subst hu
  exact ⟨before, folder, folderMode, (keeps_without hn).leadsInto hin, hp, hplace⟩

theorem read_of_replacePrivately (h : t.replacePrivately p content = .ok u) : u.read p = .ok content := by
  obtain ⟨root, steps⟩ := p
  unfold replacePrivately at h
  obtain ⟨made, -, h⟩ := exists_of_bind_eq_ok h
  obtain ⟨drafted, hw, h⟩ := exists_of_bind_eq_ok h
  obtain ⟨place, hl, h⟩ := exists_of_bind_eq_ok h
  obtain ⟨free, hr, h⟩ := exists_of_bind_eq_ok h
  rcases List.eq_nil_or_concat' steps with rfl | ⟨init, name, rfl⟩
  · cases hw
  have hdraft : (⟨root, init ++ [name]⟩ : Path).extend ".tmp" = ⟨root, init ++ [name ++ ".tmp"]⟩ := by
    simp [Path.extend]
  rw [hdraft] at hw hl hr
  obtain ⟨before, folder, mode, hin, ⟨hrefusal, hsearch, hsize⟩, rfl⟩ := leadsInto_of_draft hw hl hr
  rw [size_append] at hsize
  have hp : refusal? ⟨root, init ++ [name]⟩ = none ∧ isSearchable mode = true ∧ Utf8.size name ≤ maxName :=
    ⟨refusal?_of_extended hrefusal, hsearch, Nat.le_trans (Nat.le_add_right _ _) hsize⟩
  simp only [List.dropLast_concat, List.getLast?_concat, Option.getD_some] at h
  split at h
  · obtain ⟨cleared, hc, h⟩ := exists_of_bind_eq_ok h
    cases h
    obtain ⟨hname, hn⟩ := hin.noFolder_of_cleared hp fun _ _ => hc
    obtain ⟨steps, -, hs, rfl⟩ := remove_ok hc
    refine ((keeps_without hs).leadsInto hin).read_put hname hp (fun mode' => ?_) rfl
    rw [node?_without free (by simp)]
    split
    · simp
    · exact hn mode'
  · rename_i fault hf
    cases h
    have hfree : ∀ place, free.locate ⟨root, init ++ [name]⟩ = .ok place →
        free.remove ⟨root, init ++ [name]⟩ = .ok free := by
      intro place hok
      cases hf.symm.trans hok
    obtain ⟨hname, hn⟩ := hin.noFolder_of_cleared hp hfree
    exact hin.read_put hname hp hn rfl

end FileTree
end ConfigLayers
