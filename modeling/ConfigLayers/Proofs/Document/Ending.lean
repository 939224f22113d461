import ConfigLayers.Proofs.Document.Nesting
import Mathlib.Data.List.Perm.Subperm
import Mathlib.Data.Nat.Find

/-! Loading ends. There are only so many files and pages that a document can be in, so only so many can be opened
inside one another without one of them being opened in itself. One that is, is opened again and again. -/
namespace ConfigLayers
namespace Loader

variable {s : Surroundings} {base : Option String} {ns : List Xml.Node}

/-- Where a document is: in a file, given by the steps to it from the working directory, or on the web. -/
inductive Site where
  | file (steps : List String)
  | page (url : String)
  deriving DecidableEq

def sites (w : World) : List Site :=
  w.files.nodes.map (fun node => .file node.1) ++ w.web.keys.map .page

def fileSite? (files : FileTree) (p : Path) : Option Site :=
  match files.locate p with
  | .ok (.inside steps) => some (.file steps)
  | _ => none

/-- Where the document of a resource is, if it is anywhere. Several paths may lead to one file. -/
def siteOf? (s : Surroundings) : Resource → Option Site
  | .file p => fileSite? s.world.files p
  | .uri uri scheme =>
    if scheme == "file" then (Resource.uriPath uri).toOption.bind (fileSite? s.world.files) else some (.page uri)
  | .named name _ => (s.resolver.findResource s.world.files name).toOption.join.bind (fileSite? s.world.files)
  | .stream .. => none

theorem exists_mem_nodes {files : FileTree} {place : FileTree.Place} {content : Bytes} {mode : Nat}
    (h : files.nodeAt place = some (.file content mode)) :
    ∃ steps, place = .inside steps ∧ ∃ node ∈ files.nodes, node.1 = steps := by
  cases place with
  | above depth => cases h
  | inside steps =>
    cases steps with
    | nil => cases h
    | cons first rest =>
      obtain ⟨before, after, he, -⟩ := List.lookup_eq_some_iff.mp h
      exact ⟨_, rfl, (first :: rest, .file content mode), by simp [he], rfl⟩

theorem exists_fileSite {files : FileTree} {p : Path} {content : Bytes} (h : Resource.readFile files p = .ok content) :
    ∃ node ∈ files.nodes, fileSite? files p = some (.file node.1) := by
  unfold Resource.readFile at h
  split at h
  · rename_i found hread
    obtain ⟨place, mode, hl, hn, -⟩ := FileTree.read_eq_ok_iff.mp hread
    obtain ⟨steps, rfl, node, hm, rfl⟩ := exists_mem_nodes hn
    exact ⟨node, hm, by rw [fileSite?, hl]⟩
  · cases h
  · cases h

theorem page_mem_sites {w : World} {url : String} {content : Bytes} (h : w.get url = .ok content) :
    .page url ∈ sites w := by
  refine List.mem_append_right _ (List.mem_map_of_mem ?_)
  rw [← Table.contains_iff, Table.contains]
  unfold World.get at h
  split at h
  · cases h
  · rename_i answer ha
    rw [ha]
    rfl

theorem exists_site {r : Resource} {fetched : Fetched} (hr : r.isReloadable = true)
    (h : r.fetch s.resolver s.world = .ok fetched) : ∃ site ∈ sites s.world, siteOf? s r = some site := by
  have hfile : ∀ p, (do return ⟨← Resource.readFile s.world.files p, some p.text, none⟩) = Except.ok fetched →
      ∃ site ∈ sites s.world, fileSite? s.world.files p = some site := by
    intro p hp
    obtain ⟨content, hc, -⟩ := exists_of_bind_eq_ok hp
    obtain ⟨node, hn, hs⟩ := exists_fileSite hc
    exact ⟨_, List.mem_append_left _ (List.mem_map_of_mem hn), hs⟩
  cases r with
  | file p => exact hfile p h
  | uri uri scheme =>
    rw [Resource.fetch] at h
    rw [siteOf?]
    split at h
    · rename_i hs
      obtain ⟨p, hu, hp⟩ := exists_of_bind_eq_ok h
      rw [if_pos hs, hu]
      exact hfile p hp
    · rename_i hs
      rw [if_neg hs]
      split at h
      · split at h
        · rename_i content hw
          exact ⟨_, page_mem_sites hw, rfl⟩
        · cases h
      · cases h
  | named name isDefault =>
    rw [Resource.fetch] at h
    rw [siteOf?]
    split at h
    · cases h
    · cases h
    · rename_i p hf
      rw [hf]
      exact hfile p h
  | stream stream name => cases hr

theorem isReloadable_of_candidates {home : Path} {target : String} {tried : List Resource}
    (h : candidates home target base = .ok tried) : ∀ r ∈ tried, r.isReloadable = true := by
  have huri : ∀ uri r, Resource.ofUri uri = .ok r → r.isReloadable = true := by
    intro uri r hu
    obtain ⟨url, -, hr⟩ := exists_of_bind_eq_ok hu
    cases hr
    rfl
  have hsingle : ∀ r : Resource, r.isReloadable = true → ∀ q ∈ [r], q.isReloadable = true := by
    intro r hr
    exact List.forall_mem_singleton.mpr hr
  unfold candidates at h
  split at h
  · obtain ⟨r, hr, h⟩ := exists_of_bind_eq_ok h
    cases h
    exact hsingle r (huri _ r hr)
  · split at h
    · cases h
      exact hsingle _ rfl
    · dsimp only at h
      split at h
      · cases h
        exact hsingle _ rfl
      · cases h
        exact hsingle _ rfl
      · split at h
        · obtain ⟨uri, -, h⟩ := exists_of_bind_eq_ok h
          obtain ⟨near, hn, h⟩ := exists_of_bind_eq_ok h
          cases h
          exact List.forall_mem_cons.mpr ⟨huri _ near hn, hsingle _ rfl⟩
        · cases h
          exact List.forall_mem_cons.mpr ⟨rfl, hsingle _ rfl⟩

theorem Opens.exists_site {r : Resource} {fetched : Fetched} {included : List Xml.Node}
    (h : Opens s base ns r fetched included) : ∃ site ∈ sites s.world, siteOf? s r = some site := by
  obtain ⟨as, inside, -, -, ⟨tried, hc, hf⟩, -⟩ := h
  obtain ⟨before, after, rfl, -, hfetch⟩ := firstFetched_eq_some_iff.mp hf
  exact Loader.exists_site (isReloadable_of_candidates hc r (by simp)) hfetch

/-- Of the documents that are opened inside one another, starting from some content, none is in the same place as
another one. -/
def OpensNoneInItself (s : Surroundings) (base : Option String) (ns : List Xml.Node) : Prop :=
  ∀ rs last innermost, Nests s base ns rs last innermost → (rs.map (siteOf? s)).Nodup

theorem Nests.siteOf?_mem {rs : List Resource} {last : Option String} {innermost : List Xml.Node}
    (h : Nests s base ns rs last innermost) : ∀ site ∈ rs.map (siteOf? s), site ∈ (sites s.world).map some := by
  induction h with
  | nil => exact fun _ hs => (List.not_mem_nil hs).elim
  | cons ho _ ih =>
    obtain ⟨site, hm, hs⟩ := ho.exists_site
    exact List.forall_mem_cons.mpr ⟨hs ▸ List.mem_map_of_mem hm, ih⟩

theorem Nests.length_le (hn : OpensNoneInItself s base ns) {rs : List Resource} {last : Option String}
    {innermost : List Xml.Node} (h : Nests s base ns rs last innermost) : rs.length ≤ (sites s.world).length := by
  have hl := (List.subperm_of_subset (hn rs last innermost h) h.siteOf?_mem).length_le
  rwa [List.length_map, List.length_map] at hl

theorem exists_walk_of_opensNoneInItself (hn : OpensNoneInItself s base ns) : ∃ x, Walk s base ns x :=
  exists_walk_iff.mpr ⟨_, fun _ _ _ h => h.length_le hn⟩

theorem value_loadContent_of_loop {rs qs : List Resource} {last : Option String} {innermost : List Xml.Node}
    (h : Nests s base ns rs last innermost) (hl : Nests s last innermost qs last innermost) (hq : qs ≠ [])
    (calls : Nat) : (loadContent s calls base ns).value = .error .nestingTooDeep := by
  obtain ⟨rs, b, ms, hn, rfl⟩ := h.exists_of_loop hl hq calls
  exact hn.tooDeep (Nat.le_mul_of_pos_left _ (by decide))

theorem Walk.exists_least {x : Walked} (h : Walk s base ns x) :
    ∃ least, ∀ room, (loadContent s (room + 1) base ns).value = if room < least then .error .nestingTooDeep else x := by
  classical
  have hroom : ∃ room, (loadContent s (room + 1) base ns).value = x := by
    obtain ⟨calls, hc⟩ := h.eventually
    exact ⟨calls, hc _ (Nat.le_succ calls)⟩
  refine ⟨Nat.find hroom, fun room => ?_⟩
  split
  · rename_i hlt
    exact (h.value_eq_or (room + 1)).resolve_left (Nat.find_min hroom hlt)
  · rename_i hle
    have hfound := Nat.find_spec hroom
    refine (below_loadContent s ?_ base ns fun hn => h.1 (hfound.symm.trans hn)).trans hfound
    omega

/-- The document of a resource is a configuration with some content, which is walked from a base. -/
def Holds (s : Surroundings) (r : Resource) (base : Option String) (ns : List Xml.Node) : Prop :=
  ∃ fetched attributes, r.fetch s.resolver s.world = .ok fetched ∧ fetched.base = base ∧
    tree s r.sourceName fetched = .ok (.element (Xml.Name.plain "configuration") attributes ns)

theorem Holds.value_loadWithin {r : Resource} (h : Holds s r base ns) (room : Nat) :
    (loadWithin s room r).value = (loadContent s (room + 1) base ns).value := by
  obtain ⟨fetched, attributes, hf, rfl, ht⟩ := h
  exact Loader.value_loadWithin hf ht

theorem loadWithin_error_cases {room : Nat} {r : Resource} {e : Error} (h : (loadWithin s room r).value = .error e) :
    r.fetch s.resolver s.world = .error e ∨ e.kind = .documentParse ∨
      ∃ base ns, Holds s r base ns ∧ (loadContent s (room + 1) base ns).value = .error e := by
  cases hf : r.fetch s.resolver s.world with
  | error e' =>
    cases (value_loadWithin_of_unfetched hf).symm.trans h
    exact .inl rfl
  | ok fetched =>
    refine .inr ?_
    cases ht : tree s r.sourceName fetched with
    | error e' =>
      cases (value_loadWithin_of_malformed hf ht).symm.trans h
      exact .inl (failsAs_tree s _ _ e ht)
    | ok root =>
      obtain ⟨name, attributes, ns, rfl⟩ := exists_root_of_tree ht
      by_cases hn : name = Xml.Name.plain "configuration"
      · obtain rfl := hn
        have hh : Holds s r fetched.base ns := ⟨fetched, attributes, hf, rfl, ht⟩
        exact .inr ⟨fetched.base, ns, hh, (hh.value_loadWithin room).symm.trans h⟩
      · cases (value_loadWithin_of_wrongRoot hf ht hn).symm.trans h
        exact .inl rfl

/-- Somewhere in the documents that are opened inside one another a target has an address at fault. -/
def MisaddressedIn (s : Surroundings) (base : Option String) (ns : List Xml.Node) (e : Error) : Prop :=
  ∃ rs last innermost attributes content, Nests s base ns rs last innermost ∧
    Meets s last innermost attributes content ∧ Misaddressed s last (targetOf attributes) e

theorem Walk.error_cases {e : Error} (h : Walk s base ns (.error e)) : e.IsOfDocument ∨ MisaddressedIn s base ns e := by
  obtain ⟨rs, last, innermost, as, inside, hn, hm, hf⟩ := Walk.error_iff_fails.mp h
  exact hf.cases.imp_right fun ha => ⟨rs, last, innermost, as, inside, hn, hm, ha⟩

/-- The text of a document with only an inclusion of a target. -/
def includingText (target : String) : String :=
  "<configuration><i:include xmlns:i='http://www.w3.org/2001/XInclude' href='" ++ target ++ "'/></configuration>"

/-- Content that is one inclusion of a target. -/
def onlyIncluding (target : String) : List Xml.Node :=
  [.element ⟨inclusionSpace, "include"⟩ [(.plain "href", target)] []]

/-- A directory with a document that includes an empty one, and one that includes itself. -/
def selfIncluding : Surroundings :=
  let document (text : String) : FileNode := .file (Utf8.encode text.toList) FileTree.standardMode
  ⟨.fixed ∅, ⟨⟨Path.parse "/", [(["a.xml"], document (includingText "b.xml")), (["b.xml"], document "<configuration/>"),
    (["c.xml"], document (includingText "c.xml"))]⟩, ∅, ∅, 2⟩⟩

theorem holds_selfIncluding :
    Holds selfIncluding (.file (Path.parse "/c.xml")) (some "/c.xml") (onlyIncluding "c.xml") :=
  ⟨⟨Utf8.encode (includingText "c.xml").toList, some "/c.xml", none⟩, [], Traced.eq_ok_of_toOption (by decide +kernel),
    rfl, Traced.eq_ok_of_toOption (by decide +kernel)⟩

theorem holds_including :
    Holds selfIncluding (.file (Path.parse "/a.xml")) (some "/a.xml") (onlyIncluding "b.xml") :=
  ⟨⟨Utf8.encode (includingText "b.xml").toList, some "/a.xml", none⟩, [], Traced.eq_ok_of_toOption (by decide +kernel),
    rfl, Traced.eq_ok_of_toOption (by decide +kernel)⟩

theorem meant_including : meant selfIncluding (some "/a.xml") (targetOf [(.plain "href", "b.xml")]) = .ok (some
    (⟨Utf8.encode "<configuration/>".toList, some "/b.xml", none⟩, .element (.plain "configuration") [] [])) :=
  Traced.eq_ok_of_toOption (by decide +kernel)

theorem opensNoneInItself_including : OpensNoneInItself selfIncluding (some "/a.xml") (onlyIncluding "b.xml") := by
  intro rs last innermost hn
  cases hn with
  | nil => exact List.nodup_nil
  | cons ho hn =>
    obtain ⟨rfl, rfl⟩ := ho.eq_of_inclusion rfl meant_including
    cases hn with
    | nil => exact List.pairwise_singleton _ _
    | cons ho hn =>
      obtain ⟨_, _, hm, -⟩ := ho
      cases hm

theorem nests_including :
    ∃ r, Nests selfIncluding (some "/a.xml") (onlyIncluding "b.xml") [r] (some "/b.xml") [] := by
  obtain ⟨r, hr⟩ := exists_means meant_including
  exact ⟨r, .cons ⟨_, _, .here _ _ [] rfl, hr⟩ (.nil _ _)⟩

theorem nests_selfIncluding :
    ∃ r, Nests selfIncluding (some "/c.xml") (onlyIncluding "c.xml") [r] (some "/c.xml") (onlyIncluding "c.xml") := by
  obtain ⟨fetched, attributes, hf, hb, ht⟩ := holds_selfIncluding
  have hm : meant selfIncluding (some "/c.xml") (targetOf [(.plain "href", "c.xml")]) =
      .ok (some (fetched, .element (.plain "configuration") attributes (onlyIncluding "c.xml"))) := by
    refine meant_eq_some_iff.mpr ⟨by decide +kernel, [.file (Path.parse "/c.xml"), .named "c.xml" false], _,
      Traced.eq_ok_of_toOption (by decide +kernel), firstFetched_eq_some_iff.mpr ⟨[], _, rfl, by simp, hf⟩, ht⟩
  obtain ⟨r, hr⟩ := exists_means hm
  have ho : Opens selfIncluding (some "/c.xml") (onlyIncluding "c.xml") r fetched (onlyIncluding "c.xml") :=
    ⟨_, _, .here _ _ [] rfl, hr⟩
  exact ⟨r, .cons ho (hb ▸ .nil _ _)⟩

/-- Loading a document gives its properties, or fails because a document is not available or cannot be parsed, for an
address at fault, or for want of room. How it ends with room enough does not depend on the room; there is one such end
exactly if there is a bound to how many documents are opened inside one another, as there is if no document is opened
in itself. There is no such end if one is opened in itself from the same base, and then any room is too little. -/
theorem loading_ends (s : Surroundings) (r : Resource) :
    (∀ room, (∃ ps, (loadWithin s room r).value = .ok ps) ∨
      ∃ e, (loadWithin s room r).value = .error e ∧
        (e.IsOfDocument ∨ e.IsOfAddress ∧ r.fetch s.resolver s.world = .error e ∨
          ∃ base ns, Holds s r base ns ∧ (MisaddressedIn s base ns e ∨ e = .nestingTooDeep))) ∧
    ∀ base ns, Holds s r base ns →
      ((∃ x, Walk s base ns x) ↔
        ∃ n, ∀ rs last innermost, Nests s base ns rs last innermost → rs.length ≤ n) ∧
      (∀ x, Walk s base ns x →
        (∃ least, ∀ room, (loadWithin s room r).value = if room < least then .error .nestingTooDeep else x) ∧
          ((∃ ps, x = .ok ps) ∨ ∃ e, x = .error e ∧ (e.IsOfDocument ∨ MisaddressedIn s base ns e))) ∧
      (∀ rs last innermost, Nests s base ns rs last innermost →
        ∀ room, room < 2 * rs.length → (loadWithin s room r).value = .error .nestingTooDeep) ∧
      (OpensNoneInItself s base ns → ∃ x, Walk s base ns x) ∧
      ∀ rs last innermost qs, Nests s base ns rs last innermost → Nests s last innermost qs last innermost →
        qs ≠ [] → (∀ x, ¬ Walk s base ns x) ∧ ∀ room, (loadWithin s room r).value = .error .nestingTooDeep := by
  refine ⟨fun room => ?_, fun base ns h => ⟨exists_walk_iff, fun x hw => ⟨?_, ?_⟩, ?_,
    exists_walk_of_opensNoneInItself, ?_⟩⟩
  · cases hl : (loadWithin s room r).value with
    | ok ps => exact .inl ⟨ps, rfl⟩
    | error e =>
      refine .inr ⟨e, rfl, ?_⟩
      rcases loadWithin_error_cases hl with hf | hk | ⟨base, ns, hh, he⟩
      · rcases Resource.failsAs_fetch r _ _ e hf with hk | ha
        · exact .inl (.inl hk)
        · exact .inr (.inl ⟨ha, hf⟩)
      · exact .inl (.inr hk)
      · by_cases hd : e = .nestingTooDeep
        · exact .inr (.inr ⟨base, ns, hh, .inr hd⟩)
        · have hw : Walk s base ns (.error e) := .of_loadContent he fun hn => hd (Except.error.inj hn)
          exact hw.error_cases.imp_right fun ha => .inr ⟨base, ns, hh, .inl ha⟩
  · obtain ⟨least, hl⟩ := hw.exists_least
    exact ⟨least, fun room => (h.value_loadWithin room).trans (hl room)⟩
  · cases x with
    | ok ps => exact .inl ⟨ps, rfl⟩
    | error e => exact .inr ⟨e, rfl, hw.error_cases⟩
  · intro rs last innermost hn room hlt
    exact (h.value_loadWithin room).trans (hn.tooDeep hlt)
  · intro rs last innermost qs hn hl hq
    have hd := value_loadContent_of_loop hn hl hq
    refine ⟨fun x hw => ?_, fun room => (h.value_loadWithin room).trans (hd (room + 1))⟩
    obtain ⟨hx, calls, rfl⟩ := hw
    exact hx (hd calls)

/-- A document that includes an empty one is loaded if there is room for two calls inside the first; there is no end to
one that includes itself. -/
theorem loading_ends_self :
    (∀ room, (loadWithin selfIncluding room (.file (Path.parse "/a.xml"))).value =
        if room < 2 then .error .nestingTooDeep else .ok []) ∧
      (load selfIncluding (.file (Path.parse "/c.xml"))).value = .error .nestingTooDeep ∧
      ∀ x, ¬ Walk selfIncluding (some "/c.xml") (onlyIncluding "c.xml") x := by
  obtain ⟨-, hload⟩ := loading_ends selfIncluding (.file (Path.parse "/a.xml"))
  obtain ⟨-, hends, hdeep, hwalk, -⟩ := hload _ _ holds_including
  obtain ⟨x, hw⟩ := hwalk opensNoneInItself_including
  obtain rfl : x = .ok [] := hw.unique ((Walk.included_iff rfl meant_including).mpr .nil)
  obtain ⟨⟨least, hleast⟩, -⟩ := hends _ hw
  have hloaded : (load selfIncluding (.file (Path.parse "/a.xml"))).value = .ok [] :=
    Traced.eq_ok_of_toOption (by decide +kernel)
  have hle : least ≤ 2 := by
    have h := hleast 2
    rw [show (loadWithin selfIncluding 2 _).value = .ok [] from hloaded] at h
    split at h
    · cases h
    · omega
  obtain ⟨r, hnests⟩ := nests_including
  obtain ⟨-, hload⟩ := loading_ends selfIncluding (.file (Path.parse "/c.xml"))
  obtain ⟨-, -, -, -, hloop⟩ := hload _ _ holds_selfIncluding
  obtain ⟨r, hc⟩ := nests_selfIncluding
  obtain ⟨hends, hdeep'⟩ := hloop [] _ _ [r] (.nil _ _) hc (by simp)
  refine ⟨fun room => ?_, hdeep' _, hends⟩
  split
  · rename_i hlt
    exact hdeep _ _ _ hnests room hlt
  · rw [hleast room, if_neg (by omega)]

/-- The error of a document that includes itself is neither that it cannot be opened nor that it cannot be parsed. -/
theorem self_inclusion_has_no_document_error :
    ¬ ((∃ ps, (load selfIncluding (.file (Path.parse "/c.xml"))).value = .ok ps) ∨
      ∃ e, (load selfIncluding (.file (Path.parse "/c.xml"))).value = .error e ∧ e.IsOfDocument) := by
  obtain ⟨r, hc⟩ := nests_selfIncluding
  have hload : (load selfIncluding (.file (Path.parse "/c.xml"))).value = .error .nestingTooDeep :=
    (holds_selfIncluding.value_loadWithin _).trans (value_loadContent_of_loop (.nil _ _) hc (by simp) _)
  rw [hload]
  rintro (⟨ps, h⟩ | ⟨e, h, hk | hk⟩)
  · cases h
  · cases h
    cases hk
  · cases h
    cases hk

end Loader
end ConfigLayers
