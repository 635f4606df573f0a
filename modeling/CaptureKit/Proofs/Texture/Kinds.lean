import CaptureKit.Proofs.Texture.Comparisons
import CaptureKit.Proofs.Texture.Verdicts

/-!
# Textures of one kind

A comparer whose answers are an equivalence on the textures of a folder, and who never says of
files of different sizes that they are the same, sorts the textures into kinds.  A texture is only
compared with exemplars of its size, and only until one of them is the same.  For such a comparer
nothing is missed: the exemplar that is found leads the kind of the texture, and the verdicts are
those of comparing every texture with all.

Main statement: the verdicts on the textures of a folder by their kinds, for every such comparer,
of which comparing by bytes is one (`findCopies_by_kind`).
-/

namespace CaptureKit
namespace Texture

open Storage FileTree Text

/-- The name of the first texture comes before that of the second, by its bytes. -/
def NameBefore (folder : String) (a b : Dump) : Prop :=
  ∃ earlier later, a.path = entryPath folder earlier ∧ b.path = entryPath folder later ∧
    encode earlier < encode later

/-- Textures fall into kinds: being the same is an equivalence, and only files of one size are. -/
structure Kinds (same : String → String → Bool) (textures : List Dump) : Prop where
  refl : ∀ a ∈ textures, same a.path a.path = true
  symm : ∀ a ∈ textures, ∀ b ∈ textures, same a.path b.path = true → same b.path a.path = true
  trans : ∀ a ∈ textures, ∀ b ∈ textures, ∀ c ∈ textures,
    same a.path b.path = true → same b.path c.path = true → same a.path c.path = true
  size : ∀ a ∈ textures, ∀ b ∈ textures, same a.path b.path = true → a.size = b.size

/-- The comparer never fails on the textures, and tells their kinds. -/
structure TellsKinds
    {σ : Type}
    (compare : Comparer σ)
    (holds : σ → Prop)
    (same : String → String → Bool)
    (textures : List Dump) :
    Prop where
  answers : ∀ a ∈ textures, ∀ b ∈ textures,
    compare.AnswersWhile holds a.path b.path (.ok (same a.path b.path))
  kinds : Kinds same textures

/-- All textures that are the same as one of them, in order. -/
def kindOf
    (same : String → String → Bool)
    (textures : List Dump)
    (texture : Dump) :
    List Dump :=
  textures.filter fun other => same other.path texture.path

/-- The verdict on a texture when it is compared with all: the first that is the same is the
exemplar. -/
def verdictAmong
    (same : String → String → Bool)
    (textures : List Dump)
    (texture : Dump) :
    Verdict :=
  match (kindOf same textures texture).head? with
  | some first =>
      if first = texture then .exemplar texture.path else .copy texture.path first.path
  | none => .exemplar texture.path

/-- The texture has the first name of all that are the same as the one at a path. -/
structure LeadsKind
    (folder : String)
    (same : String → String → Bool)
    (textures : List Dump)
    (path : String)
    (first : Dump) :
    Prop where
  mem : first ∈ textures
  same_path : same first.path path = true
  least : ∀ other ∈ textures, same other.path path = true →
    other = first ∨ NameBefore folder first other

/-- The verdicts on the textures of a folder are those of their kinds. -/
structure ByKind
    (folder : String)
    (same : String → String → Bool)
    (textures : List Dump)
    (verdicts : List Verdict) :
    Prop where
  /-- The textures come in the order of the bytes of their names. -/
  ordered : textures.Pairwise (NameBefore folder)
  /-- The verdicts are those of comparing every texture with all. -/
  verdicts_eq : verdicts = textures.map (verdictAmong same textures)
  /-- A texture is a copy exactly if an earlier one, exemplar or copy, is the same. -/
  copy_iff : ∀ texture ∈ textures,
    (∃ original, .copy texture.path original ∈ verdicts) ↔
      ∃ earlier ∈ textures, NameBefore folder earlier texture ∧
        same earlier.path texture.path = true
  /-- Its exemplar is the first texture of its kind. -/
  original : ∀ path original, .copy path original ∈ verdicts →
    ∃ first, first.path = original ∧ LeadsKind folder same textures path first
  /-- The exemplars are the first textures of their kinds, -/
  exemplar_iff : ∀ texture ∈ textures,
    .exemplar texture.path ∈ verdicts ↔ LeadsKind folder same textures texture.path texture
  /-- and each kind has exactly one. -/
  representative : ∀ texture ∈ textures,
    ∃! first, first ∈ textures ∧ .exemplar first.path ∈ verdicts ∧
      same first.path texture.path = true

/-- All of a texture can be read: as many bytes as the system says that it has.  Of a plain file
this is all that can be read, but a device may give more. -/
def ReadsWhole (tree : FileTree) (texture : Dump) : Prop :=
  ∃ content, tree.readBytes texture.path = .ok content ∧ content.length = texture.size

/-- Both files can be read, and have the same bytes. -/
def haveSameBytes
    (tree : FileTree)
    (earlier later : String) :
    Bool :=
  match tree.readBytes earlier, tree.readBytes later with
  | .ok a, .ok b => a == b
  | _, _ => false

section Order

variable {folder : String} {a b : Dump}

theorem NameBefore.asymm
    (h : NameBefore folder a b) :
    ¬ NameBefore folder b a := by
  rintro ⟨later', earlier', hb, ha, hless'⟩
  obtain ⟨earlier, later, ha', hb', hless⟩ := h
  obtain rfl := entryPath_inj.1 (ha.symm.trans ha')
  obtain rfl := entryPath_inj.1 (hb.symm.trans hb')
  exact List.lt_asymm hless hless'

theorem Precedes.nameBefore (h : Precedes folder a b) : NameBefore folder a b := by
  obtain ⟨earlier, later, ha, hb, hle, hne⟩ := h
  have hless : earlier < later := String.not_le.1 fun hge => hne (String.le_antisymm hle hge)
  exact ⟨earlier, later, ha, hb, encode_lt_encode hless⟩

end Order

section Searching

variable {same : String → String → Bool} {textures front rest : List Dump} {texture : Dump}

theorem mem_kindOf {other : Dump} :
    other ∈ kindOf same textures texture ↔
      other ∈ textures ∧ same other.path texture.path = true :=
  List.mem_filter

theorem Kinds.kindOf_eq
    (h : Kinds same textures)
    {a b : Dump}
    (ha : a ∈ textures)
    (hb : b ∈ textures)
    (hsame : same a.path b.path = true) :
    kindOf same textures a = kindOf same textures b := by
  refine List.filter_congr fun other hother =>
    Bool.eq_iff_iff.2 ⟨fun hfirst => ?_, fun hfirst => ?_⟩
  · exact h.trans other hother a ha b hb hfirst hsame
  · exact h.trans other hother b hb a ha hfirst (h.symm a ha b hb hsame)

theorem Finds.forall_different
    {answer : String → String → Except IoFault Bool}
    {path : String}
    {candidates : List String}
    (h : Finds answer path candidates none) :
    ∀ candidate ∈ candidates, answer candidate path = .ok false := by
  generalize hfound : none = found at h
  induction h with
  | exhausted =>
      exact nofun
  | matched _ =>
      cases hfound
  | skipped hdifferent _ ih =>
      exact List.forall_mem_cons.2 ⟨hdifferent, ih hfound⟩

/-- The texture is the first of its kind. -/
def isLeader
    (same : String → String → Bool)
    (textures : List Dump)
    (texture : Dump) :
    Bool :=
  (kindOf same textures texture).head? == some texture

theorem isLeader_iff :
    isLeader same textures texture = true ↔
      (kindOf same textures texture).head? = some texture :=
  beq_iff_eq

/-- A search among the exemplars of one size finds the first of the kind of a texture, if this is
not the texture itself. -/
theorem Kinds.leader_of_finds
    (h : Kinds same (front ++ texture :: rest))
    (hnodup : (front ++ texture :: rest).Nodup)
    {found : Option String}
    (hfinds : Finds (fun earlier later => .ok (same earlier later)) texture.path
      (candidates (front.filter (isLeader same (front ++ texture :: rest))) texture) found) :
    ∃ first, (kindOf same (front ++ texture :: rest) texture).head? = some first ∧
      found = if first = texture then none else some first.path := by
  have htexture : texture ∈ front ++ texture :: rest :=
    List.mem_append_right _ List.mem_cons_self
  have hkind : kindOf same (front ++ texture :: rest) texture =
      kindOf same front texture ++ texture :: kindOf same rest texture := by
    rw [kindOf, List.filter_append, List.filter_cons, if_pos (h.refl texture htexture)]
    rfl
  -- A candidate that is the same leads the kind of the texture, since exemplars lead theirs.
  have hcandidate : ∀ {path}, path ∈ candidates
      (front.filter (isLeader same (front ++ texture :: rest))) texture →
      same path texture.path = true →
      ∃ first ∈ front, first.path = path ∧
        (kindOf same (front ++ texture :: rest) texture).head? = some first := by
    intro path hmem hsame
    obtain ⟨first, hfirst, rfl⟩ := List.mem_map.1 hmem
    obtain ⟨hfront, hleads⟩ := List.mem_filter.1 (List.mem_filter.1 hfirst).1
    refine ⟨first, hfront, rfl, ?_⟩
    rw [← h.kindOf_eq (List.mem_append_left _ hfront) htexture hsame]
    exact isLeader_iff.1 hleads
  have hapart : ∀ {first}, first ∈ front → first ≠ texture := by
    rintro first hfirst rfl
    exact (List.nodup_append.1 hnodup).2.2 first hfirst first List.mem_cons_self rfl
  cases found with
  | some path =>
      obtain ⟨hmem, hsame⟩ := hfinds.mem_and_same
      obtain ⟨first, hfront, rfl, hhead⟩ := hcandidate hmem (Except.ok.inj hsame)
      exact ⟨first, hhead, (if_neg (hapart hfront)).symm⟩
  | none =>
      refine ⟨texture, ?_, (if_pos rfl).symm⟩
      -- An earlier texture of the kind would make its leader a candidate, which would be found.
      cases hearlier : kindOf same front texture with
      | nil =>
          rw [hkind, hearlier]
          rfl
      | cons first others =>
          obtain ⟨hfront, hsame⟩ := mem_kindOf.1 (hearlier ▸ List.mem_cons_self)
          have hall : first ∈ front ++ texture :: rest := List.mem_append_left _ hfront
          have hleads : isLeader same (front ++ texture :: rest) first = true := by
            rw [isLeader_iff, h.kindOf_eq hall htexture hsame, hkind, hearlier]
            rfl
          have hsize : first.size = texture.size := h.size first hall texture htexture hsame
          have hmem : first.path ∈ candidates
              (front.filter (isLeader same (front ++ texture :: rest))) texture :=
            List.mem_map_of_mem (List.mem_filter.2
              ⟨List.mem_filter.2 ⟨hfront, hleads⟩, beq_iff_eq.2 hsize⟩)
          have hdifferent := Except.ok.inj (hfinds.forall_different _ hmem)
          rw [hsame] at hdifferent
          cases hdifferent

/-- The verdicts behind exemplars that lead their kinds are those of comparing with all. -/
theorem Kinds.verdicts_eq
    {exemplars all : List Dump}
    {verdicts : List Verdict}
    (h : Kinds same all)
    (hnodup : all.Nodup)
    (hverdicts : Classified (fun earlier later => .ok (same earlier later)) exemplars textures
      verdicts)
    (hall : all = front ++ textures)
    (hexemplars : exemplars = front.filter (isLeader same all)) :
    verdicts = textures.map (verdictAmong same all) := by
  -- By the verdicts.  The textures in front have theirs, and the exemplars among them are those
  -- that lead their kinds.
  induction hverdicts generalizing front with
  | nil =>
      rfl
  | @exemplar exemplars textures texture verdicts hfinds _ ih =>
      rw [hall] at h hnodup
      rw [hexemplars, hall] at hfinds
      obtain ⟨first, hhead, hfound⟩ := h.leader_of_finds hnodup hfinds
      rw [← hall] at hhead
      have hfirst : first = texture := by
        by_contra hne
        rw [if_neg hne] at hfound
        cases hfound
      subst hfirst
      have hleads : exemplars ++ [first] = (front ++ [first]).filter (isLeader same all) := by
        rw [List.filter_append, hexemplars, List.filter_singleton, isLeader_iff.2 hhead]
        rfl
      have hrest := ih (hall.trans (List.append_cons _ _ _)) hleads
      rw [List.map_cons, ← hrest, verdictAmong, hhead]
      simp
  | @copy exemplars textures texture verdicts found hfinds _ ih =>
      rw [hall] at h hnodup
      rw [hexemplars, hall] at hfinds
      obtain ⟨first, hhead, hfound⟩ := h.leader_of_finds hnodup hfinds
      rw [← hall] at hhead
      have hne : first ≠ texture := by
        rintro rfl
        rw [if_pos rfl] at hfound
        cases hfound
      rw [if_neg hne, Option.some.injEq] at hfound
      have hfollows : isLeader same all texture = false := by
        rw [isLeader, hhead]
        simpa using hne
      have hleads : exemplars = (front ++ [texture]).filter (isLeader same all) := by
        rw [List.filter_append, hexemplars, List.filter_singleton, hfollows]
        simp
      have hrest := ih (hall.trans (List.append_cons _ _ _)) hleads
      rw [List.map_cons, ← hrest, verdictAmong, hhead, hfound]
      simp [hne]

end Searching

section Leaders

variable {folder : String} {same : String → String → Bool} {textures : List Dump}
  {texture first other : Dump} {path : String}

theorem LeadsKind.unique
    (h : LeadsKind folder same textures path first)
    (hother : LeadsKind folder same textures path other) :
    first = other := by
  rcases h.least other hother.mem hother.same_path with heq | hbefore
  · exact heq.symm
  · exact (hother.least first h.mem h.same_path).resolve_right hbefore.asymm

theorem LeadsKind.of_same
    (hkinds : Kinds same textures)
    (htexture : texture ∈ textures)
    (hother : other ∈ textures)
    (hsame : same texture.path other.path = true)
    (h : LeadsKind folder same textures texture.path first) :
    LeadsKind folder same textures other.path first where
  mem := h.mem
  same_path := hkinds.trans first h.mem texture htexture other hother h.same_path hsame
  least earlier hearlier hearlier_same :=
    h.least earlier hearlier (hkinds.trans earlier hearlier other hother texture htexture
      hearlier_same (hkinds.symm texture htexture other hother hsame))

/-- Every texture has a leader, which decides on its verdict. -/
theorem Kinds.exists_leadsKind
    (h : Kinds same textures)
    (hordered : textures.Pairwise (NameBefore folder))
    (htexture : texture ∈ textures) :
    ∃ first, LeadsKind folder same textures texture.path first ∧
      verdictAmong same textures texture =
        if first = texture then .exemplar texture.path else .copy texture.path first.path := by
  have hmem : texture ∈ kindOf same textures texture :=
    mem_kindOf.2 ⟨htexture, h.refl texture htexture⟩
  cases hkind : kindOf same textures texture with
  | nil =>
      rw [hkind] at hmem
      cases hmem
  | cons first others =>
      obtain ⟨hfirst, hsame⟩ := mem_kindOf.1 (hkind ▸ List.mem_cons_self)
      have hkindOrdered : (first :: others).Pairwise (NameBefore folder) :=
        hkind ▸ hordered.filter _
      refine ⟨first, ⟨hfirst, hsame, fun earlier hearlier hearlier_same => ?_⟩, ?_⟩
      · have hearlier_kind : earlier ∈ first :: others :=
          hkind ▸ mem_kindOf.2 ⟨hearlier, hearlier_same⟩
        exact (List.mem_cons.1 hearlier_kind).imp_right (List.rel_of_pairwise_cons hkindOrdered)
      · rw [verdictAmong, hkind]
        rfl

theorem path_verdictAmong (same : String → String → Bool) (textures : List Dump) (texture : Dump) :
    (verdictAmong same textures texture).path = texture.path := by
  rw [verdictAmong]
  split
  · split <;> rfl
  · rfl

/-- A verdict on a texture is the one that comparing with all gives. -/
theorem mem_map_verdictAmong_iff
    (hpaths : (textures.map Dump.path).Nodup)
    (htexture : texture ∈ textures)
    {verdict : Verdict}
    (hpath : verdict.path = texture.path) :
    verdict ∈ textures.map (verdictAmong same textures) ↔
      verdictAmong same textures texture = verdict := by
  constructor
  · intro hmem
    obtain ⟨other, hother, rfl⟩ := List.mem_map.1 hmem
    rw [path_verdictAmong] at hpath
    rw [List.inj_on_of_nodup_map hpaths hother htexture hpath]
  · rintro rfl
    exact List.mem_map_of_mem htexture

/-- Comparing every texture with all finds the kinds. -/
theorem Kinds.byKind
    (h : Kinds same textures)
    (hprecedes : textures.Pairwise (Precedes folder)) :
    ByKind folder same textures (textures.map (verdictAmong same textures)) := by
  have hordered : textures.Pairwise (NameBefore folder) := hprecedes.imp Precedes.nameBefore
  have hpaths := paths_nodup hprecedes
  have hexemplar : ∀ texture ∈ textures,
      .exemplar texture.path ∈ textures.map (verdictAmong same textures) ↔
        LeadsKind folder same textures texture.path texture := by
    intro texture htexture
    obtain ⟨first, hleads, hverdict⟩ := h.exists_leadsKind hordered htexture
    rw [mem_map_verdictAmong_iff hpaths htexture rfl, hverdict]
    constructor
    · intro hmem
      by_cases hfirst : first = texture
      · exact hfirst ▸ hleads
      · rw [if_neg hfirst] at hmem
        cases hmem
    · intro hself
      exact if_pos (hleads.unique hself)
  refine ⟨hordered, rfl, ?_, ?_, hexemplar, ?_⟩
  · intro texture htexture
    obtain ⟨first, hleads, hverdict⟩ := h.exists_leadsKind hordered htexture
    constructor
    · rintro ⟨original, hmem⟩
      rw [mem_map_verdictAmong_iff hpaths htexture rfl, hverdict] at hmem
      rcases hleads.least texture htexture (h.refl texture htexture) with heq | hbefore
      · rw [if_pos heq.symm] at hmem
        cases hmem
      · exact ⟨first, hleads.mem, hbefore, hleads.same_path⟩
    · rintro ⟨earlier, hearlier, hbefore, hsame⟩
      have hne : first ≠ texture := by
        rintro rfl
        rcases hleads.least earlier hearlier hsame with rfl | hafter
        · exact hbefore.asymm hbefore
        · exact hbefore.asymm hafter
      refine ⟨first.path, (mem_map_verdictAmong_iff hpaths htexture rfl).2 ?_⟩
      rw [hverdict, if_neg hne]
  · intro path original hmem
    obtain ⟨texture, htexture, hcopy⟩ := List.mem_map.1 hmem
    obtain ⟨first, hleads, hverdict⟩ := h.exists_leadsKind hordered htexture
    rw [hverdict] at hcopy
    split at hcopy
    · cases hcopy
    · cases hcopy
      exact ⟨first, rfl, hleads⟩
  · intro texture htexture
    obtain ⟨first, hleads, -⟩ := h.exists_leadsKind hordered htexture
    have hback := h.symm first hleads.mem texture htexture hleads.same_path
    refine ⟨first, ⟨hleads.mem, (hexemplar first hleads.mem).2
      (hleads.of_same h htexture hleads.mem hback), hleads.same_path⟩, ?_⟩
    rintro other ⟨hother, hmem, hsame⟩
    exact (((hexemplar other hother).1 hmem).of_same h hother htexture hsame).unique hleads

end Leaders

section Contents

variable {tree : FileTree} {folder : String} {location : Location}

/-- The devices among the textures of a folder give as much as the system says that they have. -/
def DevicesReadWhole (tree : FileTree) (folder : String) (location : Location) : Prop :=
  ∀ name device, tree.get? (location ++ [name]) = some (.device device) →
    isDumpName name.toList = true →
    ReadsWhole tree ⟨entryPath folder name, (Entry.device device).size⟩

/-- All of a texture that is no device can be read, if it can be read at all. -/
theorem readsWhole_of_isOk
    (htree : tree.WellFormed)
    (hfolder : tree.entryAt folder = .ok (location, .folder))
    (hdevices : DevicesReadWhole tree folder location)
    {texture : Dump}
    (htexture : texture ∈ ofEntries folder (tree.children location))
    (hread : (tree.readBytes texture.path).isOk = true) :
    ReadsWhole tree texture := by
  obtain ⟨-, count, hcount, hway⟩ := entryAt_eq_folder_iff.1 hfolder
  obtain ⟨name, entry, hentry, hleaf, hname, rfl⟩ := (mem_ofEntries_iff htree).1 htexture
  have hbytes :=
    readBytes_of_leaf (endsIn_of_get?_eq_some htree folder hentry) hway hcount hentry hleaf
  cases hfault : pathFault? (entryPath folder name) with
  | some fault =>
      rw [hbytes, hfault] at hread
      cases hread
  | none =>
      rw [hfault] at hbytes
      cases entry with
      | file content | program _ content =>
          exact ⟨content, hbytes, rfl⟩
      | folder | link target =>
          exact hleaf.elim
      | device device =>
          exact hdevices name device hentry hname

theorem haveSameBytes_eq_true_iff
    {a b : String}
    {first second : Bytes}
    (ha : tree.readBytes a = .ok first)
    (hb : tree.readBytes b = .ok second) :
    haveSameBytes tree a b = true ↔ first = second := by
  rw [haveSameBytes, ha, hb]
  exact beq_iff_eq

/-- Comparing by bytes tells the kinds of textures all of which can be read. -/
theorem tellsKinds_byContent
    {textures : List Dump}
    (hbytes : ∀ texture ∈ textures, ReadsWhole tree texture) :
    TellsKinds .byContent (· = tree) (haveSameBytes tree) textures := by
  refine ⟨fun a ha b hb state hstate => ?_, ?_, ?_, ?_, ?_⟩
  · obtain ⟨first, hfirst, -⟩ := hbytes a ha
    obtain ⟨second, hsecond, -⟩ := hbytes b hb
    obtain ⟨next, hrun, hnext⟩ := judges_byContent state a.path b.path
    refine ⟨next, ?_, hnext.trans hstate⟩
    rw [hrun, judged, hstate]
    dsimp only [id]
    rw [haveSameBytes, hfirst, hsecond]
    rfl
  · intro a ha
    obtain ⟨first, hfirst, -⟩ := hbytes a ha
    exact (haveSameBytes_eq_true_iff hfirst hfirst).2 rfl
  · intro a ha b hb hsame
    obtain ⟨first, hfirst, -⟩ := hbytes a ha
    obtain ⟨second, hsecond, -⟩ := hbytes b hb
    exact (haveSameBytes_eq_true_iff hsecond hfirst).2
      ((haveSameBytes_eq_true_iff hfirst hsecond).1 hsame).symm
  · intro a ha b hb c hc hab hbc
    obtain ⟨first, hfirst, -⟩ := hbytes a ha
    obtain ⟨second, hsecond, -⟩ := hbytes b hb
    obtain ⟨third, hthird, -⟩ := hbytes c hc
    exact (haveSameBytes_eq_true_iff hfirst hthird).2
      (((haveSameBytes_eq_true_iff hfirst hsecond).1 hab).trans
        ((haveSameBytes_eq_true_iff hsecond hthird).1 hbc))
  · intro a ha b hb hsame
    obtain ⟨first, hfirst, hsizeA⟩ := hbytes a ha
    obtain ⟨second, hsecond, hsizeB⟩ := hbytes b hb
    rw [← hsizeA, ← hsizeB, (haveSameBytes_eq_true_iff hfirst hsecond).1 hsame]

end Contents

section Folder

variable {tree : FileTree} {folder : String} {location : Location}

/-- Looking for copies in a folder with a comparer that tells kinds gives the verdicts of
comparing every texture with all: a texture is a copy exactly if one with an earlier name is the
same, its exemplar is the first of its kind, and each kind has this one exemplar.  Comparing by
bytes tells kinds, if the textures can be read, and devices among them give no more than the system
says. -/
theorem findCopies_by_kind
    (htree : tree.WellFormed)
    (hfolder : tree.entryAt folder = .ok (location, .folder)) :
    (∀ {σ : Type} (compare : Comparer σ) (holds : σ → Prop) (same : String → String → Bool)
        (state : σ),
      TellsKinds compare holds same (ofEntries folder (tree.children location)) →
      holds state →
      ∃ calls verdicts next,
        (findCopies tree folder compare).run state = ((calls, .ok verdicts), next) ∧
        ByKind folder same (ofEntries folder (tree.children location)) verdicts) ∧
    ((∀ texture ∈ ofEntries folder (tree.children location),
        (tree.readBytes texture.path).isOk = true) →
      DevicesReadWhole tree folder location →
      TellsKinds .byContent (· = tree) (haveSameBytes tree)
        (ofEntries folder (tree.children location))) := by
  refine ⟨fun {σ} compare holds same state htells hstate => ?_, fun hreads hdevices =>
    tellsKinds_byContent fun texture htexture =>
      readsWhole_of_isOk htree hfolder hdevices htexture (hreads texture htexture)⟩
  have hprecedes := ofEntries_pairwise htree folder location
  have hnodup : (ofEntries folder (tree.children location)).Nodup :=
    (paths_nodup hprecedes).of_map Dump.path
  have hanswers : OnPairs (fun earlier later =>
      (Except.ok (same earlier later) : Except IoFault Bool).isOk = true)
      [] (ofEntries folder (tree.children location)) :=
    fun _ _ _ _ => rfl
  obtain ⟨verdicts, hverdicts⟩ := exists_classified _ hanswers
  obtain rfl := htells.kinds.verdicts_eq hnodup hverdicts (List.nil_append _).symm rfl
  obtain ⟨made, next, hrun, -⟩ := hverdicts.run_of_answers htells.answers hstate
  have hentries : tree.readFolder folder = .ok (tree.children location) := by
    rw [readFolder, hfolder]
  refine ⟨made, _, next, ?_, htells.kinds.byKind hprecedes⟩
  rw [run_findCopies hentries, classify, hrun]
  rfl

/-- Two kinds of textures, the second texture of the first kind behind one of the other. -/
def twoKinds : FileTree :=
  .ofEntries [(["d"], .folder), (["d", "EID_3_tex0-a"], .file [7]),
    (["d", "EID_1_tex0-a"], .file [7]), (["d", "EID_2_tex0-a"], .file [8])]

theorem findCopies_by_kind_twoKinds :
    ∃ calls verdicts next,
      (findCopies twoKinds "/d" .byContent).run twoKinds = ((calls, .ok verdicts), next) ∧
      ByKind "/d" (haveSameBytes twoKinds) (ofEntries "/d" (twoKinds.children ["d"])) verdicts := by
  have htree : twoKinds.WellFormed := ⟨by decide, by decide⟩
  have hway : twoKinds.Reaches [] (namesOf "/d") 0 ["d"] :=
    .enter rfl (by decide) rfl (.done rfl)
  have hfolder : twoKinds.entryAt "/d" = .ok (["d"], .folder) :=
    entryAt_eq_folder_iff.2 ⟨by decide, 0, Nat.zero_le _, hway⟩
  have hvalid : ∀ item ∈ twoKinds.children ["d"], pathFault? (entryPath "/d" item.1) = none := by
    decide
  have hfiles : ∀ item ∈ twoKinds.children ["d"], item.2 = .file [7] ∨ item.2 = .file [8] := by
    decide
  have hreads : ∀ texture ∈ ofEntries "/d" (twoKinds.children ["d"]),
      (twoKinds.readBytes texture.path).isOk = true := by
    intro texture htexture
    obtain ⟨name, entry, hentry, hleaf, -, rfl⟩ := (mem_ofEntries_iff htree).1 htexture
    have hitem := htree.mem_children_iff.2 hentry
    rw [readBytes_of_leaf (endsIn_of_get?_eq_some htree "/d" hentry) hway (Nat.zero_le _) hentry
      hleaf, hvalid _ hitem]
    obtain rfl | rfl : entry = .file [7] ∨ entry = .file [8] := hfiles _ hitem
    all_goals rfl
  have hdevices : DevicesReadWhole twoKinds "/d" ["d"] := by
    intro name device hdevice
    rcases hfiles _ (htree.mem_children_iff.2 hdevice) with hfile | hfile <;> cases hfile
  obtain ⟨hkinds, hcontent⟩ := findCopies_by_kind htree hfolder
  exact hkinds .byContent _ _ twoKinds (hcontent hreads hdevices) rfl

end Folder

end Texture
end CaptureKit
