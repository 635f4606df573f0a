import CaptureKit.Proofs.Text.Encoding
import CaptureKit.Proofs.Texture.Inventory
import CaptureKit.Texture.Comparer
import Mathlib.Data.List.Induction

/-!
# Which comparisons are made

A texture is compared with its *rivals*, the exemplars of its size before it, in order and until
one of them is the same or a comparison fails.  If none of them is the same, the texture is an
exemplar itself, and so a rival of later ones.  The answers need not fit together in any way; a
comparer may say that a file differs from itself.

Main statement: the textures of a folder, their order, the calls of the comparer and the result,
for every comparer that answers by the two paths (`findCopies_compares`).
-/

namespace CaptureKit
namespace Texture

open Storage FileTree Text

/-- The comparer answers by the two paths, whatever it remembers. -/
def Comparer.Answers
    {σ : Type}
    (compare : Comparer σ)
    (answer : (earlier later : String) → Except IoFault Bool) :
    Prop :=
  ∀ state earlier later, ((compare earlier later).run state).1 = answer earlier later

/-- The comparer with a record of its calls behind its own state. -/
def Comparer.recorded
    {σ : Type}
    (compare : Comparer σ) :
    Comparer (σ × List Comparison) :=
  fun earlier later => do
    let (state, calls) ← get
    let (answer, next) := (compare earlier later).run state
    set (next, calls ++ [⟨earlier, later⟩])
    pure answer

/-- A path is compared with rivals in order: the calls, and what was found. -/
inductive Searched
    (answer : (earlier later : String) → Except IoFault Bool)
    (path : String)
    (rivals : List String) :
    List Comparison → Except ComparisonFault (Option String) → Prop
  | different
      (hall : ∀ rival ∈ rivals, answer rival path = .ok false) :
      Searched answer path rivals (rivals.map (⟨·, path⟩)) (.ok none)
  | same
      {front behind : List String} {rival : String}
      (hrivals : rivals = front ++ rival :: behind)
      (hfront : ∀ other ∈ front, answer other path = .ok false)
      (hsame : answer rival path = .ok true) :
      Searched answer path rivals ((front ++ [rival]).map (⟨·, path⟩)) (.ok (some rival))
  | failed
      {front behind : List String} {rival : String} {cause : IoFault}
      (hrivals : rivals = front ++ rival :: behind)
      (hfront : ∀ other ∈ front, answer other path = .ok false)
      (hfails : answer rival path = .error cause) :
      Searched answer path rivals ((front ++ [rival]).map (⟨·, path⟩))
        (.error ⟨⟨rival, path⟩, cause⟩)

/-- A texture that has its verdict: the exemplar that it is the same as, if there is one, and
the calls that were made for it. -/
structure Settled where
  texture : Dump
  same : Option String
  calls : List Comparison

def Settled.verdict (item : Settled) : Verdict :=
  match item.same with
  | none => .exemplar item.texture.path
  | some exemplar => .copy item.texture.path exemplar

/-- The paths of the exemplars that have the size of a texture, in order. -/
def rivals
    (settled : List Settled)
    (texture : Dump) :
    List String :=
  (settled.filter fun item => item.same.isNone && item.texture.size == texture.size).map
    (·.texture.path)

/-- Each texture was compared with its rivals among those before it. -/
def InTurn
    (answer : (earlier later : String) → Except IoFault Bool)
    (settled : List Settled) :
    Prop :=
  ∀ front item behind, settled = front ++ item :: behind →
    Searched answer item.texture.path (rivals front item.texture) item.calls (.ok item.same)

/-- How it ends with textures behind settled ones: which of them are settled too, the calls that
were made, and the result. -/
inductive Ends
    (answer : (earlier later : String) → Except IoFault Bool)
    (before : List Settled) :
    List Dump → List Settled → List Comparison → Except ComparisonFault (List Verdict) → Prop
  | all
      (settled : List Settled) :
      Ends answer before (settled.map (·.texture)) settled (settled.flatMap (·.calls))
        (.ok (settled.map (·.verdict)))
  | failed
      {settled : List Settled} {texture : Dump} {last : List Comparison} {fault : ComparisonFault}
      (hsearched : Searched answer texture.path (rivals (before ++ settled) texture) last
        (.error fault))
      (behind : List Dump) :
      Ends answer before (settled.map (·.texture) ++ texture :: behind) settled
        (settled.flatMap (·.calls) ++ last) (.error fault)

section Searching

variable {answer : (earlier later : String) → Except IoFault Bool} {path rival : String}
  {rivals : List String} {calls : List Comparison}
  {found : Except ComparisonFault (Option String)}

theorem Searched.cons
    (hrival : answer rival path = .ok false)
    (h : Searched answer path rivals calls found) :
    Searched answer path (rival :: rivals) (⟨rival, path⟩ :: calls) found := by
  cases h with
  | different hall =>
      exact .different (List.forall_mem_cons.2 ⟨hrival, hall⟩)
  | same hrivals hfront hsame =>
      exact .same (congrArg (rival :: ·) hrivals) (List.forall_mem_cons.2 ⟨hrival, hfront⟩) hsame
  | failed hrivals hfront hfails =>
      exact .failed (congrArg (rival :: ·) hrivals) (List.forall_mem_cons.2 ⟨hrival, hfront⟩)
        hfails

/-- A search finds something or nothing exactly if all its calls are answered. -/
theorem Searched.isOk_iff (h : Searched answer path rivals calls found) :
    found.isOk = true ↔ ∀ call ∈ calls, (answer call.earlier call.later).isOk = true := by
  have hok : ∀ {earlier same}, answer earlier path = .ok same →
      (answer earlier path).isOk = true := by
    intro earlier same hanswer
    rw [hanswer]
    rfl
  cases h with
  | different hall =>
      refine iff_of_true rfl ?_
      rintro _ hcall
      obtain ⟨other, hother, rfl⟩ := List.mem_map.1 hcall
      exact hok (hall other hother)
  | same hrivals hfront hsame =>
      refine iff_of_true rfl ?_
      rintro _ hcall
      obtain ⟨other, hother, rfl⟩ := List.mem_map.1 hcall
      rcases List.mem_append.1 hother with hother | hother
      · exact hok (hfront other hother)
      · rw [List.mem_singleton.1 hother]
        exact hok hsame
  | @failed front behind rival cause hrivals hfront hfails =>
      refine iff_of_false nofun fun hcalls => ?_
      have hlast := hcalls ⟨rival, path⟩ (List.mem_map_of_mem (by simp))
      rw [hfails] at hlast
      cases hlast

end Searching

section Runs

variable {σ : Type} {compare : Comparer σ}
  {answer : (earlier later : String) → Except IoFault Bool}

/-- The comparer is called as a search says. -/
theorem searched_findSame
    (h : compare.Answers answer)
    (path : String)
    (rivals : List String)
    (state : σ) :
    Searched answer path rivals ((findSame compare path rivals).run state).1.1
      ((findSame compare path rivals).run state).1.2 := by
  induction rivals generalizing state with
  | nil =>
      exact .different nofun
  | cons rival rivals ih =>
      rcases hcall : (compare rival path).run state with ⟨reply, next⟩
      have hreply : answer rival path = reply := by
        rw [← h state rival path, hcall]
      rw [findSame, StateT.run_bind, hcall]
      cases reply with
      | error cause =>
          exact .failed (List.nil_append _).symm nofun hreply
      | ok same =>
          cases same with
          | true =>
              exact .same (List.nil_append _).symm nofun hreply
          | false =>
              exact (ih next).cons hreply

/-- The calls that come with a result are those that were put on record. -/
def Records
    {α : Type}
    (plain : StateM σ (List Comparison × α))
    (record : StateM (σ × List Comparison) (List Comparison × α)) :
    Prop :=
  ∀ state calls, record.run (state, calls) =
    ((plain.run state).1, (plain.run state).2, calls ++ (plain.run state).1.1)

theorem records_pure
    {α : Type}
    (result : α) :
    Records (pure ([], result) : StateM σ _) (pure ([], result)) := by
  intro state calls
  change (([], result), state, calls) = (([], result), state, calls ++ [])
  rw [List.append_nil]

/-- What was put on record before stays in front. -/
theorem Records.andThen
    {α β : Type}
    {plain : StateM σ (List Comparison × α)}
    {record : StateM (σ × List Comparison) (List Comparison × α)}
    (h : Records plain record)
    (made : List Comparison)
    (f : α → β)
    (state : σ)
    (calls : List Comparison) :
    let plain' := plain >>= fun later => pure (made ++ later.1, f later.2)
    let record' := record >>= fun later => pure (made ++ later.1, f later.2)
    record'.run (state, calls ++ made) =
      ((plain'.run state).1, (plain'.run state).2, calls ++ (plain'.run state).1.1) := by
  intro plain' record'
  rw [StateT.run_bind, h, List.append_assoc]
  rfl

theorem run_recorded_comparer
    {earlier later : String}
    {state next : σ}
    {reply : Except IoFault Bool}
    (hcall : (compare earlier later).run state = (reply, next))
    (calls : List Comparison) :
    (compare.recorded earlier later).run (state, calls) =
      (reply, next, calls ++ [⟨earlier, later⟩]) := by
  simp only [Comparer.recorded, StateT.run_bind, StateT.run_get, StateT.run_set,
    StateT.run_pure, pure_bind, hcall]
  rfl

theorem records_findSame
    (compare : Comparer σ)
    (path : String)
    (rivals : List String) :
    Records (findSame compare path rivals) (findSame compare.recorded path rivals) := by
  induction rivals with
  | nil =>
      exact records_pure (Except.ok none)
  | cons rival rivals ih =>
      intro state calls
      rcases hcall : (compare rival path).run state with ⟨cause | _ | _, next⟩ <;>
        rw [findSame, findSame, StateT.run_bind, StateT.run_bind, hcall,
          run_recorded_comparer hcall]
      · rfl
      · exact ih.andThen [⟨rival, path⟩] id next calls
      · rfl

/-- Textures are classified by the calls that are said to be made, and no others. -/
theorem records_classifyAfter
    (compare : Comparer σ)
    (exemplars textures : List Dump) :
    Records (classifyAfter compare exemplars textures)
      (classifyAfter compare.recorded exemplars textures) := by
  induction textures generalizing exemplars with
  | nil =>
      exact records_pure (Except.ok [])
  | cons texture textures ih =>
      intro state calls
      have hrecord :=
        records_findSame compare texture.path (candidates exemplars texture) state calls
      rcases hfind : (findSame compare texture.path (candidates exemplars texture)).run state with
        ⟨⟨made, found⟩, next⟩
      rw [hfind] at hrecord
      rw [classifyAfter, classifyAfter, StateT.run_bind, StateT.run_bind, hfind, hrecord]
      rcases found with fault | _ | exemplar
      · rfl
      · exact (ih (exemplars ++ [texture])).andThen made
          (Except.map (.exemplar texture.path :: ·)) next calls
      · exact (ih exemplars).andThen made
          (Except.map (.copy texture.path exemplar :: ·)) next calls

/-- The exemplars among settled textures. -/
def exemplarsOf (settled : List Settled) : List Dump :=
  (settled.filter (·.same.isNone)).map (·.texture)

theorem candidates_exemplarsOf
    (settled : List Settled)
    (texture : Dump) :
    candidates (exemplarsOf settled) texture = rivals settled texture := by
  simp [candidates, exemplarsOf, rivals, List.filter_map, List.filter_filter, Function.comp_def,
    Bool.and_comm]

theorem InTurn.concat
    {settled : List Settled}
    {item : Settled}
    (h : InTurn answer settled)
    (hitem : Searched answer item.texture.path (rivals settled item.texture) item.calls
      (.ok item.same)) :
    InTurn answer (settled ++ [item]) := by
  intro front other behind hsettled
  rcases List.eq_nil_or_concat' behind with rfl | ⟨behind, last, rfl⟩
  · obtain ⟨rfl, hlast⟩ := List.append_inj' hsettled rfl
    cases hlast
    exact hitem
  · rw [← List.cons_append, ← List.append_assoc] at hsettled
    exact h front other behind (List.append_inj_left' hsettled rfl)

theorem Ends.cons
    {before settled : List Settled}
    {item : Settled}
    {textures : List Dump}
    {calls : List Comparison}
    {result : Except ComparisonFault (List Verdict)}
    (h : Ends answer (before ++ [item]) textures settled calls result) :
    Ends answer before (item.texture :: textures) (item :: settled) (item.calls ++ calls)
      (result.map (item.verdict :: ·)) := by
  cases h with
  | all =>
      exact .all (item :: settled)
  | failed hsearched behind =>
      rw [List.append_assoc, List.singleton_append] at hsearched
      rw [← List.append_assoc]
      exact .failed hsearched behind

/-- Textures are taken in turn, each compared with its rivals. -/
theorem exists_ends
    (h : compare.Answers answer)
    {before : List Settled}
    (hbefore : InTurn answer before)
    (textures : List Dump)
    (state : σ) :
    ∃ settled, InTurn answer (before ++ settled) ∧
      Ends answer before textures settled
        ((classifyAfter compare (exemplarsOf before) textures).run state).1.1
        ((classifyAfter compare (exemplarsOf before) textures).run state).1.2 := by
  -- What is settled grows at its end, so the exemplars are always those of the settled ones.
  induction textures generalizing before state with
  | nil =>
      exact ⟨[], by rwa [List.append_nil], .all []⟩
  | cons texture textures ih =>
      have hsearched := searched_findSame h texture.path (rivals before texture) state
      rcases hfind : (findSame compare texture.path (rivals before texture)).run state with
        ⟨⟨made, found⟩, next⟩
      rw [hfind] at hsearched
      rw [classifyAfter, candidates_exemplarsOf, StateT.run_bind, hfind]
      cases found with
      | error fault =>
          have hlast : Searched answer texture.path (rivals (before ++ []) texture) made
              (.error fault) := by
            rwa [List.append_nil]
          exact ⟨[], by rwa [List.append_nil], .failed hlast textures⟩
      | ok same =>
          let item : Settled := ⟨texture, same, made⟩
          have hitem : InTurn answer (before ++ [item]) := hbefore.concat hsearched
          obtain ⟨settled, hturn, hends⟩ := ih hitem next
          refine ⟨⟨texture, same, made⟩ :: settled, ?_, ?_⟩
          · rwa [List.append_assoc] at hturn
          · cases same with
            | none =>
                have hexemplars : exemplarsOf (before ++ [⟨texture, none, made⟩]) =
                    exemplarsOf before ++ [texture] := by
                  simp [exemplarsOf]
                rw [hexemplars] at hends
                exact hends.cons
            | some exemplar =>
                have hexemplars : exemplarsOf (before ++ [⟨texture, some exemplar, made⟩]) =
                    exemplarsOf before := by
                  simp [exemplarsOf]
                rw [hexemplars] at hends
                exact hends.cons

end Runs

section Verdicts

variable {answer : (earlier later : String) → Except IoFault Bool} {settled : List Settled}

theorem mem_rivals
    {texture : Dump}
    {path : String} :
    path ∈ rivals settled texture ↔
      ∃ item ∈ settled, item.same = none ∧ item.texture.size = texture.size ∧
        item.texture.path = path := by
  simp only [rivals, List.mem_map, List.mem_filter, Bool.and_eq_true, Option.isNone_iff_eq_none,
    beq_iff_eq, and_assoc]

theorem Searched.of_same
    {path exemplar : String}
    {rivals : List String}
    {calls : List Comparison}
    (h : Searched answer path rivals calls (.ok (some exemplar))) :
    exemplar ∈ rivals ∧ answer exemplar path = .ok true := by
  cases h with
  | same hrivals hfront hsame =>
      exact ⟨hrivals ▸ List.mem_append_right _ List.mem_cons_self, hsame⟩

theorem Searched.of_different
    {path : String}
    {rivals : List String}
    {calls : List Comparison}
    (h : Searched answer path rivals calls (.ok none)) :
    ∀ rival ∈ rivals, answer rival path = .ok false := by
  cases h with
  | different hall =>
      exact hall

/-- A copy is the same as an exemplar before it, which has its size. -/
theorem InTurn.exists_exemplar
    (h : InTurn answer settled)
    {front behind : List Settled}
    {item : Settled}
    (hitem : settled = front ++ item :: behind)
    {exemplar : String}
    (hsame : item.same = some exemplar) :
    answer exemplar item.texture.path = .ok true ∧
      ∃ earlier ∈ front, earlier.same = none ∧ earlier.texture.size = item.texture.size ∧
        earlier.texture.path = exemplar := by
  have hsearched := h front item behind hitem
  rw [hsame] at hsearched
  obtain ⟨hrival, hanswer⟩ := hsearched.of_same
  exact ⟨hanswer, mem_rivals.1 hrival⟩

/-- Two exemplars of the same size are told apart by the comparer. -/
theorem InTurn.pairwise_different (h : InTurn answer settled) :
    settled.Pairwise fun earlier later =>
      earlier.same = none → later.same = none → earlier.texture.size = later.texture.size →
        answer earlier.texture.path later.texture.path = .ok false := by
  induction settled using List.reverseRecOn with
  | nil =>
      exact .nil
  | append_singleton settled last ih =>
      have hfront : InTurn answer settled := by
        rintro front item behind rfl
        exact h front item (behind ++ [last]) (by simp)
      refine List.pairwise_append.2 ⟨ih hfront, List.pairwise_singleton _ _, ?_⟩
      intro earlier hearlier later hlater hexemplar hother hsize
      obtain rfl := List.mem_singleton.1 hlater
      have hsearched := h settled later [] rfl
      rw [hother] at hsearched
      exact hsearched.of_different _ (mem_rivals.2 ⟨earlier, hearlier, hexemplar, hsize, rfl⟩)

theorem InTurn.calls_ok (h : InTurn answer settled) :
    ∀ call ∈ settled.flatMap (·.calls), (answer call.earlier call.later).isOk = true := by
  intro call hcall
  obtain ⟨item, hitem, hcall⟩ := List.mem_flatMap.1 hcall
  obtain ⟨front, behind, hsettled⟩ := List.append_of_mem hitem
  exact (h front item behind hsettled).isOk_iff.1 rfl call hcall

/-- Only a call that fails ends it before the last texture. -/
theorem Ends.isOk_iff
    {textures : List Dump}
    {calls : List Comparison}
    {result : Except ComparisonFault (List Verdict)}
    (h : Ends answer [] textures settled calls result)
    (hturn : InTurn answer settled) :
    result.isOk = true ↔ ∀ call ∈ calls, (answer call.earlier call.later).isOk = true := by
  cases h with
  | all =>
      exact iff_of_true rfl hturn.calls_ok
  | failed hsearched behind =>
      refine iff_of_false nofun fun hcalls => ?_
      have hok := hsearched.isOk_iff.2 fun call hcall =>
        hcalls call (List.mem_append_right _ hcall)
      cases hok

end Verdicts

/-- What looking for copies among the entries of a folder comes to. -/
structure Compared
    (answer : (earlier later : String) → Except IoFault Bool)
    (folder : String)
    (entries : List (String × Entry))
    (textures : List Dump)
    (settled : List Settled)
    (calls : List Comparison)
    (result : Except ComparisonFault (List Verdict)) :
    Prop where
  /-- The textures are the entries, neither folders nor links, with the name of a texture. -/
  textures_iff : ∀ dump, dump ∈ textures ↔
    ∃ name entry, (name, entry) ∈ entries ∧
      entry ≠ .folder ∧ (∀ target, entry ≠ .link target) ∧
      isDumpName name.toList = true ∧ dump = ⟨entryPath folder name, entry.size⟩
  /-- They come in the order of the bytes of their names. -/
  ordered : textures.Pairwise fun a b => ∃ earlier later,
    a.path = entryPath folder earlier ∧ b.path = entryPath folder later ∧
    encode earlier < encode later
  /-- Each was compared with the exemplars of its size before it. -/
  inTurn : InTurn answer settled
  /-- All of them have their verdicts, or the last call failed. -/
  ends : Ends answer [] textures settled calls result
  /-- There is a result exactly if no call failed. -/
  isOk_iff : result.isOk = true ↔ ∀ call ∈ calls, (answer call.earlier call.later).isOk = true
  /-- A copy is the same as an exemplar before it, which has its size. -/
  originals : ∀ front item behind exemplar, settled = front ++ item :: behind →
    item.same = some exemplar →
    answer exemplar item.texture.path = .ok true ∧
      ∃ earlier ∈ front, earlier.same = none ∧ earlier.texture.size = item.texture.size ∧
        earlier.texture.path = exemplar
  /-- Exemplars of one size are different. -/
  different : settled.Pairwise fun earlier later =>
    earlier.same = none → later.same = none → earlier.texture.size = later.texture.size →
      answer earlier.texture.path later.texture.path = .ok false

section Folder

variable {σ : Type} {compare : Comparer σ}
  {answer : (earlier later : String) → Except IoFault Bool}
  {tree : FileTree} {folder : String} {entries : List (String × Entry)}

theorem run_findCopies
    (hentries : tree.readFolder folder = .ok entries)
    (state : σ) :
    (findCopies tree folder compare).run state =
      ((((classify compare (ofEntries folder entries)).run state).1.1,
        ((classify compare (ofEntries folder entries)).run state).1.2.mapError .comparison),
        ((classify compare (ofEntries folder entries)).run state).2) := by
  rw [findCopies, hentries]
  rfl

/-- Looking for copies in a folder, whatever the comparer answers and in whatever order the
folder lists its entries.  Each texture is compared with the exemplars of its size before it, up
to the first that is the same or cannot be compared, and no other calls are made. -/
theorem findCopies_compares
    (hanswer : compare.Answers answer)
    (hentries : tree.readFolder folder = .ok entries)
    (hnames : (entries.map Prod.fst).Nodup)
    (state : σ) :
    ∃ textures settled calls result next,
      (findCopies tree folder compare).run state =
        ((calls, result.mapError .comparison), next) ∧
      (findCopies tree folder compare.recorded).run (state, []) =
        ((calls, result.mapError .comparison), next, calls) ∧
      Compared answer folder entries textures settled calls result := by
  have hnil : InTurn answer [] := by
    intro front item behind hsettled
    cases front <;> cases hsettled
  obtain ⟨settled, hturn, hends⟩ := exists_ends hanswer hnil (ofEntries folder entries) state
  rw [List.nil_append] at hturn
  refine ⟨ofEntries folder entries, settled, _, _, _, run_findCopies hentries state, ?_, ?_⟩
  · rw [run_findCopies hentries, classify, records_classifyAfter compare, List.nil_append]
    rfl
  · refine ⟨fun dump => ?_, ?_, hturn, hends, hends.isOk_iff hturn, ?_,
      hturn.pairwise_different⟩
    · simp only [mem_ofEntries_iff_leaf, Entry.isLeaf_iff, and_assoc]
    · refine (ofEntries_precedes folder (List.pairwise_map.1 hnames)).imp ?_
      rintro a b ⟨earlier, later, ha, hb, hle, hne⟩
      have hless : earlier < later := String.not_le.1 fun hge => hne (String.le_antisymm hle hge)
      exact ⟨earlier, later, ha, hb, encode_lt_encode hless⟩
    · intro front item behind exemplar hsettled hsame
      exact hturn.exists_exemplar hsettled hsame

/-- Five textures, one of them of another size and one a pipe, among entries that are no
textures. -/
def mixedFolder : FileTree :=
  .ofEntries [(["d"], .folder), (["d", "EID_2_tex0-a"], .file [1]),
    (["d", "EID_10_tex0-a"], .file [2]), (["d", "notes"], .file [3]),
    (["d", "EID_1_tex0-a"], .file [4]), (["d", "EID_3_tex0-a"], .link "notes"),
    (["d", "EID_4_tex0-a"], .folder), (["d", "EID_1_tex1-a"], .file [5, 6]),
    (["d", "EID_5_tex0-a"], .device ⟨.holding [7], .dropping⟩)]

/-- One of the textures is the same as the one before it. -/
def mixedAnswer (earlier later : String) : Except IoFault Bool :=
  .ok (earlier == "/d/EID_1_tex0-a" && later == "/d/EID_2_tex0-a")

theorem findCopies_mixedFolder :
    ∃ textures settled calls verdicts,
      (findCopies mixedFolder "/d" (.ofAnswers mixedAnswer)).run () = ((calls, .ok verdicts), ()) ∧
      Compared mixedAnswer "/d" (mixedFolder.children ["d"]) textures settled calls
        (.ok verdicts) := by
  have hway : mixedFolder.Reaches [] (namesOf "/d") 0 ["d"] :=
    .enter rfl (by decide) rfl (.done rfl)
  have hfolder : mixedFolder.entryAt "/d" = .ok (["d"], .folder) :=
    entryAt_eq_folder_iff.2 ⟨by decide, 0, Nat.zero_le _, hway⟩
  have hentries : mixedFolder.readFolder "/d" = .ok (mixedFolder.children ["d"]) := by
    rw [readFolder, hfolder]
  have hanswers : (Comparer.ofAnswers mixedAnswer : Comparer Unit).Answers mixedAnswer :=
    fun _ _ _ => rfl
  obtain ⟨textures, settled, calls, result, next, hrun, -, hcompared⟩ :=
    findCopies_compares hanswers hentries (by decide) ()
  have hok : result.isOk = true := hcompared.isOk_iff.2 fun _ _ => rfl
  cases result with
  | error fault =>
      cases hok
  | ok verdicts =>
      exact ⟨textures, settled, calls, verdicts, hrun, hcompared⟩

end Folder

end Texture
end CaptureKit
