import CaptureKit.Proofs.Storage.EntryAccess
import Mathlib.Data.List.Chain

/-!
# Resolved paths

A resolved path is written out from the root: its steps, each behind one slash.  What it was
resolved from is seen in three places only, namely whether the path starts with two slashes,
which steps it has, and whether it asks for a folder by a slash at its end.  All three are read
off the path again, so resolving a resolved path changes nothing.

Main statement: which steps a resolved path has, how it is written, and that it is resolved once
and for all (`resolve_exact`).
-/

namespace CaptureKit
namespace Storage

/-- A name that is a step of its own: it is not empty, does not stay in place, and holds no
slash. -/
structure IsStep (name : List Char) : Prop where
  nonempty : name ≠ []
  moves : name ≠ ['.']
  noSlash : '/' ∉ name

/-- Not both of two neighbours are slashes. -/
def Apart (a b : Char) : Prop :=
  a ≠ '/' ∨ b ≠ '/'

/-- The names from the root to where a path leads: its own if it is absolute, those of the home
folder and of what is behind a first name `~`, and otherwise those of the working folder and its
own. -/
def Places.way
    (places : Places)
    (path : List Char) :
    List (List Char) :=
  if isAbsolute path then steps path
  else
    match names path with
    | ['~'] :: rest => places.fullSteps places.home.toList ++ rest.filter (· != ['.'])
    | _ => steps places.workingFolder.toList ++ steps path

section Names

variable {path rest : List Char}

theorem isStep_of_mem_steps
    {name : List Char}
    (h : name ∈ steps path) :
    IsStep name := by
  obtain ⟨hname, hmoves⟩ := List.mem_filter.1 h
  obtain ⟨hsegment, hnonempty⟩ := List.mem_filter.1 hname
  refine ⟨?_, bne_iff_ne.1 hmoves, slash_not_mem_of_mem_segments hsegment⟩
  rintro rfl
  cases hnonempty

theorem isStep_of_mem_fullSteps
    {places : Places}
    {name : List Char}
    (h : name ∈ places.fullSteps path) :
    IsStep name := by
  rw [Places.fullSteps] at h
  split at h
  · exact isStep_of_mem_steps h
  · exact (List.mem_append.1 h).elim isStep_of_mem_steps isStep_of_mem_steps

/-- What follows a leading `~` is found where `~` is the first name of a relative path. -/
theorem names_of_afterHome?_eq_some
    (h : afterHome? path = some rest) :
    isAbsolute path = false ∧ names path = ['~'] :: names rest := by
  unfold afterHome? at h
  split at h
  · cases h
    exact ⟨rfl, rfl⟩
  · cases h
    exact ⟨rfl, names_append_slash ['~'] rest⟩
  · cases h

/-- Nothing follows a leading `~` where the first name is another one, or the path is absolute. -/
theorem names_of_afterHome?_eq_none
    (h : afterHome? path = none)
    (hrelative : isAbsolute path = false) :
    (names path).head? ≠ some ['~'] := by
  cases path with
  | nil =>
      decide
  | cons c s =>
      have hc : c ≠ '/' := by
        rintro rfl
        cases hrelative
      intro hfirst
      rw [names, segments, if_neg hc] at hfirst
      split at hfirst
      · next hnil =>
          exact absurd hnil (segments_ne_nil s)
      · next segment others hsegments =>
          rw [List.filter_cons_of_pos rfl, List.head?_cons, Option.some.injEq] at hfirst
          obtain ⟨rfl, rfl⟩ := List.cons.inj hfirst
          -- The text behind `~` starts with an empty part, so it is empty or starts with a slash.
          cases s with
          | nil =>
              cases h
          | cons d s =>
              have hd : d ≠ '/' := by
                rintro rfl
                cases h
              rw [segments, if_neg hd] at hsegments
              split at hsegments <;> cases (List.cons.inj hsegments).1

end Names

section Written

variable {doubled asFolder : Bool} {ss : List (List Char)}

/-- A path without steps is one slash, or two. -/
theorem absolutePath_nil (doubled asFolder : Bool) :
    absolutePath doubled [] asFolder = if doubled then ['/', '/'] else ['/'] := by
  cases doubled <;> simp [absolutePath]

/-- A path with steps is written with one slash before each. -/
theorem absolutePath_eq
    (doubled asFolder : Bool)
    (hss : ss ≠ []) :
    absolutePath doubled ss asFolder =
      (if doubled then ['/'] else []) ++
        (ss.flatMap ('/' :: ·) ++ if asFolder then ['/'] else []) := by
  have hjoined : '/' :: ['/'].intercalate ss = ss.flatMap ('/' :: ·) := by
    induction ss with
    | nil =>
        exact absurd rfl hss
    | cons s ss ih =>
        cases ss with
        | nil =>
            simp
        | cons next ss =>
            rw [List.intercalate_cons_cons, List.flatMap_cons, ← ih (List.cons_ne_nil next ss)]
            simp
  have hempty : ss.isEmpty = false := by simpa using hss
  rw [← hjoined, absolutePath, hempty]
  cases doubled <;> simp

theorem isAbsolute_absolutePath
    (doubled asFolder : Bool)
    (ss : List (List Char)) :
    isAbsolute (absolutePath doubled ss asFolder) = true := by
  cases doubled <;> rfl

/-- Names are told apart where a slash comes next, or nothing does. -/
theorem names_append_of_head?
    {behind : List Char}
    (h : ∀ c ∈ behind.head?, c = '/')
    (front : List Char) :
    names (front ++ behind) = names front ++ names behind := by
  cases behind with
  | nil =>
      rw [List.append_nil]
      exact (List.append_nil _).symm
  | cons c behind =>
      obtain rfl : c = '/' := h c rfl
      have hslash : names ('/' :: behind) = names behind := names_append_slash [] behind
      rw [names_append_slash, hslash]

section Behind

variable {behind : List Char} (hbehind : ∀ c ∈ behind.head?, c = '/')
include hbehind

theorem eq_slash_of_mem_head?_flatMap :
    ∀ c ∈ (ss.flatMap ('/' :: ·) ++ behind).head?, c = '/' := by
  cases ss with
  | nil =>
      exact hbehind
  | cons s ss =>
      rintro c ⟨⟩
      rfl

/-- Steps that are written one after the other are the names of what is written. -/
theorem names_flatMap
    (hss : ∀ s ∈ ss, IsStep s) :
    names (ss.flatMap ('/' :: ·) ++ behind) = ss ++ names behind := by
  induction ss with
  | nil =>
      rfl
  | cons s ss ih =>
      obtain ⟨hs, hrest⟩ := List.forall_mem_cons.1 hss
      rw [List.flatMap_cons, List.append_assoc, List.cons_append,
        show '/' :: (s ++ (ss.flatMap ('/' :: ·) ++ behind)) =
          [] ++ '/' :: (s ++ (ss.flatMap ('/' :: ·) ++ behind)) from rfl,
        names_append_slash, names_append_of_head? (eq_slash_of_mem_head?_flatMap hbehind),
        names_of_slash_not_mem hs.noSlash hs.nonempty, ih hrest]
      rfl

end Behind

/-- No two slashes are neighbours where steps are written one after the other. -/
theorem isChain_flatMap
    {behind : List Char}
    (hbehind : behind.IsChain Apart)
    (hss : ∀ s ∈ ss, IsStep s) :
    (ss.flatMap ('/' :: ·) ++ behind).IsChain Apart := by
  induction ss with
  | nil =>
      exact hbehind
  | cons s ss ih =>
      obtain ⟨hs, hrest⟩ := List.forall_mem_cons.1 hss
      have hother : ∀ c ∈ s, c ≠ '/' := fun c hc hslash => hs.noSlash (hslash ▸ hc)
      have hchain : s.IsChain Apart :=
        (List.pairwise_of_forall_mem_list fun c hc _ _ => .inl (hother c hc)).isChain
      rw [List.flatMap_cons, List.append_assoc, List.cons_append, List.isChain_cons]
      refine ⟨?_, List.isChain_append.2 ⟨hchain, ih hrest, ?_⟩⟩
      · intro c hc
        obtain ⟨first, others, rfl⟩ := List.exists_cons_of_ne_nil hs.nonempty
        obtain rfl : first = c := Option.some.inj hc
        exact .inr (hother first List.mem_cons_self)
      · intro c hc _ _
        exact .inl (hother c (List.mem_of_getLast? hc))

/-- The names of a path that is written out are its steps. -/
theorem names_absolutePath
    (doubled asFolder : Bool)
    (hss : ∀ s ∈ ss, IsStep s) :
    names (absolutePath doubled ss asFolder) = ss := by
  by_cases hempty : ss = []
  · subst hempty
    rw [absolutePath_nil]
    cases doubled <;> rfl
  · have hnames : names (ss.flatMap ('/' :: ·) ++ if asFolder then ['/'] else []) = ss := by
      rw [names_flatMap _ hss]
      · cases asFolder <;> exact List.append_nil ss
      · cases asFolder <;> simp
    rw [absolutePath_eq doubled asFolder hempty]
    cases doubled with
    | false => exact hnames
    | true => exact (names_append_slash [] _).trans hnames

/-- Behind the first character, a path that is written out has no two slashes in a row. -/
theorem isChain_tail_absolutePath
    (doubled asFolder : Bool)
    (hss : ∀ s ∈ ss, IsStep s) :
    (absolutePath doubled ss asFolder).tail.IsChain Apart := by
  by_cases hempty : ss = []
  · subst hempty
    rw [absolutePath_nil]
    cases doubled <;> simp
  · have hchain : (ss.flatMap ('/' :: ·) ++ if asFolder then ['/'] else []).IsChain Apart :=
      isChain_flatMap (by cases asFolder <;> simp) hss
    rw [absolutePath_eq doubled asFolder hempty]
    cases doubled with
    | false => exact hchain.tail
    | true => exact hchain

/-- Two slashes at the start of a path that is written out were asked for. -/
theorem startsDoubled_absolutePath
    (doubled asFolder : Bool)
    (hss : ∀ s ∈ ss, IsStep s) :
    startsDoubled (absolutePath doubled ss asFolder) = doubled := by
  cases ss with
  | nil =>
      rw [absolutePath_nil]
      cases doubled <;> rfl
  | cons s ss =>
      have hs := hss s List.mem_cons_self
      obtain ⟨c, s, rfl⟩ := List.exists_cons_of_ne_nil hs.nonempty
      have hc : c ≠ '/' := fun h => hs.noSlash (h ▸ List.mem_cons_self)
      rw [absolutePath_eq doubled asFolder (List.cons_ne_nil _ _)]
      cases doubled <;> simp [startsDoubled, hc]

/-- A slash at the end of a path that is written out was asked for, if there are steps. -/
theorem endsInSlash_absolutePath
    (doubled asFolder : Bool)
    (hss : ∀ s ∈ ss, IsStep s)
    (hempty : ss ≠ []) :
    endsInSlash (absolutePath doubled ss asFolder) = asFolder := by
  rw [absolutePath_eq doubled asFolder hempty]
  cases asFolder with
  | true =>
      simp [endsInSlash]
  | false =>
      obtain ⟨front, last, rfl⟩ := (List.eq_nil_or_concat' ss).resolve_left hempty
      have hlast := hss last List.mem_concat_self
      rw [endsInSlash, beq_eq_false_iff_ne]
      intro hslash
      refine hlast.noSlash (List.mem_of_getLast? ?_)
      obtain ⟨c, last, rfl⟩ := List.exists_cons_of_ne_nil hlast.nonempty
      simpa [List.getLast?_append, List.getLast?_cons_cons] using hslash

/-- A path that is written out is resolved as it is. -/
theorem Places.absoluteOf_absolutePath
    (places : Places)
    (doubled asFolder : Bool)
    (hss : ∀ s ∈ ss, IsStep s) :
    places.absoluteOf (absolutePath doubled ss asFolder) = absolutePath doubled ss asFolder := by
  have habsolute := isAbsolute_absolutePath doubled asFolder ss
  have hnonempty : (absolutePath doubled ss asFolder).isEmpty = false := by
    cases doubled <;> rfl
  have hsteps : steps (absolutePath doubled ss asFolder) = ss := by
    rw [steps, names_absolutePath doubled asFolder hss, List.filter_eq_self.2]
    exact fun s hs => bne_iff_ne.2 (hss s hs).moves
  rw [absoluteOf, hnonempty, if_neg Bool.false_ne_true, origin, if_pos habsolute, fullSteps,
    if_pos habsolute, hsteps, startsDoubled_absolutePath doubled asFolder hss]
  by_cases hempty : ss = []
  · subst hempty
    rw [absolutePath_nil, absolutePath_nil]
  · rw [endsInSlash_absolutePath doubled asFolder hss hempty]

end Written

section Resolving

variable (places : Places)

theorem Places.isStep_of_mem_way
    {path name : List Char}
    (h : name ∈ places.way path) :
    IsStep name := by
  rw [way] at h
  split at h
  · exact isStep_of_mem_steps h
  · split at h
    · next rest hnames =>
        rcases List.mem_append.1 h with hhome | hrest
        · exact isStep_of_mem_fullSteps hhome
        · obtain ⟨hmem, hmoves⟩ := List.mem_filter.1 hrest
          have hname : name ∈ names path := hnames ▸ List.mem_cons_of_mem _ hmem
          exact isStep_of_mem_steps (List.mem_filter.2 ⟨hname, hmoves⟩)
    · exact (List.mem_append.1 h).elim isStep_of_mem_steps isStep_of_mem_steps

/-- A path that is not empty is written out along its way. -/
theorem Places.exists_resolve_eq
    {path : String}
    (h : path ≠ "") :
    ∃ doubled asFolder,
      places.resolve path =
        String.ofList (absolutePath doubled (places.way path.toList) asFolder) := by
  have hnonempty : path.toList.isEmpty = false := by simpa using h
  rw [resolve]
  cases hhome : afterHome? path.toList with
  | some rest =>
      obtain ⟨hrelative, hnames⟩ := names_of_afterHome?_eq_some hhome
      rw [way, hrelative, hnames]
      exact ⟨_, _, rfl⟩
  | none =>
      have hway : places.way path.toList = places.fullSteps path.toList := by
        by_cases habsolute : isAbsolute path.toList = true
        · rw [way, if_pos habsolute, fullSteps, if_pos habsolute]
        · have hfirst := names_of_afterHome?_eq_none hhome (Bool.eq_false_iff.2 habsolute)
          rw [way, if_neg habsolute]
          split
          · next rest hnames =>
              rw [hnames] at hfirst
              exact absurd rfl hfirst
          · rw [fullSteps, if_neg habsolute]
      rw [hway, absoluteOf, hnonempty, if_neg Bool.false_ne_true]
      exact ⟨_, _, rfl⟩

/-- A path whose first name is not `~`, or which is absolute, does not lead to the home folder. -/
theorem Places.resolve_withHome
    {path : String}
    (h : isAbsolute path.toList = true ∨ (names path.toList).head? ≠ some ['~'])
    (home : String) :
    Places.resolve { places with home := home } path = places.resolve path := by
  have hhome : afterHome? path.toList = none := by
    cases hhome : afterHome? path.toList with
    | none => rfl
    | some rest =>
        obtain ⟨hrelative, hnames⟩ := names_of_afterHome?_eq_some hhome
        rw [hrelative, hnames] at h
        exact absurd rfl (h.resolve_left Bool.false_ne_true)
  rw [resolve, resolve, hhome]
  rfl

/-- A resolved path is resolved once and for all.  If it was resolved from a path that is not
empty, it is absolute, no name on it stays in place, no two slashes behind its first character are
neighbours, and its names are the way of that path.  The home folder has no part in it unless `~`
is the first name of a relative path. -/
theorem Places.resolve_exact (path : String) :
    places.resolve (places.resolve path) = places.resolve path ∧
    (path ≠ "" →
      isAbsolute (places.resolve path).toList = true ∧
      ['.'] ∉ names (places.resolve path).toList ∧
      ¬ ['/', '/'] <:+: (places.resolve path).toList.tail ∧
      names (places.resolve path).toList = places.way path.toList) ∧
    (isAbsolute path.toList = true ∨ (names path.toList).head? ≠ some ['~'] →
      ∀ home, Places.resolve { places with home := home } path = places.resolve path) := by
  refine ⟨?_, ?_, places.resolve_withHome⟩
  · by_cases hempty : path = ""
    · subst hempty
      rfl
    · obtain ⟨doubled, asFolder, hresolved⟩ := places.exists_resolve_eq hempty
      have hway : ∀ s ∈ places.way path.toList, IsStep s := fun _ => places.isStep_of_mem_way
      have habsolute := isAbsolute_absolutePath doubled asFolder (places.way path.toList)
      have hhome : afterHome? (absolutePath doubled (places.way path.toList) asFolder) = none := by
        cases hhome : afterHome? (absolutePath doubled (places.way path.toList) asFolder) with
        | none => rfl
        | some rest =>
            rw [(names_of_afterHome?_eq_some hhome).1] at habsolute
            cases habsolute
      rw [hresolved, resolve, String.toList_ofList, hhome]
      exact congrArg String.ofList (places.absoluteOf_absolutePath doubled asFolder hway)
  · intro hnonempty
    obtain ⟨doubled, asFolder, hresolved⟩ := places.exists_resolve_eq hnonempty
    have hway : ∀ s ∈ places.way path.toList, IsStep s := fun _ => places.isStep_of_mem_way
    rw [hresolved, String.toList_ofList, names_absolutePath doubled asFolder hway]
    refine ⟨isAbsolute_absolutePath _ _ _, fun hdot => (hway _ hdot).moves rfl, ?_, rfl⟩
    rintro ⟨front, behind, hslashes⟩
    have hchain := isChain_tail_absolutePath doubled asFolder hway
    rw [← hslashes] at hchain
    have hmiddle := (List.isChain_append.1 (List.isChain_append.1 hchain).1).2.1
    simp [Apart] at hmiddle

end Resolving

end Storage
end CaptureKit
