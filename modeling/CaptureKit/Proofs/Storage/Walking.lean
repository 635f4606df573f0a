import CaptureKit.Storage.Access
import Mathlib.Data.List.Basic

/-!
# Ways to a folder

The names of a path lead to a folder through other folders and through links.  How many links
are followed on the way is part of the way (`Reaches`), since only so many may be followed in
all, those behind the folder included.  A way leads over folders and links alone, so it stays the
same when other entries come and go.

Main statements: a walk that ends in a folder, or keeps its last name, has such a way
(`exists_reaches_of_walk`, `exists_reaches_of_walk_keep`), and every walk along a way goes on from
its end with the links that are left (`walk_append`).
-/

namespace CaptureKit
namespace Storage
namespace FileTree

open Text

/-- A name that an entry of a folder can have. -/
def IsEntryName (name : String) : Prop :=
  name ≠ "." ∧ name ≠ "" ∧ name ≠ ".." ∧ name.utf8ByteSize ≤ nameLimit

instance (name : String) : Decidable (IsEntryName name) :=
  inferInstanceAs (Decidable (_ ∧ _))

/-- From one folder the names lead to another one over this number of links. -/
inductive Reaches (tree : FileTree) : Location → List String → Nat → Location → Prop
  | done
      {here : Location}
      (hfolder : tree.get? here = some .folder) :
      Reaches tree here [] 0 here
  | stay
      {here there : Location} {name : String} {rest : List String} {count : Nat}
      (hfolder : tree.get? here = some .folder)
      (hname : name = "." ∨ name = "")
      (hrest : Reaches tree here rest count there) :
      Reaches tree here (name :: rest) count there
  | parent
      {here there : Location} {rest : List String} {count : Nat}
      (hfolder : tree.get? here = some .folder)
      (hrest : Reaches tree here.dropLast rest count there) :
      Reaches tree here (".." :: rest) count there
  | enter
      {here there : Location} {name : String} {rest : List String} {count : Nat}
      (hfolder : tree.get? here = some .folder)
      (hname : IsEntryName name)
      (hentry : tree.get? (here ++ [name]) = some .folder)
      (hrest : Reaches tree (here ++ [name]) rest count there) :
      Reaches tree here (name :: rest) count there
  | link
      {here there : Location} {name target : String} {rest : List String} {count : Nat}
      (hfolder : tree.get? here = some .folder)
      (hname : IsEntryName name)
      (hentry : tree.get? (here ++ [name]) = some (.link target))
      (hrest : Reaches tree (if isAbsolute target.toList then [] else here)
        (route target.toList ++ rest) count there) :
      Reaches tree here (name :: rest) (count + 1) there

section Steps

variable {tree : FileTree} {ending : Ending} {links : Nat} {here : Location} {name : String}
  {rest : List String}

theorem walk_cons_of_stay
    (hfolder : tree.get? here = some .folder)
    (hname : name = "." ∨ name = "") :
    tree.walk ending links here (name :: rest) = tree.walk ending links here rest := by
  rw [walk, if_neg (not_not_intro hfolder), if_pos hname]

theorem walk_cons_of_parent (hfolder : tree.get? here = some .folder) :
    tree.walk ending links here (".." :: rest) = tree.walk ending links here.dropLast rest := by
  rw [walk, if_neg (not_not_intro hfolder), if_neg (by decide), if_pos rfl]

/-- The name of an entry leads to the entry. -/
theorem walk_cons_of_isEntryName
    (hfolder : tree.get? here = some .folder)
    (hname : IsEntryName name)
    (hending : ending ≠ .create) :
    tree.walk ending links here (name :: rest) =
      match tree.get? (here ++ [name]) with
      | none =>
          if rest.isEmpty && !isSealed here then .ok (.vacant here name) else .error .noEntry
      | some (.link target) =>
          if rest.isEmpty && ending == .keep then
            .ok (.found (here ++ [name]) (.link target))
          else if links = 0 then .error .tooManyLinks
          else
            tree.walk ending (links - 1) (if isAbsolute target.toList then [] else here)
              (route target.toList ++ rest)
      | some _ => tree.walk ending links (here ++ [name]) rest := by
  obtain ⟨hdot, hempty, hparent, hshort⟩ := hname
  rw [walk, if_neg (not_not_intro hfolder), if_neg (not_or.2 ⟨hdot, hempty⟩), if_neg hparent,
    if_neg (fun h => hending h.1), if_neg (Nat.not_lt.2 hshort)]
  cases tree.get? (here ++ [name]) with
  | none => rfl
  | some entry => cases entry <;> cases links <;> rfl

/-- A name that a walk passes is one that an entry can have, unless it stands for a folder. -/
theorem isEntryName_of_walk_cons
    {landing : Landing}
    (hdot : name ≠ ".")
    (hempty : name ≠ "")
    (hparent : name ≠ "..")
    (h : tree.walk ending links here (name :: rest) = .ok landing) :
    IsEntryName name := by
  refine ⟨hdot, hempty, hparent, Nat.not_lt.1 fun hlong => ?_⟩
  rw [walk, if_neg (not_or.2 ⟨hdot, hempty⟩), if_neg hparent, if_pos hlong] at h
  split at h
  · cases h
  · split at h <;> cases h

/-- The last name leads to the entry that it names, whatever this is, if it is kept. -/
theorem walk_keep_singleton
    (hfolder : tree.get? here = some .folder)
    (hname : IsEntryName name) :
    tree.walk .keep links here [name] =
      match tree.get? (here ++ [name]) with
      | some entry => .ok (.found (here ++ [name]) entry)
      | none => if isSealed here then .error .noEntry else .ok (.vacant here name) := by
  rw [walk_cons_of_isEntryName hfolder hname (by decide)]
  cases hentry : tree.get? (here ++ [name]) with
  | none =>
      cases h : isSealed here <;> rfl
  | some entry =>
      cases entry with
      | link target => rfl
      | _ =>
          dsimp only
          rw [walk, hentry]

/-- A path ends at an entry that is no folder and no link. -/
theorem walk_singleton_of_isLeaf
    {entry : Entry}
    (hfolder : tree.get? here = some .folder)
    (hname : IsEntryName name)
    (hentry : tree.get? (here ++ [name]) = some entry)
    (hleaf : entry.IsLeaf) :
    tree.walk .follow links here [name] = .ok (.found (here ++ [name]) entry) := by
  rw [walk_cons_of_isEntryName hfolder hname (by decide), hentry]
  cases entry with
  | link target =>
      exact hleaf.elim
  | _ =>
      dsimp only
      rw [walk, hentry]

end Steps

section Ways

variable {tree : FileTree}

/-- A way starts in a folder. -/
theorem Reaches.isFolder
    {here there : Location}
    {names : List String}
    {count : Nat}
    (h : tree.Reaches here names count there) :
    tree.get? here = some .folder := by
  cases h <;> assumption

/-- A way ends in a folder. -/
theorem Reaches.isFolder_end
    {here there : Location}
    {names : List String}
    {count : Nat}
    (h : tree.Reaches here names count there) :
    tree.get? there = some .folder := by
  induction h with
  | done hfolder => exact hfolder
  | stay _ _ _ ih => exact ih
  | parent _ _ ih => exact ih
  | enter _ _ _ _ ih => exact ih
  | link _ _ _ _ ih => exact ih

/-- A walk that ends in a folder went a way to it. -/
theorem exists_reaches_of_walk
    {links : Nat}
    {here there : Location}
    {names : List String}
    (h : tree.walk .follow links here names = .ok (.found there .folder)) :
    ∃ count ≤ links, tree.Reaches here names count there := by
  -- Along the recursion of the walk: each of its steps is a step of the way.
  fun_induction walk tree .follow links here names with
  | case1 links here entry hentry =>
      cases h
      exact ⟨0, Nat.zero_le links, .done hentry⟩
  | case4 links here name rest hfolder hname ih =>
      obtain ⟨count, hcount, hway⟩ := ih h
      exact ⟨count, hcount, .stay (Decidable.not_not.1 hfolder) hname hway⟩
  | case5 links here rest hfolder _ ih =>
      obtain ⟨count, hcount, hway⟩ := ih h
      exact ⟨count, hcount, .parent (Decidable.not_not.1 hfolder) hway⟩
  | case12 here name rest hfolder hstay hparent _ hshort target hentry _ left ih =>
      obtain ⟨hdot, hempty⟩ := not_or.1 hstay
      obtain ⟨count, hcount, hway⟩ := ih h
      exact ⟨count + 1, Nat.succ_le_succ hcount, .link (Decidable.not_not.1 hfolder)
        ⟨hdot, hempty, hparent, Nat.not_lt.1 hshort⟩ hentry hway⟩
  | case13 links here name rest hfolder hstay hparent _ hshort entry _ hentry ih =>
      obtain ⟨hdot, hempty⟩ := not_or.1 hstay
      obtain ⟨count, hcount, hway⟩ := ih h
      exact ⟨count, hcount, .enter (Decidable.not_not.1 hfolder)
        ⟨hdot, hempty, hparent, Nat.not_lt.1 hshort⟩ hway.isFolder hway⟩
  | _ =>
      cases h

/-- A walk that keeps its last name went a way with the names in front of it. -/
theorem exists_reaches_of_walk_keep
    {links : Nat}
    {here : Location}
    {front : List String}
    {last : String}
    {landing : Landing}
    (h : tree.walk .keep links here (front ++ [last]) = .ok landing) :
    ∃ count ≤ links, ∃ folder, tree.Reaches here front count folder := by
  generalize hall : front ++ [last] = all at h
  -- Along the recursion of the walk.  In front of the last name the way ends; where the walk
  -- goes on, what it walks then still has this name at its end.
  fun_induction walk tree .keep links here all generalizing front with
  | case1 links here entry hentry =>
      exact absurd hall (List.concat_ne_nil last front)
  | case4 links here name rest hfolder hname ih =>
      cases front with
      | nil =>
          exact ⟨0, Nat.zero_le links, here, .done (Decidable.not_not.1 hfolder)⟩
      | cons first front =>
          obtain ⟨rfl, hrest⟩ := List.cons.inj hall
          obtain ⟨count, hcount, folder, hway⟩ := ih hrest h
          exact ⟨count, hcount, folder, .stay (Decidable.not_not.1 hfolder) hname hway⟩
  | case5 links here rest hfolder _ ih =>
      cases front with
      | nil =>
          exact ⟨0, Nat.zero_le links, here, .done (Decidable.not_not.1 hfolder)⟩
      | cons first front =>
          obtain ⟨rfl, hrest⟩ := List.cons.inj hall
          obtain ⟨count, hcount, folder, hway⟩ := ih hrest h
          exact ⟨count, hcount, folder, .parent (Decidable.not_not.1 hfolder) hway⟩
  | case8 links here name rest hfolder _ _ _ _ _ hends
  | case10 links here name rest hfolder _ _ _ _ target _ hends =>
      cases front with
      | nil =>
          exact ⟨0, Nat.zero_le links, here, .done (Decidable.not_not.1 hfolder)⟩
      | cons first front =>
          obtain ⟨rfl, rfl⟩ := List.cons.inj hall
          simp at hends
  | case12 here name rest hfolder hstay hparent _ hshort target hentry _ left ih =>
      obtain ⟨hdot, hempty⟩ := not_or.1 hstay
      cases front with
      | nil =>
          exact ⟨0, Nat.zero_le _, here, .done (Decidable.not_not.1 hfolder)⟩
      | cons first front =>
          obtain ⟨rfl, rfl⟩ := List.cons.inj hall
          obtain ⟨count, hcount, folder, hway⟩ := ih (List.append_assoc _ _ _) h
          exact ⟨count + 1, Nat.succ_le_succ hcount, folder,
            .link (Decidable.not_not.1 hfolder) ⟨hdot, hempty, hparent, Nat.not_lt.1 hshort⟩
              hentry hway⟩
  | case13 links here name rest hfolder hstay hparent _ hshort entry _ hentry ih =>
      obtain ⟨hdot, hempty⟩ := not_or.1 hstay
      cases front with
      | nil =>
          exact ⟨0, Nat.zero_le links, here, .done (Decidable.not_not.1 hfolder)⟩
      | cons first front =>
          obtain ⟨rfl, rfl⟩ := List.cons.inj hall
          obtain ⟨count, hcount, folder, hway⟩ := ih rfl h
          exact ⟨count, hcount, folder, .enter (Decidable.not_not.1 hfolder)
            ⟨hdot, hempty, hparent, Nat.not_lt.1 hshort⟩ hway.isFolder hway⟩
  | _ =>
      cases h

/-- A walk along a way goes on from its end, with fewer links left to follow. -/
theorem Reaches.walk_append
    {here there : Location}
    {names : List String}
    {count : Nat}
    (h : tree.Reaches here names count there)
    {ending : Ending}
    (hending : ending ≠ .create)
    {rest : List String}
    (hrest : ending = .keep → rest ≠ [])
    (links : Nat) :
    tree.walk ending links here (names ++ rest) =
      if count ≤ links then tree.walk ending (links - count) there rest
      else .error .tooManyLinks := by
  have hfollowed : ∀ names : List String,
      ((names ++ rest).isEmpty && ending == .keep) = false := by
    intro names
    cases ending with
    | keep => simp [hrest]
    | _ => exact Bool.and_false _
  induction h generalizing links with
  | done _ =>
      rfl
  | stay hfolder hname _ ih =>
      rw [List.cons_append, walk_cons_of_stay hfolder hname, ih]
  | parent hfolder _ ih =>
      rw [List.cons_append, walk_cons_of_parent hfolder, ih]
  | enter hfolder hname hentry _ ih =>
      rw [List.cons_append, walk_cons_of_isEntryName hfolder hname hending, hentry, ← ih]
  | @link here there name target behind count hfolder hname hentry _ ih =>
      rw [List.cons_append, walk_cons_of_isEntryName hfolder hname hending, hentry]
      dsimp only
      rw [hfollowed, if_neg Bool.false_ne_true]
      cases links with
      | zero =>
          rw [if_pos rfl, if_neg (Nat.not_succ_le_zero count)]
      | succ left =>
          rw [if_neg (Nat.succ_ne_zero left), Nat.add_sub_cancel, ← List.append_assoc, ih]
          simp only [Nat.succ_le_succ_iff, Nat.succ_sub_succ_eq_sub]

/-- A slash behind the names does not change where they lead. -/
theorem Reaches.of_append_empty
    {here there : Location}
    {names : List String}
    {count : Nat}
    (h : tree.Reaches here (names ++ [""]) count there) :
    tree.Reaches here names count there := by
  generalize hnames : names ++ [""] = all at h
  induction h generalizing names with
  | done _ =>
      exact absurd hnames (List.append_ne_nil_of_right_ne_nil _ (List.cons_ne_nil _ _))
  | stay hfolder hname hrest ih =>
      cases names with
      | nil =>
          obtain ⟨rfl, rfl⟩ := List.cons.inj hnames
          exact hrest
      | cons name names =>
          obtain ⟨rfl, hbehind⟩ := List.cons.inj hnames
          exact .stay hfolder hname (ih hbehind)
  | parent hfolder hrest ih =>
      cases names with
      | nil =>
          exact absurd (List.cons.inj hnames).1 (by decide)
      | cons name names =>
          obtain ⟨rfl, hbehind⟩ := List.cons.inj hnames
          exact .parent hfolder (ih hbehind)
  | enter hfolder hname hentry hrest ih =>
      cases names with
      | nil =>
          exact absurd (List.cons.inj hnames).1.symm hname.2.1
      | cons name names =>
          obtain ⟨rfl, hbehind⟩ := List.cons.inj hnames
          exact .enter hfolder hname hentry (ih hbehind)
  | link hfolder hname hentry hrest ih =>
      cases names with
      | nil =>
          exact absurd (List.cons.inj hnames).1.symm hname.2.1
      | cons name names =>
          obtain ⟨rfl, rfl⟩ := List.cons.inj hnames
          exact .link hfolder hname hentry (ih (List.append_assoc _ _ _))

/-- A way stays where all folders and links stay. -/
theorem Reaches.mono
    {after : FileTree}
    (hstays : ∀ place entry, tree.get? place = some entry → ¬ entry.IsLeaf →
      after.get? place = some entry)
    {here there : Location}
    {names : List String}
    {count : Nat}
    (h : tree.Reaches here names count there) :
    after.Reaches here names count there := by
  have hfolders : ∀ {place}, tree.get? place = some .folder → after.get? place = some .folder :=
    fun hfolder => hstays _ _ hfolder id
  induction h with
  | done hfolder => exact .done (hfolders hfolder)
  | stay hfolder hname _ ih => exact .stay (hfolders hfolder) hname ih
  | parent hfolder _ ih => exact .parent (hfolders hfolder) ih
  | enter hfolder hname hentry _ ih => exact .enter (hfolders hfolder) hname (hfolders hentry) ih
  | link hfolder hname hentry _ ih =>
      exact .link (hfolders hfolder) hname (hstays _ _ hentry id) ih

end Ways

end FileTree
end Storage
end CaptureKit
