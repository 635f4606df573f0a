import CaptureKit.Proofs.Draw.EntryLine
import CaptureKit.Proofs.Draw.EntryResource
import Mathlib.Data.List.Induction
import Mathlib.Data.List.Sort

/-!
# The draws of an overview, event by event

The entries of an overview are grouped by their events, which come in the order in which they
appear first.  The draw of an event holds in each place the name that the last of its entries
gives to this place.  If there are bad entries, the first event that has one is blamed, for
the first of its own that is bad, wherever the bad entries of other events stand.

Main statement: the draws, or the fault, of every text (`overview_exact`).
-/

namespace CaptureKit
namespace Draw

/-- A place of a draw that holds the name of a resource. -/
inductive Place
  | color
  | depth
  | sampler (index : Fin samplerLimit)
  deriving DecidableEq

end Draw

/-- The name that a draw holds in a place. -/
def Draw.name? (draw : Draw) : Draw.Place → Option String
  | .color => draw.color
  | .depth => draw.depth
  | .sampler index => draw.textures.get index

/-- The place that a resource takes. -/
def Resource.place : Resource → Draw.Place
  | .texture sampler _ => .sampler sampler
  | .color _ => .color
  | .depth _ => .depth

/-- The name of a resource. -/
def Resource.name : Resource → String
  | .texture _ name => name
  | .color name => name
  | .depth name => name

namespace Draw

open Text

/-- The last entry for a place gives it this name. -/
def LastName
    (entries : List (List Char))
    (place : Place)
    (name : String) :
    Prop :=
  ∃ front entry behind,
    entries = front ++ entry :: behind ∧
    (∃ named, Names entry named ∧ named.place = place ∧ named.name = name) ∧
    ∀ later ∈ behind, ∀ named, Names later named → named.place ≠ place

/-- The first bad entry of an event has this fault. -/
def FirstFault
    (event : String)
    (entries : List (List Char))
    (fault : OverviewFault) :
    Prop :=
  ∃ front entry behind,
    entries = front ++ entry :: behind ∧
    (∀ earlier ∈ front, ∃ named, Names earlier named) ∧
    Refuses event entry fault

/-- Each event once, in the order of first appearance. -/
structure FirstAppearances (events order : List String) : Prop where
  mem_iff : ∀ event, event ∈ order ↔ event ∈ events
  increasing : order.Pairwise fun a b => events.idxOf a < events.idxOf b

/-- The events of an overview, one for each entry. -/
def eventsOf (text : List Char) : List String :=
  (entries text).map Prod.fst

/-- The entries of one event, in the order of the text. -/
def entriesOf
    (text : List Char)
    (event : String) :
    List (List Char) :=
  ((entries text).filter (·.1 == event)).map Prod.snd

section Events

/-- Where each of many items comes first is not changed by more items behind them. -/
theorem firstAppearances_eraseDups (events : List String) :
    FirstAppearances events events.eraseDups := by
  refine ⟨fun event => List.mem_eraseDups, ?_⟩
  induction events using List.reverseRecOn with
  | nil =>
      exact .nil
  | append_singleton events event ih =>
      have hsame : events.eraseDups.Pairwise fun a b =>
          (events ++ [event]).idxOf a < (events ++ [event]).idxOf b := by
        refine ih.imp_of_mem ?_
        intro a b ha hb hless
        rwa [List.idxOf_append_of_mem (List.mem_eraseDups.1 ha),
          List.idxOf_append_of_mem (List.mem_eraseDups.1 hb)]
      rw [List.eraseDups_append]
      by_cases hevent : event ∈ events
      · have hnone : [event].removeAll events = [] := by
          simp [List.removeAll, hevent]
        rw [hnone, List.eraseDups_nil, List.append_nil]
        exact hsame
      · have hone : [event].removeAll events = [event] := by
          simp [List.removeAll, hevent]
        rw [hone]
        refine List.pairwise_append.2 ⟨hsame, by simp [List.eraseDups_cons], ?_⟩
        intro a ha b hb
        have hb : b = event := by simpa [List.eraseDups_cons] using hb
        subst hb
        rw [List.idxOf_append_of_mem (List.mem_eraseDups.1 ha),
          List.idxOf_append_of_notMem hevent]
        exact Nat.lt_add_right _ (List.idxOf_lt_length_of_mem (List.mem_eraseDups.1 ha))

/-- There is one order of first appearance. -/
theorem FirstAppearances.unique
    {events order other : List String}
    (h : FirstAppearances events order)
    (h' : FirstAppearances events other) :
    order = other := by
  have : Std.Irrefl fun a b : String => events.idxOf a < events.idxOf b :=
    ⟨fun a => Nat.lt_irrefl _⟩
  have : Std.Antisymm fun a b : String => events.idxOf a < events.idxOf b :=
    ⟨fun a b hab hba => absurd hab (Nat.lt_asymm hba)⟩
  exact h.increasing.eq_of_mem_iff h'.increasing fun event => by
    rw [h.mem_iff, h'.mem_iff]

end Events

section Entries

theorem name?_sampler
    (draw : Draw)
    {index : Nat}
    (h : index < samplerLimit) :
    draw.name? (.sampler ⟨index, h⟩) = draw.textures[index] :=
  rfl

/-- A resource is held in its own place, and no other place changes. -/
theorem name?_bind
    (draw : Draw)
    (named : Resource)
    (place : Place) :
    (draw.bind named).name? place =
      if named.place = place then some named.name else draw.name? place := by
  cases named with
  | texture sampler name =>
      cases place with
      | color => rfl
      | depth => rfl
      | sampler index =>
          obtain ⟨index, hindex⟩ := index
          simp only [bind, name?_sampler, Resource.place, Resource.name, Place.sampler.injEq,
            Vector.getElem_set, Fin.ext_iff]
  | color name =>
      cases place <;> rfl
  | depth name =>
      cases place <;> rfl

/-- A draw without resources has no name anywhere. -/
theorem name?_empty (place : Place) : empty.name? place = none := by
  cases place with
  | color =>
      rfl
  | depth =>
      rfl
  | sampler index =>
      obtain ⟨index, hindex⟩ := index
      simp [empty, name?_sampler]

/-- One more entry gives its name to its own place and to no other. -/
theorem lastName_append_singleton
    {entries : List (List Char)}
    {entry : List Char}
    {named : Resource}
    (hnamed : Names entry named)
    (place : Place)
    (name : String) :
    LastName (entries ++ [entry]) place name ↔
      if named.place = place then named.name = name else LastName entries place name := by
  have honly : ∀ other, Names entry other → other = named := by
    intro other hother
    exact Except.ok.inj ((hother.resource_eq "").symm.trans (hnamed.resource_eq ""))
  constructor
  · rintro ⟨front, last, behind, heq, ⟨other, hother, hplace, hname⟩, hlater⟩
    rcases List.eq_nil_or_concat' behind with rfl | ⟨middle, final, rfl⟩
    · obtain ⟨-, hlast⟩ := List.append_inj' heq rfl
      obtain rfl : entry = last := (List.cons.inj hlast).1
      obtain rfl := honly other hother
      rw [if_pos hplace]
      exact hname
    · have heq : entries ++ [entry] = (front ++ last :: middle) ++ [final] := by
        rw [heq, List.append_assoc, List.cons_append]
      obtain ⟨rfl, hfinal⟩ := List.append_inj' heq rfl
      obtain rfl : entry = final := (List.cons.inj hfinal).1
      rw [if_neg (hlater entry (List.mem_append_right _ List.mem_cons_self) named hnamed)]
      exact ⟨front, last, middle, rfl, ⟨other, hother, hplace, hname⟩,
        fun later hmem => hlater later (List.mem_append_left _ hmem)⟩
  · intro h
    split at h
    · next hplace =>
        exact ⟨entries, entry, [], rfl, ⟨named, hnamed, hplace, h⟩,
          fun later hmem => absurd hmem List.not_mem_nil⟩
    · next hplace =>
        obtain ⟨front, last, behind, rfl, hlast, hlater⟩ := h
        refine ⟨front, last, behind ++ [entry], by simp, hlast, ?_⟩
        intro later hmem other hother
        rcases List.mem_append.1 hmem with hmem | hmem
        · exact hlater later hmem other hother
        · obtain rfl := List.mem_singleton.1 hmem
          rw [honly other hother]
          exact hplace

/-- The first bad entry is not changed by more entries behind it. -/
theorem FirstFault.append
    {event : String}
    {entries : List (List Char)}
    {fault : OverviewFault}
    (h : FirstFault event entries fault)
    (more : List (List Char)) :
    FirstFault event (entries ++ more) fault := by
  obtain ⟨front, entry, behind, rfl, hfront, hentry⟩ := h
  exact ⟨front, entry, behind ++ more, by simp, hfront, hentry⟩

theorem ofEntries_append_singleton
    (event : String)
    (entries : List (List Char))
    (entry : List Char) :
    ofEntries event (entries ++ [entry]) =
      ofEntries event entries >>= fun draw => draw.bind <$> resource event entry := by
  rw [ofEntries, List.foldlM_append]
  simp [ofEntries]

/-- The draw of an event holds the last names of its entries; there is none if one of the
entries is bad, and then the first bad one is blamed. -/
theorem ofEntries_spec
    (event : String)
    (entries : List (List Char)) :
    match ofEntries event entries with
    | .ok draw =>
        (∀ entry ∈ entries, ∃ named, Names entry named) ∧
        ∀ place name, draw.name? place = some name ↔ LastName entries place name
    | .error fault => FirstFault event entries fault := by
  -- From the end: the entries in front have their draw, and the last one changes one place.
  induction entries using List.reverseRecOn with
  | nil =>
      refine ⟨fun entry hmem => absurd hmem List.not_mem_nil, fun place name => ?_⟩
      rw [name?_empty]
      constructor
      · intro h
        cases h
      · rintro ⟨front, entry, behind, heq, -⟩
        simp at heq
  | append_singleton entries entry ih =>
      rw [ofEntries_append_singleton]
      cases hdraw : ofEntries event entries with
      | error fault =>
          rw [hdraw] at ih
          exact ih.append [entry]
      | ok draw =>
          rw [hdraw] at ih
          obtain ⟨hgood, hnames⟩ := ih
          cases hresource : resource event entry with
          | error fault =>
              exact ⟨entries, entry, [], rfl, hgood, resource_eq_error_iff.1 hresource⟩
          | ok named =>
              have hnamed : Names entry named := resource_eq_ok_iff.1 hresource
              refine ⟨?_, fun place name => ?_⟩
              · intro other hmem
                rcases List.mem_append.1 hmem with hmem | hmem
                · exact hgood other hmem
                · obtain rfl := List.mem_singleton.1 hmem
                  exact ⟨named, hnamed⟩
              · rw [lastName_append_singleton hnamed, name?_bind]
                split
                · exact Option.some_inj
                · exact hnames place name

end Entries

section Groups

variable {α β ε : Type} {f : α → Except ε β}

/-- What succeeds for all items of a list gives its results in their order. -/
theorem forall₂_of_mapM_eq_ok
    {items : List α}
    {results : List β}
    (h : items.mapM f = .ok results) :
    List.Forall₂ (fun item result => f item = .ok result) items results := by
  induction items generalizing results with
  | nil =>
      cases h
      exact .nil
  | cons item items ih =>
      rw [List.mapM_cons] at h
      cases hitem : f item with
      | error fault =>
          rw [hitem] at h
          cases h
      | ok result =>
          cases hitems : items.mapM f with
          | error fault =>
              rw [hitem, hitems] at h
              cases h
          | ok others =>
              rw [hitem, hitems] at h
              cases h
              exact .cons hitem (ih hitems)

/-- A failure is that of the first item that fails. -/
theorem exists_of_mapM_eq_error
    {items : List α}
    {fault : ε}
    (h : items.mapM f = .error fault) :
    ∃ before item behind, items = before ++ item :: behind ∧
      (∀ other ∈ before, ∃ result, f other = .ok result) ∧ f item = .error fault := by
  induction items with
  | nil =>
      cases h
  | cons item items ih =>
      rw [List.mapM_cons] at h
      cases hitem : f item with
      | error first =>
          rw [hitem] at h
          cases h
          exact ⟨[], item, items, rfl, fun other hmem => absurd hmem List.not_mem_nil, hitem⟩
      | ok result =>
          cases hitems : items.mapM f with
          | ok others =>
              rw [hitem, hitems] at h
              cases h
          | error first =>
              rw [hitem, hitems] at h
              cases h
              obtain ⟨before, failing, behind, rfl, hbefore, hfailing⟩ := ih hitems
              refine ⟨item :: before, failing, behind, rfl, ?_, hfailing⟩
              intro other hmem
              rcases List.mem_cons.1 hmem with rfl | hmem
              · exact ⟨result, hitem⟩
              · exact hbefore other hmem

end Groups

section Overviews

/-- The draw of one event of an overview. -/
def drawOf
    (text : List Char)
    (event : String) :
    Except OverviewFault (String × Draw) :=
  Prod.mk event <$> ofEntries event (entriesOf text event)

/-- The events are taken in the order in which they appear first. -/
theorem overview_eq_mapM (text : List Char) :
    overview text = (eventsOf text).eraseDups.mapM (drawOf text) := by
  rw [overview, grouped, List.mapM_map]
  rfl

theorem drawOf_eq_ok_iff
    {text : List Char}
    {event : String}
    {item : String × Draw} :
    drawOf text event = .ok item ↔
      item.1 = event ∧ ofEntries event (entriesOf text event) = .ok item.2 := by
  rw [drawOf]
  cases ofEntries event (entriesOf text event) with
  | error fault =>
      exact ⟨fun h => (by cases h), fun h => (by cases h.2)⟩
  | ok draw =>
      constructor
      · intro h
        cases h
        exact ⟨rfl, rfl⟩
      · rintro ⟨rfl, h⟩
        cases h
        rfl

theorem drawOf_eq_error_iff
    {text : List Char}
    {event : String}
    {fault : OverviewFault} :
    drawOf text event = .error fault ↔
      ofEntries event (entriesOf text event) = .error fault := by
  rw [drawOf]
  cases ofEntries event (entriesOf text event) with
  | error other =>
      exact ⟨fun h => congrArg Except.error (Except.error.inj h),
        fun h => congrArg Except.error (Except.error.inj h)⟩
  | ok draw =>
      exact ⟨fun h => (by cases h), fun h => (by cases h)⟩

theorem mem_entriesOf_iff
    {text : List Char}
    {event : String}
    {entry : List Char} :
    entry ∈ entriesOf text event ↔ (event, entry) ∈ entries text := by
  simp [entriesOf]

/-- What the draws of an overview are, or for what it is refused. -/
def Describes
    (text : List Char)
    (order : List String) :
    Except OverviewFault (List (String × Draw)) → Prop
  | .ok draws =>
      draws.map Prod.fst = order ∧
      (∀ item ∈ entries text, ∃ named, Names item.2 named) ∧
      ∀ item ∈ draws, ∀ place name,
        item.2.name? place = some name ↔ LastName (entriesOf text item.1) place name
  | .error fault =>
      ∃ before event behind,
        order = before ++ event :: behind ∧
        (∀ other ∈ before, ∀ entry ∈ entriesOf text other, ∃ named, Names entry named) ∧
        FirstFault event (entriesOf text event) fault

/-- An event with a draw has only good entries, and its draw holds their last names. -/
theorem names_of_drawOf_eq_ok
    {text : List Char}
    {event : String}
    {item : String × Draw}
    (h : drawOf text event = .ok item) :
    (∀ entry ∈ entriesOf text event, ∃ named, Names entry named) ∧
    ∀ place name,
      item.2.name? place = some name ↔ LastName (entriesOf text event) place name := by
  have hspec := ofEntries_spec event (entriesOf text event)
  rw [(drawOf_eq_ok_iff.1 h).2] at hspec
  exact hspec

/-- The draws of an overview are described event by event. -/
theorem describes_overview (text : List Char) :
    Describes text (eventsOf text).eraseDups (overview text) := by
  rw [overview_eq_mapM]
  cases hresult : (eventsOf text).eraseDups.mapM (drawOf text) with
  | ok draws =>
      have hall := forall₂_of_mapM_eq_ok hresult
      have hitem : ∀ item ∈ draws, drawOf text item.1 = .ok item := by
        intro item hmem
        obtain ⟨i, hi, rfl⟩ := List.getElem_of_mem hmem
        have hi' : i < (eventsOf text).eraseDups.length := hall.length_eq ▸ hi
        have hdraw := hall.get hi' hi
        have hfst := (drawOf_eq_ok_iff.1 hdraw).1
        rw [List.get_eq_getElem, List.get_eq_getElem] at hdraw hfst
        rw [hfst]
        exact hdraw
      have hevents : draws.map Prod.fst = (eventsOf text).eraseDups := by
        have hmap : List.Forall₂ (· = ·) (eventsOf text).eraseDups (draws.map Prod.fst) :=
          List.forall₂_map_right_iff.2
            (hall.imp fun event item hdraw => (drawOf_eq_ok_iff.1 hdraw).1.symm)
        exact (List.forall₂_eq_eq_eq ▸ hmap : _ = _).symm
      refine ⟨hevents, ?_, fun item hmem => (names_of_drawOf_eq_ok (hitem item hmem)).2⟩
      intro entry hentry
      have hevent : entry.1 ∈ draws.map Prod.fst := by
        rw [hevents, List.mem_eraseDups]
        exact List.mem_map_of_mem hentry
      obtain ⟨item, hmem, hfst⟩ := List.mem_map.1 hevent
      have hgood := (names_of_drawOf_eq_ok (hitem item hmem)).1
      rw [hfst] at hgood
      exact hgood entry.2 (mem_entriesOf_iff.2 hentry)
  | error fault =>
      obtain ⟨before, event, behind, horder, hbefore, hfault⟩ := exists_of_mapM_eq_error hresult
      refine ⟨before, event, behind, horder, ?_, ?_⟩
      · intro other hmem
        obtain ⟨item, hitem⟩ := hbefore other hmem
        exact (names_of_drawOf_eq_ok hitem).1
      · have hspec := ofEntries_spec event (entriesOf text event)
        rw [drawOf_eq_error_iff.1 hfault] at hspec
        exact hspec

/-- An overview has the draws that are described by the entries of its lines, grouped by
their events; texts with the same entries for every event, and with their events in the same
order of first appearance, have the same draws or are refused for the same fault. -/
theorem overview_exact (text : List Char) :
    (entries text = (text.splitOn '\n').flatMap entries ∧
      ∀ line ∈ text.splitOn '\n',
        (∀ item, entries line = [item] ↔ EntryOfLine line item) ∧
        (entries line = [] ↔ ∀ i, ¬ StartsEntry (line.drop i)) ∧
        (entries line).length ≤ 1) ∧
    (∃ order, FirstAppearances (eventsOf text) order ∧ Describes text order (overview text)) ∧
    ∀ other order,
      FirstAppearances (eventsOf text) order →
      FirstAppearances (eventsOf other) order →
      (∀ event, entriesOf other event = entriesOf text event) →
      overview other = overview text := by
  refine ⟨⟨entries_eq_flatMap_lines text, ?_⟩,
    ⟨_, firstAppearances_eraseDups (eventsOf text), describes_overview text⟩, ?_⟩
  · intro line hmem
    have hline := newline_not_mem_of_mem_splitOn hmem
    refine ⟨entries_eq_singleton_iff hline, entries_eq_nil_iff hline, ?_⟩
    by_cases hstarts : ∃ i, StartsEntry (line.drop i)
    · obtain ⟨item, hitem⟩ := exists_entryOfLine hstarts
      rw [hitem.entries_eq hline]
      exact Nat.le_refl 1
    · rw [entries_eq_nil_of_not_startsEntry (not_exists.1 hstarts)]
      exact Nat.zero_le 1
  · intro other order horder hother hsame
    have hevents : (eventsOf other).eraseDups = (eventsOf text).eraseDups :=
      ((firstAppearances_eraseDups _).unique hother).trans
        (horder.unique (firstAppearances_eraseDups _))
    have hdraw : drawOf other = drawOf text := by
      funext event
      rw [drawOf, drawOf, hsame]
    rw [overview_eq_mapM, overview_eq_mapM, hevents, hdraw]

/-- The bad entry of the event that appears first is blamed, although the bad entry of
another event stands in front of it. -/
example :
    (overview "EID 1 uses a in sampler 0\nEID 2 bad\nEID 1 uses b in sampler 4".toList) =
      .error (.noSampler "1" 4) := by
  cbv

end Overviews

end Draw
end CaptureKit
