import CaptureKit.Proofs.Draw.EventGroups

/-!
# Draws that are written as an overview

A draw has one resource for each place that holds a name.  Draws are written as an overview
with one line for each of their resources.  The lines of one event may stand in any order, and
those of other events may stand between them, as long as the first lines of the events come in
the order of the draws.  The name of a texture may hold white space anywhere, the words that
introduce a sampler, or those that begin an event.

Main statement: reading the overview gives the draws back (`overview_of_lines`).
-/

namespace CaptureKit

open Text

/-- The resource of this name in a place. -/
def Draw.Place.resource : Draw.Place → String → Resource
  | .color, name => .color name
  | .depth, name => .depth name
  | .sampler index, name => .texture index name

/-- What a line says about a resource. -/
def Resource.said : Resource → String
  | .texture sampler name => "uses " ++ name ++ " in sampler " ++ toString sampler.val
  | .color name => "writes color to " ++ name
  | .depth name => "writes depth to " ++ name

/-- The name of the resource fits on a line, and for a target it has no white space at its
ends. -/
def Resource.IsWritable : Resource → Prop
  | .texture _ name => name ≠ "" ∧ '\n' ∉ name.toList
  | .color name | .depth name =>
      '\n' ∉ name.toList ∧ (∀ c ∈ name.toList.head?, isWhite c = false) ∧
        ∀ c ∈ name.toList.getLast?, isWhite c = false

namespace Draw

/-- The places of a draw. -/
def places : List Place :=
  .color :: .depth :: (List.finRange samplerLimit).map .sampler

/-- The resources of a draw, one for each place that holds a name. -/
def resources (draw : Draw) : List Resource :=
  places.filterMap fun place => (draw.name? place).map place.resource

/-- The line of an event and one of its resources. -/
def resourceLine (item : String × Resource) : String :=
  "EID " ++ item.1 ++ " " ++ item.2.said

/-- The entry of such a line. -/
def resourceEntry (named : Resource) : List Char :=
  trimEnd named.said.toList

/-- An event is written with decimal digits. -/
def IsEventNumber (event : String) : Prop :=
  event ≠ "" ∧ ∀ c ∈ event.toList, isDecimalDigit c = true

/-- Each resource of the draws is there once, with its event, and the events appear first in
the order of the draws. -/
structure Interleaves
    (items : List (String × Resource))
    (draws : List (String × Draw)) :
    Prop where
  once : items.Perm (draws.flatMap fun draw => draw.2.resources.map (Prod.mk draw.1))
  order : FirstAppearances (items.map Prod.fst) (draws.map Prod.fst)

section Resources

theorem resource_place_name (named : Resource) :
    named.place.resource named.name = named := by
  cases named <;> rfl

theorem eq_resource_iff
    {named : Resource}
    {place : Place}
    {name : String} :
    place.resource name = named ↔ named.place = place ∧ named.name = name := by
  constructor
  · rintro rfl
    cases place <;> exact ⟨rfl, rfl⟩
  · rintro ⟨rfl, rfl⟩
    exact resource_place_name named

theorem mem_places (place : Place) : place ∈ places := by
  cases place <;> simp [places]

theorem mem_resources_iff
    {draw : Draw}
    {named : Resource} :
    named ∈ draw.resources ↔ draw.name? named.place = some named.name := by
  simp only [resources, List.mem_filterMap, Option.map_eq_some_iff, eq_resource_iff]
  constructor
  · rintro ⟨place, -, name, hname, rfl, rfl⟩
    exact hname
  · intro hname
    exact ⟨named.place, mem_places _, named.name, hname, rfl, rfl⟩

theorem nodup_place_resources (draw : Draw) :
    (draw.resources.map Resource.place).Nodup := by
  have hplaces : draw.resources.map Resource.place =
      places.filter fun place => (draw.name? place).isSome := by
    rw [resources, List.map_filterMap, ← List.filterMap_eq_filter]
    congr 1
    funext place
    cases hname : draw.name? place with
    | none =>
        simp [Option.guard, hname]
    | some name =>
        have hplace : (place.resource name).place = place := (eq_resource_iff.1 rfl).1
        simp [Option.guard, hname, hplace]
  have hnodup : places.Nodup := by decide
  rw [hplaces]
  exact hnodup.filter _

/-- Draws with the same names in all places are the same. -/
theorem ext_name?
    {draw other : Draw}
    (h : ∀ place, draw.name? place = other.name? place) :
    draw = other := by
  obtain ⟨color, depth, textures⟩ := draw
  obtain ⟨color', depth', textures'⟩ := other
  have hcolor : color = color' := h .color
  have hdepth : depth = depth' := h .depth
  have htextures : textures = textures' := by
    ext1 i hi
    exact h (.sampler ⟨i, hi⟩)
  rw [hcolor, hdepth, htextures]

/-- Resources in different places are all held, in whatever order they come. -/
theorem name?_foldl_bind
    {all : List Resource}
    (hnodup : (all.map Resource.place).Nodup)
    (place : Place)
    (name : String) :
    (all.foldl Draw.bind empty).name? place = some name ↔ place.resource name ∈ all := by
  induction all using List.reverseRecOn with
  | nil =>
      simp [name?_empty]
  | append_singleton all last ih =>
      rw [List.map_append, List.map_singleton, List.nodup_append] at hnodup
      obtain ⟨hall, -, hlast⟩ := hnodup
      rw [List.foldl_append, List.foldl_cons, List.foldl_nil, name?_bind, List.mem_append,
        List.mem_singleton]
      split
      · next hplace =>
          have hnot : place.resource name ∉ all := by
            intro hmem
            have hsame : (place.resource name).place = place := (eq_resource_iff.1 rfl).1
            exact hlast _ (List.mem_map_of_mem hmem) _ (List.mem_singleton.2 rfl)
              (hsame.trans hplace.symm)
          simp [hnot, eq_resource_iff, hplace]
      · next hplace =>
          simp [ih hall, eq_resource_iff, hplace]

/-- A draw is bound together from its resources in any order. -/
theorem foldl_bind_eq
    {draw : Draw}
    {all : List Resource}
    (h : all.Perm draw.resources) :
    all.foldl Draw.bind empty = draw := by
  have hnodup : (all.map Resource.place).Nodup :=
    (h.map Resource.place).nodup_iff.2 (nodup_place_resources draw)
  refine ext_name? fun place => Option.ext fun name => ?_
  have hresource := eq_resource_iff.1 (rfl : place.resource name = place.resource name)
  rw [name?_foldl_bind hnodup, h.mem_iff, mem_resources_iff, hresource.1, hresource.2]

end Resources

section Lines

theorem trimEnd_of_getLast?
    {s : List Char}
    (h : ∀ c ∈ s.getLast?, isWhite c = false) :
    trimEnd s = s :=
  (TrimmedEnd.eq_trimEnd ⟨[], (List.append_nil s).symm, by simp, h⟩).symm

theorem trimEnd_append
    {front : List Char}
    {c : Char}
    (hc : isWhite c = false)
    (s : List Char) :
    trimEnd (front ++ c :: s) = front ++ c :: trimEnd s := by
  obtain ⟨spaces, hs, hspaces, hlast⟩ := trimmedEnd_trimEnd s
  refine (TrimmedEnd.eq_trimEnd ⟨spaces, ?_, hspaces, ?_⟩).symm
  · rw [List.append_assoc, List.cons_append, ← hs]
  · intro last hmem
    rw [List.getLast?_append, List.getLast?_cons] at hmem
    cases hend : (trimEnd s).getLast? with
    | none =>
        simp only [hend, Option.getD_none, Option.some_or, Option.mem_some] at hmem
        exact hmem ▸ hc
    | some final =>
        simp only [hend, Option.getD_some, Option.some_or, Option.mem_some] at hmem
        exact hlast last (by rw [hend, hmem]; rfl)

/-- A name without white space at its ends is what trimming leaves of it behind a space. -/
theorem trim_trimEnd_space
    {name : List Char}
    (hhead : ∀ c ∈ name.head?, isWhite c = false)
    (hlast : ∀ c ∈ name.getLast?, isWhite c = false) :
    trim (trimEnd (' ' :: name)) = name := by
  cases name with
  | nil =>
      decide
  | cons c name =>
      have hc : ¬ isWhite c = true := by simp [hhead c rfl]
      have hspace : isWhite ' ' = true := by rfl
      have hend : trimEnd (' ' :: c :: name) = ' ' :: c :: name :=
        trimEnd_of_getLast? (by simpa [List.getLast?_cons] using hlast)
      rw [hend, trim, List.dropWhile_cons_of_pos hspace, List.dropWhile_cons_of_neg hc,
        trimEnd_of_getLast? hlast]

/-- The index of a sampler is one digit. -/
theorem toDigits_sampler (sampler : Fin samplerLimit) :
    (Nat.toDigits 10 sampler).length = 1 ∧
      (∀ c ∈ Nat.toDigits 10 sampler, isDecimalDigit c = true ∧ isWhite c = false) ∧
      decimal? (Nat.toDigits 10 sampler) = some sampler.val := by
  have hall : ∀ sampler : Fin samplerLimit,
      (Nat.toDigits 10 sampler).length = 1 ∧
        (Nat.toDigits 10 sampler).all (fun c => isDecimalDigit c && !isWhite c) = true ∧
        decimal? (Nat.toDigits 10 sampler) = some sampler.val := by
    decide
  obtain ⟨hlength, hdigits, hvalue⟩ := hall sampler
  exact ⟨hlength, by simpa using hdigits, hvalue⟩

/-- The sampler behind a name is the last one of the line, whatever the name holds. -/
theorem namedSampler_append
    {name : List Char}
    (hne : name ≠ [])
    (sampler : Fin samplerLimit) :
    NamedSampler (name ++ (" in sampler ".toList ++ Nat.toDigits 10 sampler)) name
      (Nat.toDigits 10 sampler) := by
  obtain ⟨hlength, hdigits, -⟩ := toDigits_sampler sampler
  have hsome : Nat.toDigits 10 sampler ≠ [] := List.length_pos_iff.1 (by omega)
  exact namedSampler_append_digits hne hsome fun c hc => (hdigits c hc).1

theorem toList_said_texture
    (sampler : Fin samplerLimit)
    (name : String) :
    (Resource.texture sampler name).said.toList =
      "uses ".toList ++ (name.toList ++ (" in sampler ".toList ++ Nat.toDigits 10 sampler)) := by
  have hindex : (toString sampler.val).toList = Nat.toDigits 10 sampler := String.toList_ofList
  rw [Resource.said, String.toList_append, String.toList_append, String.toList_append, hindex,
    List.append_assoc, List.append_assoc]

theorem toList_said_color (name : String) :
    (Resource.color name).said.toList = "writes color t".toList ++ 'o' :: ' ' :: name.toList := by
  rw [Resource.said, String.toList_append]
  rfl

theorem toList_said_depth (name : String) :
    (Resource.depth name).said.toList = "writes depth t".toList ++ 'o' :: ' ' :: name.toList := by
  rw [Resource.said, String.toList_append]
  rfl

/-- The entry of a resource names it. -/
theorem names_resourceEntry
    {named : Resource}
    (h : named.IsWritable) :
    Names (resourceEntry named) named := by
  cases named with
  | texture sampler name =>
      have hname : name.toList ≠ [] := fun hnil => h.1 (String.toList_inj.1 hnil)
      obtain ⟨hlength, hdigits, hindex⟩ := toDigits_sampler sampler
      have hsome : Nat.toDigits 10 sampler ≠ [] := List.length_pos_iff.1 (by omega)
      have hend : resourceEntry (.texture sampler name) =
          "uses ".toList ++
            (name.toList ++ (" in sampler ".toList ++ Nat.toDigits 10 sampler)) := by
        rw [resourceEntry, trimEnd_of_getLast?, toList_said_texture]
        intro c hc
        rw [toList_said_texture, ← List.append_assoc, ← List.append_assoc,
          List.getLast?_append_of_ne_nil _ hsome] at hc
        exact (hdigits c (List.mem_of_getLast? hc)).2
      have hnames := Names.texture hend (namedSampler_append hname sampler)
        (spelling_of_decimal? hindex)
      rwa [String.ofList_toList] at hnames
  | color name =>
      have hend : resourceEntry (.color name) =
          "writes color to".toList ++ trimEnd (' ' :: name.toList) := by
        rw [resourceEntry, toList_said_color, trimEnd_append (by decide)]
        rfl
      have hnames := Names.color hend
      rwa [trim_trimEnd_space h.2.1 h.2.2, String.ofList_toList] at hnames
  | depth name =>
      have hend : resourceEntry (.depth name) =
          "writes depth to".toList ++ trimEnd (' ' :: name.toList) := by
        rw [resourceEntry, toList_said_depth, trimEnd_append (by decide)]
        rfl
      have hnames := Names.depth hend
      rwa [trim_trimEnd_space h.2.1 h.2.2, String.ofList_toList] at hnames

theorem newline_not_mem_of_isDecimalDigit
    {digits : List Char}
    (h : ∀ c ∈ digits, isDecimalDigit c = true) :
    '\n' ∉ digits := by
  intro hmem
  have hnot : isDecimalDigit '\n' = false := by rfl
  rw [h '\n' hmem] at hnot
  cases hnot

theorem newline_not_mem_said
    {named : Resource}
    (h : named.IsWritable) :
    '\n' ∉ named.said.toList := by
  cases named with
  | texture sampler name =>
      have hdigits : '\n' ∉ Nat.toDigits 10 sampler :=
        newline_not_mem_of_isDecimalDigit fun c hc => ((toDigits_sampler sampler).2.1 c hc).1
      rw [toList_said_texture]
      simp [h.2, hdigits]
  | color name =>
      rw [toList_said_color]
      simp [h.1]
  | depth name =>
      rw [toList_said_depth]
      simp [h.1]

theorem stopsAt_isBlank_said (named : Resource) : StopsAt isBlank named.said.toList := by
  cases named with
  | texture sampler name =>
      rw [toList_said_texture]
      exact (by rfl : isBlank 'u' = false)
  | color name =>
      rw [toList_said_color]
      exact (by rfl : isBlank 'w' = false)
  | depth name =>
      rw [toList_said_depth]
      exact (by rfl : isBlank 'w' = false)

/-- The line of a resource has its entry, and no other. -/
theorem entries_resourceLine
    {item : String × Resource}
    (hevent : IsEventNumber item.1)
    (hnamed : item.2.IsWritable) :
    entries (resourceLine item).toList = [(item.1, resourceEntry item.2)] := by
  obtain ⟨event, named⟩ := item
  obtain ⟨hsome, hdigits⟩ := hevent
  have hsplit : (resourceLine (event, named)).toList =
      "EID ".toList ++ (event.toList ++ ([' '] ++ named.said.toList)) := by
    simp [resourceLine]
  have hline : '\n' ∉ (resourceLine (event, named)).toList := by
    rw [hsplit]
    simp [newline_not_mem_said hnamed, newline_not_mem_of_isDecimalDigit hdigits]
  have hentry : EntryOfLine (resourceLine (event, named)).toList (event, resourceEntry named) :=
    ⟨[], event.toList, [' '], named.said.toList, hsplit, fun i hi => absurd hi (Nat.not_lt_zero i),
      ⟨fun hnil => hsome (String.toList_inj.1 hnil), hdigits,
        (by rfl : isDecimalDigit ' ' = false)⟩,
      ⟨List.forall_mem_singleton.2 rfl, stopsAt_isBlank_said named⟩,
      String.ofList_toList.symm, trimmedEnd_trimEnd _⟩
  exact hentry.entries_eq hline

end Lines

section Overviews

variable {items : List (String × Resource)} {draws : List (String × Draw)} {text : List Char}

/-- The text is made of the lines; the last one may go without its end. -/
def IsTextOf (lines : List String) (text : List Char) : Prop :=
  text = lines.flatMap (fun line => line.toList ++ ['\n']) ∨
    text = ['\n'].intercalate (lines.map String.toList)

theorem entries_of_isTextOf
    {lines : List String}
    (h : IsTextOf lines text) :
    entries text = lines.flatMap fun line => entries line.toList := by
  rcases h with rfl | rfl
  · induction lines with
    | nil =>
        exact entryReader.scan_nil
    | cons line lines ih =>
        have hline := Reader.scan_append_cut breaksAt_entryReader line.toList
          (lines.flatMap fun line => line.toList ++ ['\n'])
        rw [List.flatMap_cons, List.flatMap_cons, ← ih, List.append_assoc]
        exact hline
  · have hscan := Reader.scan_intercalate breaksAt_entryReader (lines.map String.toList)
    rw [List.flatMap_map] at hscan
    exact hscan

theorem Interleaves.nodup
    (h : Interleaves items draws) :
    (draws.map Prod.fst).Nodup := by
  refine h.order.increasing.imp ?_
  rintro event _ hless rfl
  exact Nat.lt_irrefl _ hless

theorem Interleaves.exists_draw
    (h : Interleaves items draws)
    {item : String × Resource}
    (hmem : item ∈ items) :
    ∃ draw ∈ draws, item.1 = draw.1 ∧ item.2 ∈ draw.2.resources := by
  obtain ⟨draw, hdraw, hitem⟩ := List.mem_flatMap.1 (h.once.mem_iff.1 hmem)
  obtain ⟨named, hnamed, rfl⟩ := List.mem_map.1 hitem
  exact ⟨draw, hdraw, rfl, hnamed⟩

/-- The lines of one event are those of the resources of its draw. -/
theorem Interleaves.perm_resources
    (h : Interleaves items draws)
    {draw : String × Draw}
    (hmem : draw ∈ draws) :
    ((items.filter (·.1 == draw.1)).map Prod.snd).Perm draw.2.resources := by
  obtain ⟨front, behind, rfl⟩ := List.append_of_mem hmem
  have hnodup := h.nodup
  rw [List.map_append, List.map_cons, List.nodup_append] at hnodup
  obtain ⟨-, hbehind, hfront⟩ := hnodup
  have hothers : ∀ other ∈ front ++ behind, other.1 ≠ draw.1 := by
    intro other hother
    rcases List.mem_append.1 hother with hother | hother
    · exact hfront _ (List.mem_map_of_mem hother) _ List.mem_cons_self
    · intro heq
      exact (List.nodup_cons.1 hbehind).1 (heq ▸ List.mem_map_of_mem hother)
  have hnone : ∀ part : List (String × Draw), (∀ other ∈ part, other.1 ≠ draw.1) →
      (part.flatMap fun other =>
        (other.2.resources.map (Prod.mk other.1)).filter (·.1 == draw.1)) = [] := by
    intro part hpart
    rw [List.flatMap_eq_nil_iff]
    intro other hother
    rw [List.filter_eq_nil_iff]
    intro item hitem
    obtain ⟨named, -, rfl⟩ := List.mem_map.1 hitem
    simpa using hpart other hother
  have hown : ((draw.2.resources.map (Prod.mk draw.1)).filter (·.1 == draw.1)) =
      draw.2.resources.map (Prod.mk draw.1) := by
    rw [List.filter_eq_self]
    intro item hitem
    obtain ⟨named, -, rfl⟩ := List.mem_map.1 hitem
    simp
  have hfilter := (h.once.filter (·.1 == draw.1)).map Prod.snd
  rw [List.filter_flatMap, List.flatMap_append, List.flatMap_cons,
    hnone front fun other hother => hothers other (List.mem_append_left _ hother),
    hnone behind fun other hother => hothers other (List.mem_append_right _ hother), hown,
    List.nil_append, List.append_nil, List.map_map] at hfilter
  exact hfilter.trans (by simp [Function.comp_def])

/-- Entries that name resources bind these together. -/
theorem ofEntries_map_resourceEntry
    {all : List Resource}
    (h : ∀ named ∈ all, named.IsWritable)
    (event : String) :
    ofEntries event (all.map resourceEntry) = .ok (all.foldl Draw.bind empty) := by
  induction all using List.reverseRecOn with
  | nil =>
      rfl
  | append_singleton all last ih =>
      have hall := ih fun named hmem => h named (List.mem_append_left _ hmem)
      have hlast := names_resourceEntry (h last (by simp))
      rw [List.map_append, List.map_singleton, ofEntries_append_singleton, hall,
        List.foldl_append, List.foldl_cons, List.foldl_nil]
      change Draw.bind _ <$> resource event (resourceEntry last) = _
      rw [hlast.resource_eq event]
      rfl

theorem mapM_eq_ok_of_forall
    {α β ε : Type}
    {f : α → Except ε β}
    {key : β → α}
    {results : List β}
    (h : ∀ result ∈ results, f (key result) = .ok result) :
    (results.map key).mapM f = .ok results := by
  induction results with
  | nil =>
      rfl
  | cons result results ih =>
      have hresult := h result List.mem_cons_self
      have hresults := ih fun other hmem => h other (List.mem_cons_of_mem _ hmem)
      rw [List.map_cons, List.mapM_cons, hresult, hresults]
      rfl

/-- The textures of a draw are counted by their samplers. -/
theorem textureCount_eq_countP (draw : Draw) :
    draw.textureCount =
      (List.finRange samplerLimit).countP fun index => (draw.name? (.sampler index)).isSome := by
  have htextures : draw.textures.toList =
      (List.finRange samplerLimit).map fun index => draw.name? (.sampler index) := by
    refine List.ext_getElem (by simp) fun i hi hi' => ?_
    simp [name?, Vector.get]
  rw [textureCount, htextures, List.countP_map]
  rfl

/-- Draws that are written as an overview, line by line and in any order that keeps that of
their first lines, are read back as they were.  Those with at least so many textures are those
where so many samplers hold a name. -/
theorem overview_of_lines
    (hevents : ∀ draw ∈ draws, IsEventNumber draw.1)
    (hnames : ∀ draw ∈ draws, ∀ named ∈ draw.2.resources, named.IsWritable)
    (hitems : Interleaves items draws)
    (htext : IsTextOf (items.map resourceLine) text) :
    overview text = .ok draws ∧
    ∀ least, (overview text).map (withTextures least) =
      .ok (draws.filter fun draw =>
        least ≤ (List.finRange samplerLimit).countP fun index =>
          (draw.2.name? (.sampler index)).isSome) := by
  have hentries : entries text = items.map fun item => (item.1, resourceEntry item.2) := by
    rw [entries_of_isTextOf htext, List.flatMap_map, List.map_eq_flatMap]
    refine List.flatMap_congr fun item hmem => ?_
    obtain ⟨draw, hdraw, hevent, hnamed⟩ := hitems.exists_draw hmem
    exact entries_resourceLine (hevent ▸ hevents draw hdraw) (hnames draw hdraw _ hnamed)
  have horder : (eventsOf text).eraseDups = draws.map Prod.fst := by
    have hfirst : eventsOf text = items.map Prod.fst := by
      rw [eventsOf, hentries, List.map_map]
      rfl
    rw [hfirst]
    exact (firstAppearances_eraseDups _).unique hitems.order
  have hdraws : ∀ draw ∈ draws, drawOf text draw.1 = .ok draw := by
    intro draw hmem
    have hall := hitems.perm_resources hmem
    have hown : entriesOf text draw.1 =
        ((items.filter (·.1 == draw.1)).map Prod.snd).map resourceEntry := by
      rw [entriesOf, hentries, List.filter_map, List.map_map, List.map_map]
      rfl
    rw [drawOf_eq_ok_iff, hown, ofEntries_map_resourceEntry, foldl_bind_eq hall]
    · exact ⟨rfl, rfl⟩
    · intro named hnamed
      exact hnames draw hmem named (hall.mem_iff.1 hnamed)
  have hread : overview text = .ok draws := by
    rw [overview_eq_mapM, horder]
    exact mapM_eq_ok_of_forall hdraws
  refine ⟨hread, fun least => ?_⟩
  rw [hread, Except.map, withTextures]
  simp only [textureCount_eq_countP]

/-- A draw whose texture has a name that looks like other entries, and one that writes to a
target without a name. -/
def sampleDraws : List (String × Draw) :=
  [("7", ⟨some "a", none, #v[none, none, some " in sampler 3\tEID 5 ", none]⟩),
    ("12", ⟨none, some "", #v[none, none, none, none]⟩)]

/-- The resources of the sample; the event that comes first also comes last. -/
def sampleItems : List (String × Resource) :=
  [("7", .texture ⟨2, by decide⟩ " in sampler 3\tEID 5 "), ("12", .depth ""), ("7", .color "a")]

/-- The overview of the sample. -/
def sampleOverview : String :=
  "EID 7 uses  in sampler 3\tEID 5  in sampler 2\nEID 12 writes depth to \n" ++
    "EID 7 writes color to a"

/-- The sample is read back, and only its first draw has a texture. -/
theorem overview_of_sampleOverview :
    (∀ draw ∈ sampleDraws, IsEventNumber draw.1) ∧
    (∀ draw ∈ sampleDraws, ∀ named ∈ draw.2.resources, named.IsWritable) ∧
    Interleaves sampleItems sampleDraws ∧
    IsTextOf (sampleItems.map resourceLine) sampleOverview.toList ∧
    overview sampleOverview.toList = .ok sampleDraws ∧
    (overview sampleOverview.toList).map (withTextures 1) = .ok (sampleDraws.take 1) := by
  have hevents : ∀ draw ∈ sampleDraws, IsEventNumber draw.1 := by
    simp only [sampleDraws, List.forall_mem_cons, IsEventNumber, ← List.all_eq_true]
    decide
  have hnames : ∀ draw ∈ sampleDraws, ∀ named ∈ draw.2.resources, named.IsWritable := by
    intro draw hdraw named hnamed
    have hall : (sampleDraws.flatMap fun draw => draw.2.resources) =
        [.color "a", .texture ⟨2, by decide⟩ " in sampler 3\tEID 5 ", .depth ""] := by
      rfl
    have hmem : named ∈ sampleDraws.flatMap fun draw => draw.2.resources :=
      List.mem_flatMap.2 ⟨draw, hdraw, hnamed⟩
    rw [hall] at hmem
    simp only [List.mem_cons, List.not_mem_nil, or_false] at hmem
    rcases hmem with rfl | rfl | rfl
    · have hletter : ∀ c ∈ some 'a', isWhite c = false := by
        rintro c ⟨rfl⟩
        rfl
      exact ⟨by decide, hletter, hletter⟩
    · exact ⟨by decide, by decide⟩
    · exact ⟨by decide, nofun, nofun⟩
  have hitems : Interleaves sampleItems sampleDraws := by
    have hall : (sampleDraws.flatMap fun draw => draw.2.resources.map (Prod.mk draw.1)) =
        [("7", .color "a"), ("7", .texture ⟨2, by decide⟩ " in sampler 3\tEID 5 "),
          ("12", .depth "")] := by
      rfl
    refine ⟨?_, fun event => ?_, ?_⟩
    · rw [hall]
      decide
    · simp only [sampleItems, sampleDraws, List.map_cons, List.map_nil, List.mem_cons]
      tauto
    · decide
  have htext : IsTextOf (sampleItems.map resourceLine) sampleOverview.toList :=
    Or.inr (by rfl)
  obtain ⟨hread, hmatching⟩ := overview_of_lines hevents hnames hitems htext
  exact ⟨hevents, hnames, hitems, htext, hread, (hmatching 1).trans (by rfl)⟩

end Overviews

end Draw
end CaptureKit
