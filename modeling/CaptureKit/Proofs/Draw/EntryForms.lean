import CaptureKit.Proofs.Draw.OverviewRoundTrip

/-!
# The forms of the entries of an overview

An entry says `uses NAME in sampler INDEX`, `writes color to NAME` or `writes depth to NAME`,
with a name of at least one character, and nothing else stands on its line.  An index that is
too high is refused as such, and an entry of any other form as unknown (`Meant`).

The reader is less strict.  It looks for the last place where a sampler follows and passes over
what stands behind the digits, takes any white space in front of the words, and judges digits of
other scripts as an index that is too high.  Behind the words of a target it neither asks for a
space nor for a name (`ReadLoosely`).

Main statement: what comes of every line with an entry (`overview_of_entry`).  Only entries that
are read loosely have another outcome than the one that is meant, and all of these are unknown
by their form.
-/

namespace CaptureKit
namespace Draw

open Text

/-- The entry says that a texture is used in the sampler of this index, and nothing more. -/
def IsUse
    (entry name : List Char)
    (index : Nat) :
    Prop :=
  name ≠ [] ∧ ∃ digits,
    entry = "uses ".toList ++ (name ++ (" in sampler ".toList ++ digits)) ∧
    digits ≠ [] ∧ DecimalSpelling index digits

/-- The entry says with these words that a target is written, and which one. -/
def IsWrite
    (words : String)
    (entry name : List Char) :
    Prop :=
  name ≠ [] ∧ entry = words.toList ++ ' ' :: name

/-- What an entry means by its form: a resource, or why there is none.  An index beyond the
64-bit numbers is reported as the greatest of these. -/
inductive Meant (event : String) (entry : List Char) : Except OverviewFault Resource → Prop
  | texture
      {name : List Char} {index : Nat}
      (hform : IsUse entry name index)
      (hindex : index < samplerLimit) :
      Meant event entry (.ok (.texture ⟨index, hindex⟩ (String.ofList name)))
  | color
      {name : List Char}
      (hform : IsWrite "writes color to" entry name) :
      Meant event entry (.ok (.color (String.ofList (trim name))))
  | depth
      {name : List Char}
      (hform : IsWrite "writes depth to" entry name) :
      Meant event entry (.ok (.depth (String.ofList (trim name))))
  | noSampler
      {name : List Char} {index : Nat}
      (hform : IsUse entry name index)
      (hindex : samplerLimit ≤ index) :
      Meant event entry (.error (.noSampler event (min index (limit64 - 1))))
  | unknownEntry
      (huse : ∀ name index, ¬ IsUse entry name index)
      (hcolor : ∀ name, ¬ IsWrite "writes color to" entry name)
      (hdepth : ∀ name, ¬ IsWrite "writes depth to" entry name) :
      Meant event entry (.error (.unknownEntry event (String.ofList entry)))

/-- What comes of an entry that is not strictly of one of the forms, but is read as if it
were. -/
inductive ReadLoosely (event : String) (entry : List Char) :
    Except OverviewFault Resource → Prop
  | texture
      {text name digits : List Char} {sampler : Fin samplerLimit}
      (hentry : entry = "uses ".toList ++ text)
      (hname : NamedSampler text name digits)
      (hindex : DecimalSpelling sampler digits)
      (hloose : text ≠ name ++ (" in sampler ".toList ++ digits)) :
      ReadLoosely event entry (.ok (.texture sampler (String.ofList name)))
  | noSampler
      {text name digits : List Char}
      (hentry : entry = "uses ".toList ++ text)
      (hname : NamedSampler text name digits)
      (hindex : ∀ n < samplerLimit, ¬ DecimalSpelling n digits)
      (hloose : text = name ++ (" in sampler ".toList ++ digits) →
        ∃ c ∈ digits, c.isDigit = false) :
      ReadLoosely event entry (.error (.noSampler event (indexNumber digits)))
  | color
      {text : List Char}
      (hentry : entry = "writes color to".toList ++ text)
      (hloose : ∀ name, ¬ IsWrite "writes color to" entry name) :
      ReadLoosely event entry (.ok (.color (String.ofList (trim text))))
  | depth
      {text : List Char}
      (hentry : entry = "writes depth to".toList ++ text)
      (hloose : ∀ name, ¬ IsWrite "writes depth to" entry name) :
      ReadLoosely event entry (.ok (.depth (String.ofList (trim text))))

/-- The overview of a single entry, by what comes of the entry. -/
def alone
    (event : String)
    (outcome : Except OverviewFault Resource) :
    Except OverviewFault (List (String × Draw)) :=
  outcome.map fun named => [(event, empty.bind named)]

section Forms

/-- A use has the parts that the reader looks for. -/
theorem IsUse.namedSampler
    {entry name : List Char}
    {index : Nat}
    (h : IsUse entry name index) :
    ∃ text digits, entry = "uses ".toList ++ text ∧
      text = name ++ (" in sampler ".toList ++ digits) ∧
      NamedSampler text name digits ∧ digits ≠ [] ∧ DecimalSpelling index digits := by
  obtain ⟨hname, digits, hentry, hne, hindex⟩ := h
  have hdigits : ∀ c ∈ digits, isDecimalDigit c = true :=
    fun c hc => isDecimalDigit_of_isDigit (hindex.isDigit c hc)
  exact ⟨_, digits, hentry, rfl, namedSampler_append_digits hname hne hdigits, hne, hindex⟩

/-- An entry that uses something writes to nothing. -/
theorem not_isWrite_of_uses
    {entry text : List Char}
    (h : entry = "uses ".toList ++ text)
    {words : String}
    (hwords : words.toList.head? = some 'w')
    (name : List Char) :
    ¬ IsWrite words entry name := by
  rintro ⟨-, hentry⟩
  obtain ⟨rest, hrest⟩ := List.head?_eq_some_iff.1 hwords
  rw [h, hrest] at hentry
  simp at hentry

/-- An entry that writes to something uses nothing. -/
theorem not_isUse_of_writes
    {entry text : List Char}
    {words : String}
    (h : entry = words.toList ++ text)
    (hwords : words.toList.head? = some 'w')
    (name : List Char)
    (index : Nat) :
    ¬ IsUse entry name index := by
  rintro ⟨-, digits, hentry, -⟩
  obtain ⟨rest, hrest⟩ := List.head?_eq_some_iff.1 hwords
  rw [h, hrest] at hentry
  simp at hentry

/-- The number of an index is reported, as far as 64 bits go. -/
theorem indexNumber_of_spelling
    {index : Nat}
    {digits : List Char}
    (hne : digits ≠ [])
    (h : DecimalSpelling index digits) :
    indexNumber digits = min index (limit64 - 1) := by
  rw [indexNumber]
  cases hread : decimal? digits with
  | some value =>
      have hvalue : value = index := by
        rw [← decimalValue_of_spelling h,
          ← decimalValue_of_spelling (spelling_of_decimal? hread)]
      have hlimit := decimal?_lt hread
      rw [Option.getD_some, hvalue, Nat.min_eq_left (by omega)]
  | none =>
      have hlimit : limit64 ≤ index := by
        by_contra hless
        rw [decimal?_of_spelling h hne (by omega)] at hread
        cases hread
      rw [Option.getD_none, Nat.min_eq_right (by omega)]

end Forms

section Outcomes

variable {event : String} {entry : List Char} {outcome : Except OverviewFault Resource}

/-- Every entry means something, or is unknown. -/
theorem exists_meant
    (event : String)
    (entry : List Char) :
    ∃ outcome, Meant event entry outcome := by
  by_cases huse : ∃ name index, IsUse entry name index
  · obtain ⟨name, index, hform⟩ := huse
    rcases Nat.lt_or_ge index samplerLimit with hindex | hindex
    · exact ⟨_, .texture hform hindex⟩
    · exact ⟨_, .noSampler hform hindex⟩
  · by_cases hcolor : ∃ name, IsWrite "writes color to" entry name
    · obtain ⟨name, hform⟩ := hcolor
      exact ⟨_, .color hform⟩
    · by_cases hdepth : ∃ name, IsWrite "writes depth to" entry name
      · obtain ⟨name, hform⟩ := hdepth
        exact ⟨_, .depth hform⟩
      · exact ⟨_, .unknownEntry (fun name index hform => huse ⟨name, index, hform⟩)
          (not_exists.1 hcolor) (not_exists.1 hdepth)⟩

/-- What is read loosely is read. -/
theorem ReadLoosely.resource_eq
    (h : ReadLoosely event entry outcome) :
    resource event entry = outcome := by
  cases h with
  | texture hentry hname hindex _ => exact (Names.texture hentry hname hindex).resource_eq event
  | noSampler hentry hname hindex _ => exact (Refuses.noSampler hentry hname hindex).resource_eq
  | color hentry _ => exact (Names.color hentry).resource_eq event
  | depth hentry _ => exact (Names.depth hentry).resource_eq event

/-- What is read loosely is unknown by its form. -/
theorem ReadLoosely.meant
    (h : ReadLoosely event entry outcome) :
    Meant event entry (.error (.unknownEntry event (String.ofList entry))) := by
  -- A use has its sampler at the very end, so its name and its digits are the ones that are read.
  have hparts : ∀ {text name digits : List Char}, entry = "uses ".toList ++ text →
      NamedSampler text name digits → ∀ other index, IsUse entry other index →
        text = name ++ (" in sampler ".toList ++ digits) ∧ DecimalSpelling index digits := by
    intro text name digits hentry hname other index hform
    obtain ⟨text', digits', hentry', htext, hother, -, hindex⟩ := hform.namedSampler
    obtain rfl := List.append_cancel_left (hentry.symm.trans hentry')
    obtain ⟨rfl, rfl⟩ := hname.unique hother
    exact ⟨htext, hindex⟩
  cases h with
  | texture hentry hname hindex hloose =>
      refine .unknownEntry ?_ (not_isWrite_of_uses hentry (by rfl))
        (not_isWrite_of_uses hentry (by rfl))
      exact fun other index hform => hloose (hparts hentry hname other index hform).1
  | noSampler hentry hname hindex hloose =>
      refine .unknownEntry ?_ (not_isWrite_of_uses hentry (by rfl))
        (not_isWrite_of_uses hentry (by rfl))
      intro other index hform
      obtain ⟨htext, hspelling⟩ := hparts hentry hname other index hform
      obtain ⟨c, hc, hnot⟩ := hloose htext
      rw [hspelling.isDigit c hc] at hnot
      cases hnot
  | color hentry hloose =>
      refine .unknownEntry (not_isUse_of_writes hentry (by rfl)) hloose ?_
      rintro name ⟨-, hdepth⟩
      simp [hentry] at hdepth
  | depth hentry hloose =>
      refine .unknownEntry (not_isUse_of_writes hentry (by rfl)) ?_ hloose
      rintro name ⟨-, hcolor⟩
      simp [hentry] at hcolor

/-- What is not read loosely has the outcome that is meant. -/
theorem Meant.resource_eq
    (h : Meant event entry outcome)
    (hstrict : ∀ other, ¬ ReadLoosely event entry other) :
    resource event entry = outcome := by
  cases h with
  | texture hform hindex =>
      obtain ⟨text, digits, hentry, -, hname, -, hspelling⟩ := hform.namedSampler
      exact (Names.texture hentry hname hspelling).resource_eq event
  | @color name hform =>
      have hnamed : Names entry (.color (String.ofList (trim (' ' :: name)))) := .color hform.2
      exact hnamed.resource_eq event
  | @depth name hform =>
      have hnamed : Names entry (.depth (String.ofList (trim (' ' :: name)))) := .depth hform.2
      exact hnamed.resource_eq event
  | noSampler hform hindex =>
      obtain ⟨text, digits, hentry, -, hname, hne, hspelling⟩ := hform.namedSampler
      rw [← indexNumber_of_spelling hne hspelling]
      refine (Refuses.noSampler hentry hname ?_).resource_eq
      intro n hn hother
      rw [← decimalValue_of_spelling hspelling, decimalValue_of_spelling hother] at hindex
      omega
  | unknownEntry huse hcolor hdepth =>
      refine (Refuses.unknownEntry ?_ ?_ ?_).resource_eq
      · intro text name digits hentry hname
        by_cases hindex : ∃ n < samplerLimit, DecimalSpelling n digits
        · obtain ⟨n, hn, hspelling⟩ := hindex
          refine hstrict (.ok (.texture ⟨n, hn⟩ (String.ofList name)))
            (.texture hentry hname hspelling ?_)
          rintro rfl
          exact huse name n ⟨hname.nonempty, digits, hentry, hname.digits_ne_nil, hspelling⟩
        · refine hstrict _ (.noSampler hentry hname ?_ ?_)
          · exact fun n hn hspelling => hindex ⟨n, hn, hspelling⟩
          · rintro rfl
            by_contra hall
            have hdigits : ∀ c ∈ digits, c.isDigit = true := by simpa using hall
            exact huse name _ ⟨hname.nonempty, digits, hentry, hname.digits_ne_nil,
              decimalSpelling_decimalValue hdigits⟩
      · exact fun text hentry => hstrict _ (.color hentry hcolor)
      · exact fun text hentry => hstrict _ (.depth hentry hdepth)

end Outcomes

section Lines

/-- The resource of a draw that has only one is found in its place. -/
theorem bind_empty_injective
    {named other : Resource}
    (h : empty.bind named = empty.bind other) :
    named = other := by
  have hname := congrArg (Draw.name? · named.place) h
  simp only [name?_bind, ↓reduceIte, name?_empty] at hname
  split at hname
  · next hplace =>
      rw [← resource_place_name named, eq_resource_iff]
      exact ⟨hplace, (Option.some.inj hname).symm⟩
  · cases hname

theorem alone_injective
    {event : String}
    {outcome other : Except OverviewFault Resource}
    (h : alone event outcome = alone event other) :
    outcome = other := by
  cases outcome with
  | error fault =>
      cases other with
      | error other => exact congrArg Except.error (Except.error.inj h)
      | ok named => cases h
  | ok named =>
      cases other with
      | error fault => cases h
      | ok other =>
          have hitem := (List.cons.inj (Except.ok.inj h)).1
          rw [bind_empty_injective (Prod.mk.inj hitem).2]

/-- A line with an entry has the outcome of its entry. -/
theorem EntryOfLine.overview_eq
    {line : List Char}
    {event : String}
    {entry : List Char}
    (h : EntryOfLine line (event, entry))
    (hline : '\n' ∉ line) :
    overview line = alone event (resource event entry) := by
  have hgroups : grouped (entries line) = [(event, [entry])] := by
    rw [h.entries_eq hline]
    simp [grouped, List.eraseDups_cons]
  have hdraw : ofEntries event [entry] = empty.bind <$> resource event entry := by
    rw [← List.nil_append [entry], ofEntries_append_singleton]
    rfl
  rw [overview, hgroups, List.mapM_cons, hdraw]
  cases resource event entry <;> rfl

/-- A line has its entry as soon as anything is read from it. -/
theorem exists_entryOfLine_of_mem
    {line : List Char}
    {item : String × List Char}
    (h : item ∈ entries line) :
    ∃ found, EntryOfLine line found := by
  by_cases hstarts : ∃ i, StartsEntry (line.drop i)
  · exact exists_entryOfLine hstarts
  · rw [entries_eq_nil_of_not_startsEntry (not_exists.1 hstarts)] at h
    cases h

/-- An overview has draws exactly if all its entries name resources. -/
theorem exists_overview_eq_ok_iff (text : List Char) :
    (∃ draws, overview text = .ok draws) ↔
      ∀ item ∈ entries text, ∃ named, Names item.2 named := by
  have hspec := describes_overview text
  constructor
  · rintro ⟨draws, hdraws⟩
    rw [hdraws] at hspec
    exact hspec.2.1
  · intro hall
    cases hoverview : overview text with
    | ok draws =>
        exact ⟨draws, rfl⟩
    | error fault =>
        rw [hoverview] at hspec
        obtain ⟨before, event, behind, -, -, front, entry, later, hentries, -, hrefuses⟩ := hspec
        have hmem : entry ∈ entriesOf text event := by simp [hentries]
        obtain ⟨named, hnamed⟩ := hall _ (mem_entriesOf_iff.1 hmem)
        have hboth := (hnamed.resource_eq event).symm.trans hrefuses.resource_eq
        cases hboth

end Lines

section Overviews

/-- An overview has draws exactly if each of its lines with an entry has draws by itself.  Such a
line has the outcome that its entry means, unless the entry is read loosely; then it is unknown
by its form, and the line has the outcome of the loose reading. -/
theorem overview_of_entry (text : List Char) :
    ((∃ draws, overview text = .ok draws) ↔
      ∀ line ∈ text.splitOn '\n', ∀ item, EntryOfLine line item →
        ∃ draws, overview line = .ok draws) ∧
    ∀ line ∈ text.splitOn '\n', ∀ event entry, EntryOfLine line (event, entry) →
      (∃ outcome, overview line = alone event outcome) ∧
      ((∀ other, ¬ ReadLoosely event entry other) →
        ∀ outcome, overview line = alone event outcome ↔ Meant event entry outcome) ∧
      ((∃ other, ReadLoosely event entry other) →
        Meant event entry (.error (.unknownEntry event (String.ofList entry))) ∧
        ∀ outcome, overview line = alone event outcome ↔ ReadLoosely event entry outcome) := by
  constructor
  · rw [exists_overview_eq_ok_iff, entries_eq_flatMap_lines]
    constructor
    · intro hall line hmem item _
      rw [exists_overview_eq_ok_iff]
      exact fun other hother => hall other (List.mem_flatMap.2 ⟨line, hmem, hother⟩)
    · intro hall item hitem
      obtain ⟨line, hmem, hread⟩ := List.mem_flatMap.1 hitem
      obtain ⟨found, hfound⟩ := exists_entryOfLine_of_mem hread
      exact (exists_overview_eq_ok_iff line).1 (hall line hmem found hfound) item hread
  · intro line hmem event entry hentry
    have hresource : ∀ outcome, overview line = alone event outcome ↔
        resource event entry = outcome := by
      intro outcome
      rw [hentry.overview_eq (newline_not_mem_of_mem_splitOn hmem)]
      exact ⟨alone_injective, congrArg _⟩
    refine ⟨⟨resource event entry, (hresource _).2 rfl⟩, ?_, ?_⟩
    · intro hstrict outcome
      rw [hresource]
      refine ⟨fun h => ?_, fun h => h.resource_eq hstrict⟩
      obtain ⟨other, hother⟩ := exists_meant event entry
      rwa [← h, hother.resource_eq hstrict]
    · rintro ⟨other, hother⟩
      refine ⟨hother.meant, fun outcome => ?_⟩
      rw [hresource]
      refine ⟨fun h => ?_, fun h => h.resource_eq⟩
      rwa [← h, hother.resource_eq]

/-- An index that goes on behind its digits, a target without a space in front of its name, and
one without a name. -/
theorem readLoosely_samples :
    ReadLoosely "7" "uses a in sampler 2 x".toList (.ok (.texture ⟨2, by decide⟩ "a")) ∧
    ReadLoosely "7" "writes color tob".toList (.ok (.color "b")) ∧
    ReadLoosely "7" "writes depth to".toList (.ok (.depth "")) := by
  have htexture :
      "uses a in sampler 2 x".toList = "uses ".toList ++ "a in sampler 2 x".toList := rfl
  have hcolor : "writes color tob".toList = "writes color to".toList ++ ['b'] := rfl
  have hdepth : "writes depth to".toList = "writes depth to".toList ++ [] := rfl
  have hname : NamedSampler "a in sampler 2 x".toList ['a'] ['2'] :=
    nameAndSampler?_eq_some_iff.1 (by rfl)
  refine ⟨.texture htexture hname (spelling_of_decimal? (by rfl)) (by decide),
    .color hcolor ?_, .depth hdepth ?_⟩
  · rintro name ⟨-, hentry⟩
    simp at hentry
  · rintro name ⟨-, hentry⟩
    simp at hentry

/-- Behind the event at the front of a line stands its entry. -/
theorem entryOfLine_seven
    {said : List Char}
    (hblank : StopsAt isBlank said) :
    EntryOfLine ("EID 7 ".toList ++ said) ("7", trimEnd said) := by
  have hdigit : ∀ c ∈ ['7'], isDecimalDigit c = true :=
    List.forall_mem_singleton.2 (isDecimalDigit_of_isDigit (by decide))
  have hstop : isDecimalDigit ' ' = false := by rfl
  exact ⟨[], ['7'], [' '], said, rfl, fun _ hi => absurd hi (Nat.not_lt_zero _),
    ⟨List.cons_ne_nil _ _, hdigit, hstop⟩, ⟨List.forall_mem_singleton.2 rfl, hblank⟩, rfl,
    trimmedEnd_trimEnd said⟩

/-- Entries that are unknown by their form give a draw a texture, a target, and a target without
a name. -/
theorem unknown_entries_accepted :
    (EntryOfLine "EID 7 uses a in sampler 2 x".toList ("7", "uses a in sampler 2 x".toList) ∧
      Meant "7" "uses a in sampler 2 x".toList
        (.error (.unknownEntry "7" "uses a in sampler 2 x")) ∧
      overview "EID 7 uses a in sampler 2 x".toList =
        .ok [("7", empty.bind (.texture ⟨2, by decide⟩ "a"))]) ∧
    (EntryOfLine "EID 7 writes color tob".toList ("7", "writes color tob".toList) ∧
      Meant "7" "writes color tob".toList (.error (.unknownEntry "7" "writes color tob")) ∧
      overview "EID 7 writes color tob".toList = .ok [("7", empty.bind (.color "b"))]) ∧
    EntryOfLine "EID 7 writes depth to ".toList ("7", "writes depth to".toList) ∧
      Meant "7" "writes depth to".toList (.error (.unknownEntry "7" "writes depth to")) ∧
      overview "EID 7 writes depth to ".toList = .ok [("7", empty.bind (.depth ""))] := by
  obtain ⟨htexture, hcolor, hdepth⟩ := readLoosely_samples
  have htextureLine : EntryOfLine "EID 7 uses a in sampler 2 x".toList
      ("7", "uses a in sampler 2 x".toList) :=
    entryOfLine_seven (by rfl)
  have hcolorLine : EntryOfLine "EID 7 writes color tob".toList ("7", "writes color tob".toList) :=
    entryOfLine_seven (by rfl)
  have hdepthLine : EntryOfLine "EID 7 writes depth to ".toList ("7", "writes depth to".toList) :=
    entryOfLine_seven (by rfl)
  refine ⟨⟨htextureLine, htexture.meant, ?_⟩, ⟨hcolorLine, hcolor.meant, ?_⟩,
    hdepthLine, hdepth.meant, ?_⟩
  · rw [htextureLine.overview_eq (by decide), htexture.resource_eq]
    rfl
  · rw [hcolorLine.overview_eq (by decide), hcolor.resource_eq]
    rfl
  · rw [hdepthLine.overview_eq (by decide), hdepth.resource_eq]
    rfl

/-- A name that looks like an index that is too high, and a target without a space. -/
def mixedLines : List String :=
  ["EID 7 uses a in sampler 9 in sampler 03", "EID 7 writes color tob"]

/-- The first line is read as it is meant, the second one loosely. -/
theorem overview_of_entry_mixedLines :
    EntryOfLine "EID 7 uses a in sampler 9 in sampler 03".toList
      ("7", "uses a in sampler 9 in sampler 03".toList) ∧
    (∀ other, ¬ ReadLoosely "7" "uses a in sampler 9 in sampler 03".toList other) ∧
    overview "EID 7 uses a in sampler 9 in sampler 03".toList =
      alone "7" (.ok (.texture ⟨3, by decide⟩ "a in sampler 9")) ∧
    EntryOfLine "EID 7 writes color tob".toList ("7", "writes color tob".toList) ∧
    ReadLoosely "7" "writes color tob".toList (.ok (.color "b")) ∧
    overview "EID 7 writes color tob".toList = alone "7" (.ok (.color "b")) := by
  have huse : IsUse "uses a in sampler 9 in sampler 03".toList "a in sampler 9".toList 3 :=
    ⟨by decide, "03".toList, by rfl, by decide, spelling_of_decimal? (by rfl)⟩
  have hstrict : ∀ other, ¬ ReadLoosely "7" "uses a in sampler 9 in sampler 03".toList other := by
    intro other hloose
    cases hloose.meant with
    | unknownEntry hnone _ _ => exact hnone _ _ huse
  have hloose := readLoosely_samples.2.1
  have hfirst : EntryOfLine "EID 7 uses a in sampler 9 in sampler 03".toList
      ("7", "uses a in sampler 9 in sampler 03".toList) :=
    entryOfLine_seven (by rfl)
  have hsecond : EntryOfLine "EID 7 writes color tob".toList ("7", "writes color tob".toList) :=
    entryOfLine_seven (by rfl)
  have hlines : (['\n'].intercalate (mixedLines.map String.toList)).splitOn '\n' =
      mixedLines.map String.toList :=
    List.splitOn_intercalate _ (by decide) (by decide)
  have hall := (overview_of_entry (['\n'].intercalate (mixedLines.map String.toList))).2
  rw [hlines] at hall
  obtain ⟨-, hmeant, -⟩ := hall _ (by decide) "7" _ hfirst
  obtain ⟨-, -, hread⟩ := hall _ (by decide) "7" _ hsecond
  exact ⟨hfirst, hstrict, (hmeant hstrict _).2 (.texture huse (by decide)), hsecond, hloose,
    ((hread ⟨_, hloose⟩).2 _).2 hloose⟩

end Overviews

end Draw
end CaptureKit
