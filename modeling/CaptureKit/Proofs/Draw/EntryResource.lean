import CaptureKit.Draw.Overview
import CaptureKit.Proofs.Text.Matching
import CaptureKit.Proofs.Text.Spelling

/-!
# What an entry says

An entry names a texture and its sampler, or one of the two targets.  The name of a texture
may hold the words that end it, so the last place where a sampler follows counts
(`NamedSampler`).  The index of a sampler is a decimal number in ASCII.

Main statements: which resource an entry names (`resource_eq_ok_iff`), and for what every
other entry is refused (`resource_eq_error_iff`).
-/

namespace CaptureKit
namespace Draw

open Text

/-- White space, `in sampler `, and the digits of an index up to their end. -/
def SamplerAt (s digits : List Char) : Prop :=
  ∃ space rest, s = space :: ("in sampler ".toList ++ (digits ++ rest)) ∧ isWhite space = true ∧
    digits ≠ [] ∧ (∀ c ∈ digits, isDecimalDigit c = true) ∧ StopsAt isDecimalDigit rest

/-- A name and the digits of the sampler behind it, at the last place where a sampler
follows. -/
structure NamedSampler (text name digits : List Char) : Prop where
  nonempty : name ≠ []
  follows : ∃ behind, text = name ++ behind ∧ SamplerAt behind digits
  last : ∀ other behind others, text = other ++ behind → SamplerAt behind others →
    other.length ≤ name.length

/-- The entry names the resource. -/
inductive Names (entry : List Char) : Resource → Prop
  | texture
      {text name digits : List Char} {sampler : Fin samplerLimit}
      (hentry : entry = "uses ".toList ++ text)
      (hname : NamedSampler text name digits)
      (hindex : DecimalSpelling sampler digits) :
      Names entry (.texture sampler (String.ofList name))
  | color
      {text : List Char}
      (hentry : entry = "writes color to".toList ++ text) :
      Names entry (.color (String.ofList (trim text)))
  | depth
      {text : List Char}
      (hentry : entry = "writes depth to".toList ++ text) :
      Names entry (.depth (String.ofList (trim text)))

/-- The entry is bad, and this is its fault: its sampler is no decimal number below the number
of samplers, or it is none of the three kinds of entries. -/
inductive Refuses (event : String) (entry : List Char) : OverviewFault → Prop
  | noSampler
      {text name digits : List Char}
      (hentry : entry = "uses ".toList ++ text)
      (hname : NamedSampler text name digits)
      (hindex : ∀ n < samplerLimit, ¬ DecimalSpelling n digits) :
      Refuses event entry (.noSampler event (indexNumber digits))
  | unknownEntry
      (htexture : ∀ text name digits, entry = "uses ".toList ++ text →
        ¬ NamedSampler text name digits)
      (hcolor : ∀ text, entry ≠ "writes color to".toList ++ text)
      (hdepth : ∀ text, entry ≠ "writes depth to".toList ++ text) :
      Refuses event entry (.unknownEntry event (String.ofList entry))

section Samplers

/-- The digits of a sampler are determined by the text. -/
theorem SamplerAt.unique
    {s digits others : List Char}
    (h : SamplerAt s digits)
    (h' : SamplerAt s others) :
    digits = others := by
  obtain ⟨space, rest, rfl, -, -, hdigits, hrest⟩ := h
  obtain ⟨space', rest', heq, -, -, hdigits', hrest'⟩ := h'
  have htail := List.append_cancel_left (List.cons.inj heq).2
  rw [← (takeWhile_of_stopsAt hdigits hrest).1, htail, (takeWhile_of_stopsAt hdigits' hrest').1]

/-- A sampler is read where one stands. -/
theorem SamplerAt.exists_read
    {s digits : List Char}
    (h : SamplerAt s digits) :
    ∃ rest, samplerTemplate.read s = some ([digits], rest) := by
  obtain ⟨space, rest, rfl, hspace, hne, hdigits, hrest⟩ := h
  have hrun : (Shape.atLeastOne isDecimalDigit).Takes digits rest := by
    refine ⟨hdigits, hrest, List.length_pos_iff.2 hne, ?_⟩
    intro bound hbound
    cases hbound
  have hfits :
      Template.Fits samplerTemplate ([space] ++ ("in sampler ".toList ++ (digits ++ rest)))
        [digits] rest :=
    .skip ⟨space, rfl, hspace⟩ (.skip rfl (.keep hrun (.nil rest)))
  exact ⟨rest, Template.read_eq_some_iff.2 hfits⟩

/-- What is read is a sampler. -/
theorem exists_samplerAt_of_read
    {s rest : List Char}
    {parts : List (List Char)}
    (h : samplerTemplate.read s = some (parts, rest)) :
    ∃ digits, parts = [digits] ∧ SamplerAt s digits := by
  obtain ⟨_, behind, rfl, ⟨space, rfl, hspace⟩, hsampler⟩ :=
    (Template.read_eq_some_iff.1 h).exists_of_skip
  obtain ⟨number, rfl, hnumber⟩ := exists_of_fits_literal hsampler
  obtain ⟨digits, text, others, rfl, rfl, hdigits, hend⟩ := hnumber.exists_of_keep
  obtain ⟨rfl, rfl⟩ := hend.eq_of_nil
  exact ⟨digits, rfl, space, text, rfl, hspace, List.length_pos_iff.1 hdigits.2.2.1, hdigits.1,
    hdigits.2.1⟩

/-- What is found is the name in front of the last sampler; nothing is found where no name
has a sampler behind it. -/
theorem nameAndSampler?_spec (text : List Char) :
    match nameAndSampler? text with
    | some (name, digits) => NamedSampler text name digits
    | none =>
        ∀ name behind digits, name ≠ [] → text = name ++ behind → ¬ SamplerAt behind digits := by
  induction text with
  | nil =>
      intro name behind digits hne heq
      exact absurd (List.append_eq_nil_iff.1 heq.symm).1 hne
  | cons c s ih =>
      rw [nameAndSampler?]
      cases hlater : nameAndSampler? s with
      | some found =>
          obtain ⟨name, digits⟩ := found
          rw [hlater] at ih
          obtain ⟨behind, hs, hsampler⟩ := ih.follows
          refine ⟨List.cons_ne_nil c name, ⟨behind, congrArg (c :: ·) hs, hsampler⟩, ?_⟩
          intro other behind others heq hother
          cases other with
          | nil => exact Nat.zero_le _
          | cons d other =>
              exact Nat.succ_le_succ (ih.last other behind others (List.cons.inj heq).2 hother)
      | none =>
          rw [hlater] at ih
          dsimp only at ih ⊢
          -- A name of more than one character would have its sampler further on.
          have hshort : ∀ other behind others,
              c :: s = other ++ behind → SamplerAt behind others → other.length ≤ 1 := by
            intro other behind others heq hother
            match other, heq with
            | [], _ => exact Nat.zero_le _
            | [_], _ => exact Nat.le_refl _
            | _ :: d :: other, heq =>
                exact absurd hother
                  (ih (d :: other) behind others (List.cons_ne_nil _ _) (List.cons.inj heq).2)
          cases hread : samplerTemplate.read s with
          | some found =>
              obtain ⟨parts, rest⟩ := found
              obtain ⟨digits, rfl, hsampler⟩ := exists_samplerAt_of_read hread
              exact ⟨List.cons_ne_nil c [], ⟨s, rfl, hsampler⟩, hshort⟩
          | none =>
              intro name behind digits hne heq hsampler
              have hlength := hshort name behind digits heq hsampler
              match name, hne, heq, hlength with
              | [_], _, heq, _ =>
                  obtain rfl : s = behind := (List.cons.inj heq).2
                  obtain ⟨rest, hsome⟩ := hsampler.exists_read
                  rw [hread] at hsome
                  cases hsome

/-- A text has at most one name in front of its last sampler. -/
theorem NamedSampler.unique
    {text name digits other others : List Char}
    (h : NamedSampler text name digits)
    (h' : NamedSampler text other others) :
    name = other ∧ digits = others := by
  obtain ⟨behind, htext, hsampler⟩ := h.follows
  obtain ⟨behind', htext', hsampler'⟩ := h'.follows
  have hlength : name.length = other.length :=
    Nat.le_antisymm (h'.last name behind digits htext hsampler)
      (h.last other behind' others htext' hsampler')
  obtain ⟨rfl, rfl⟩ := List.append_inj (htext.symm.trans htext') hlength
  exact ⟨rfl, hsampler.unique hsampler'⟩

/-- The name and the sampler of a text are found. -/
theorem nameAndSampler?_eq_some_iff
    {text name digits : List Char} :
    nameAndSampler? text = some (name, digits) ↔ NamedSampler text name digits := by
  have hspec := nameAndSampler?_spec text
  constructor
  · intro h
    rw [h] at hspec
    exact hspec
  · intro h
    cases hfound : nameAndSampler? text with
    | some found =>
        obtain ⟨other, others⟩ := found
        rw [hfound] at hspec
        obtain ⟨rfl, rfl⟩ := h.unique hspec
        rfl
    | none =>
        rw [hfound] at hspec
        obtain ⟨behind, htext, hsampler⟩ := h.follows
        exact absurd hsampler (hspec name behind digits h.nonempty htext)

/-- A sampler at the end of a text is the last one, whatever the name in front of it holds. -/
theorem namedSampler_append_digits
    {name digits : List Char}
    (hname : name ≠ [])
    (hne : digits ≠ [])
    (hdigits : ∀ c ∈ digits, isDecimalDigit c = true) :
    NamedSampler (name ++ (" in sampler ".toList ++ digits)) name digits := by
  refine ⟨hname, ⟨_, rfl, ' ', [], by simp, by decide, hne, hdigits, trivial⟩, ?_⟩
  intro other behind others htext hother
  rcases List.append_eq_append_iff.1 htext with ⟨more, rfl, hmore⟩ | ⟨more, rfl, -⟩
  · cases more with
    | nil =>
        simp
    | cons c more =>
        -- Further on, the letter at which `sampler` starts would come a second time.
        obtain ⟨space, rest, rfl, -, -⟩ := hother
        have hsame : "in sampler ".toList ++ digits =
            more ++ space :: ("in sampler ".toList ++ (others ++ rest)) :=
          (List.cons.inj hmore).2
        have hletter : ("in sampler ".toList ++ digits)[more.length + 4]? = some 's' := by
          rw [hsame, List.getElem?_append_right (Nat.le_add_right _ _), Nat.add_sub_cancel_left]
          rfl
        have hlater : 's' ∈ "ampler ".toList ++ digits := by
          have hdrop : ("in sampler ".toList ++ digits)[more.length + 4]? =
              ("ampler ".toList ++ digits)[more.length]? := rfl
          exact List.mem_of_getElem? (hdrop ▸ hletter)
        rcases List.mem_append.1 hlater with hmem | hmem
        · exact absurd hmem (by decide)
        · exact absurd (hdigits _ hmem) (by decide)
  · simp

/-- The digits of a sampler count as a number in range exactly if they spell one in ASCII. -/
theorem indexNumber_eq_iff
    {digits : List Char}
    (hne : digits ≠ [])
    {n : Nat}
    (hn : n < samplerLimit) :
    indexNumber digits = n ↔ DecimalSpelling n digits := by
  have hlimit : n < limit64 := Nat.lt_trans hn (by decide)
  constructor
  · intro h
    cases hread : decimal? digits with
    | some value =>
        rw [indexNumber, hread, Option.getD_some] at h
        rw [← h]
        exact spelling_of_decimal? hread
    | none =>
        rw [indexNumber, hread, Option.getD_none] at h
        rw [← h] at hn
        exact absurd hn (by decide)
  · intro h
    rw [indexNumber, decimal?_of_spelling h hne hlimit, Option.getD_some]

end Samplers

section Resources

/-- A text is the literal and the rest exactly where the rest is left behind the literal. -/
theorem afterLiteral_eq_none_iff
    {literal s : List Char} :
    afterLiteral literal s = none ↔ ∀ rest, s ≠ literal ++ rest := by
  simp only [Option.eq_none_iff_forall_ne_some, ne_eq, afterLiteral_eq_some_iff]

/-- The digits of a sampler behind a name are there. -/
theorem NamedSampler.digits_ne_nil
    {text name digits : List Char}
    (h : NamedSampler text name digits) :
    digits ≠ [] := by
  obtain ⟨behind, -, space, rest, -, -, hne, -⟩ := h.follows
  exact hne

/-- An entry that has a sampler is judged by its digits. -/
theorem resource_of_sampler
    {entry text name digits : List Char}
    (hentry : entry = "uses ".toList ++ text)
    (hname : NamedSampler text name digits)
    (event : String) :
    resource event entry =
      if h : indexNumber digits < samplerLimit then
        .ok (.texture ⟨indexNumber digits, h⟩ (String.ofList name))
      else .error (.noSampler event (indexNumber digits)) := by
  have hfound : (afterLiteral "uses ".toList entry).bind nameAndSampler? = some (name, digits) := by
    rw [afterLiteral_eq_some_iff.2 hentry, Option.bind_some, nameAndSampler?_eq_some_iff.2 hname]
  rw [resource, hfound]

/-- Any other entry is a target or unknown. -/
theorem resource_of_no_sampler
    {entry : List Char}
    (h : ∀ text name digits, entry = "uses ".toList ++ text → ¬ NamedSampler text name digits)
    (event : String) :
    resource event entry =
      match afterLiteral "writes color to".toList entry with
      | some name => .ok (.color (String.ofList (trim name)))
      | none =>
          match afterLiteral "writes depth to".toList entry with
          | some name => .ok (.depth (String.ofList (trim name)))
          | none => .error (.unknownEntry event (String.ofList entry)) := by
  have hnone : (afterLiteral "uses ".toList entry).bind nameAndSampler? = none := by
    rw [Option.bind_eq_none_iff]
    intro text htext
    cases hfound : nameAndSampler? text with
    | none =>
        rfl
    | some found =>
        exact absurd (nameAndSampler?_eq_some_iff.1 hfound)
          (h text found.1 found.2 (afterLiteral_eq_some_iff.1 htext))
  unfold resource
  split
  · next heq =>
      rw [hnone] at heq
      cases heq
  · rfl

/-- An entry gives the resource that it names. -/
theorem Names.resource_eq
    {entry : List Char}
    {named : Resource}
    (h : Names entry named)
    (event : String) :
    resource event entry = .ok named := by
  cases h with
  | @texture text name digits sampler hentry hname hindex =>
      have hnumber := (indexNumber_eq_iff hname.digits_ne_nil sampler.isLt).2 hindex
      rw [resource_of_sampler hentry hname, dif_pos (hnumber ▸ sampler.isLt)]
      simp only [hnumber]
  | @color text hentry =>
      rw [resource_of_no_sampler fun _ _ _ huses _ => by simp [hentry] at huses,
        afterLiteral_eq_some_iff.2 hentry]
  | @depth text hentry =>
      have hcolor : afterLiteral "writes color to".toList entry = none := by
        rw [afterLiteral_eq_none_iff]
        intro rest hrest
        simp [hentry] at hrest
      rw [resource_of_no_sampler fun _ _ _ huses _ => by simp [hentry] at huses, hcolor,
        afterLiteral_eq_some_iff.2 hentry]

/-- An entry that is bad gives its fault. -/
theorem Refuses.resource_eq
    {event : String}
    {entry : List Char}
    {fault : OverviewFault}
    (h : Refuses event entry fault) :
    resource event entry = .error fault := by
  cases h with
  | noSampler hentry hname hindex =>
      rw [resource_of_sampler hentry hname, dif_neg]
      intro hlt
      exact hindex _ hlt ((indexNumber_eq_iff hname.digits_ne_nil hlt).1 rfl)
  | unknownEntry htexture hcolor hdepth =>
      rw [resource_of_no_sampler htexture, afterLiteral_eq_none_iff.2 hcolor,
        afterLiteral_eq_none_iff.2 hdepth]

/-- Every entry names a resource or is bad. -/
theorem exists_names_or_refuses
    (event : String)
    (entry : List Char) :
    (∃ named, Names entry named) ∨ ∃ fault, Refuses event entry fault := by
  by_cases htexture :
      ∃ text name digits, entry = "uses ".toList ++ text ∧ NamedSampler text name digits
  · obtain ⟨text, name, digits, hentry, hname⟩ := htexture
    by_cases hindex : ∃ n < samplerLimit, DecimalSpelling n digits
    · obtain ⟨n, hn, hspelling⟩ := hindex
      exact .inl ⟨.texture ⟨n, hn⟩ (String.ofList name), .texture hentry hname hspelling⟩
    · exact .inr ⟨_, .noSampler hentry hname fun n hn hspelling => hindex ⟨n, hn, hspelling⟩⟩
  · by_cases hcolor : ∃ text, entry = "writes color to".toList ++ text
    · obtain ⟨text, hentry⟩ := hcolor
      exact .inl ⟨_, .color hentry⟩
    · by_cases hdepth : ∃ text, entry = "writes depth to".toList ++ text
      · obtain ⟨text, hentry⟩ := hdepth
        exact .inl ⟨_, .depth hentry⟩
      · exact .inr ⟨_, .unknownEntry
          (fun text name digits hentry hname => htexture ⟨text, name, digits, hentry, hname⟩)
          (not_exists.1 hcolor) (not_exists.1 hdepth)⟩

/-- An entry gives exactly the resource that it names. -/
theorem resource_eq_ok_iff
    {event : String}
    {entry : List Char}
    {named : Resource} :
    resource event entry = .ok named ↔ Names entry named := by
  refine ⟨fun h => ?_, fun h => h.resource_eq event⟩
  rcases exists_names_or_refuses event entry with ⟨other, hother⟩ | ⟨fault, hfault⟩
  · rw [hother.resource_eq event] at h
    rwa [← Except.ok.inj h]
  · rw [hfault.resource_eq] at h
    cases h

/-- An entry is refused exactly for what is bad about it. -/
theorem resource_eq_error_iff
    {event : String}
    {entry : List Char}
    {fault : OverviewFault} :
    resource event entry = .error fault ↔ Refuses event entry fault := by
  refine ⟨fun h => ?_, Refuses.resource_eq⟩
  rcases exists_names_or_refuses event entry with ⟨named, hnamed⟩ | ⟨other, hother⟩
  · rw [hnamed.resource_eq event] at h
    cases h
  · rw [hother.resource_eq] at h
    rwa [← Except.error.inj h]

end Resources

end Draw
end CaptureKit
