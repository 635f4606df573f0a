/-!
# Paths

A path is text.  It is resolved without looking at any file: a leading `~` stands for
the home folder, a relative path starts at the working folder, steps that stay in place
are dropped, and steps to the parent are kept, since only the files can say where they
lead.  A slash at the end is kept too, because it asks for a folder.

Exactly two slashes at the start of a path are kept as they are; any other number of
slashes counts as one.
-/

namespace CaptureKit
namespace Storage

/-- The parts of a text between slashes. -/
def segments : List Char → List (List Char)
  | [] => [[]]
  | c :: s =>
      if c = '/' then [] :: segments s
      else
        match segments s with
        | [] => [[c]]
        | segment :: rest => (c :: segment) :: rest

/-- The names on a path, with those that stay in place. -/
def names (path : List Char) : List (List Char) :=
  (segments path).filter (!·.isEmpty)

/-- The steps of a path: its names without those that stay in place. -/
def steps (path : List Char) : List (List Char) :=
  (names path).filter (· != ['.'])

/-- A path that starts at the root. -/
def isAbsolute (path : List Char) : Bool :=
  path.head? == some '/'

/-- A path that starts with two slashes and no third. -/
def startsDoubled : List Char → Bool
  | '/' :: '/' :: '/' :: _ => false
  | '/' :: '/' :: _ => true
  | _ => false

/-- A path that asks for a folder by a slash at its end. -/
def endsInSlash (path : List Char) : Bool :=
  path.getLast? == some '/'

/-- What follows a leading `~` that is a name of its own. -/
def afterHome? : List Char → Option (List Char)
  | ['~'] => some []
  | '~' :: '/' :: rest => some rest
  | _ => none

/-- An absolute path written out. -/
def absolutePath
    (doubled : Bool)
    (steps : List (List Char))
    (asFolder : Bool) :
    List Char :=
  (if doubled then ['/', '/'] else ['/']) ++ ['/'].intercalate steps ++
    if asFolder && !steps.isEmpty then ['/'] else []

/-- Where relative paths start. -/
structure Places where
  workingFolder : String
  home : String

namespace Places

/-- The path at which the steps of `path` start: itself, or the working folder. -/
def origin
    (places : Places)
    (path : List Char) :
    List Char :=
  if isAbsolute path then path else places.workingFolder.toList

/-- The steps from the root to where `path` leads. -/
def fullSteps
    (places : Places)
    (path : List Char) :
    List (List Char) :=
  if isAbsolute path then steps path else steps places.workingFolder.toList ++ steps path

/-- The absolute form of a path; the empty path has none and stays empty. -/
def absoluteOf
    (places : Places)
    (path : List Char) :
    List Char :=
  if path.isEmpty then []
  else
    absolutePath (startsDoubled (places.origin path)) (places.fullSteps path) (endsInSlash path)

/-- The path below the home folder; the home folder itself is asked for as a folder. -/
def belowHome
    (places : Places)
    (rest : List Char) :
    List Char :=
  absolutePath (startsDoubled (places.origin places.home.toList))
    (places.fullSteps places.home.toList ++ steps rest) (steps rest).isEmpty

/-- The absolute path that a path stands for. -/
def resolve
    (places : Places)
    (path : String) :
    String :=
  String.ofList <|
    match afterHome? path.toList with
    | some rest => places.belowHome rest
    | none => places.absoluteOf path.toList

end Places

/-- A text has at least one part between slashes. -/
theorem segments_ne_nil (s : List Char) :
    segments s ≠ [] := by
  cases s with
  | nil => simp [segments]
  | cons c s =>
      simp only [segments]
      split
      · simp
      · split <;> simp

/-- No part between slashes holds one. -/
theorem slash_not_mem_of_mem_segments
    {s segment : List Char}
    (h : segment ∈ segments s) :
    '/' ∉ segment := by
  induction s generalizing segment with
  | nil => simp_all [segments]
  | cons c s ih =>
      simp only [segments] at h
      split at h
      · rcases List.mem_cons.1 h with rfl | h
        · simp
        · exact ih h
      · next hc =>
          split at h
          · next heq => exact absurd heq (segments_ne_nil s)
          · next first rest heq =>
              rcases List.mem_cons.1 h with rfl | h
              · have hfirst : first ∈ segments s := by simp [heq]
                have := ih hfirst
                simp only [List.mem_cons, not_or]
                exact ⟨fun e => hc e.symm, this⟩
              · exact ih (by simp [heq, h])

end Storage
end CaptureKit
