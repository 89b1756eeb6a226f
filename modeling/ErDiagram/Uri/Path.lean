import ErDiagram.Text.Split

/-!
# Paths

A path consists of segments between slashes. The segments `.` and `..` are steps: the first stays where it
is and the second leaves the segment before.
-/

namespace ErDiagram.Uri

def segments (path : List Char) : List (List Char) :=
  Text.splitMark '/' path

def joined (path : List (List Char)) : List Char :=
  List.intercalate ['/'] path

/-- Takes the steps of a path: `.` stays and `..` leaves the segment before, if there is one. The segments
so far come in reverse. -/
def takeSteps : List (List Char) → List (List Char) → List (List Char)
  | taken, [] => taken.reverse
  | taken, segment :: rest =>
    if segment = ['.'] then takeSteps taken rest
    else if segment = ['.', '.'] then
      takeSteps (if taken = [] ∨ taken = [[]] then taken else taken.drop 1) rest
    else takeSteps (segment :: taken) rest

def plainPath (path : List Char) : List Char :=
  joined (takeSteps [] (segments path))

theorem segments_joined {path : List (List Char)} (hne : path ≠ [])
    (h : ∀ segment ∈ path, '/' ∉ segment) : segments (joined path) = path :=
  Text.splitMark_intercalate hne h

theorem takeSteps_eq_append {taken path : List (List Char)}
    (h : ∀ segment ∈ path, segment ≠ ['.'] ∧ segment ≠ ['.', '.']) :
    takeSteps taken path = taken.reverse ++ path := by
  induction path generalizing taken with
  | nil => simp [takeSteps]
  | cons segment rest ih =>
    have here := h segment (by simp)
    simp [takeSteps, here.1, here.2, ih fun s hs => h s (by simp [hs])]

end ErDiagram.Uri
