/-!
# Fixed-width fields

* `padRight`, `padLeft`, `centre` — a text brought to a width in characters; `length_padRight` and
  its companions say that the width is reached and never cut.
* `cut` — the first characters of a text.
-/

namespace ObservationQuery.Text

/-- The text followed by spaces up to `width` characters. -/
def padRight (width : Nat) (s : String) : String :=
  s ++ String.ofList (List.replicate (width - s.length) ' ')

/-- The text after spaces up to `width` characters. -/
def padLeft (width : Nat) (s : String) : String :=
  String.ofList (List.replicate (width - s.length) ' ') ++ s

/-- The text between two runs of `fill` up to `width` characters; of an odd number of fills the
right run takes the extra one. -/
def centre (fill : Char) (width : Nat) (s : String) : String :=
  let spare := width - s.length
  String.ofList (List.replicate (spare / 2) fill) ++ s ++
    String.ofList (List.replicate (spare - spare / 2) fill)

/-- The first `count` characters. -/
def cut (count : Nat) (s : String) : String := String.ofList (s.toList.take count)

theorem length_padRight (width : Nat) (s : String) :
    (padRight width s).length = max width s.length := by
  simp [padRight]; omega

theorem length_padLeft (width : Nat) (s : String) :
    (padLeft width s).length = max width s.length := by
  simp [padLeft]; omega

theorem length_centre (fill : Char) (width : Nat) (s : String) :
    (centre fill width s).length = max width s.length := by
  simp [centre]; omega

end ObservationQuery.Text
