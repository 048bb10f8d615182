/-!
# The order of texts

Texts are ordered like the words of a dictionary, characters by their code points.
-/

namespace Spreadsheet.Text

/-- How two texts compare: at the first place where they differ by the code points there, and a
text comes before its continuations. -/
def order : List Char → List Char → Ordering
  | [], [] => .eq
  | [], _ :: _ => .lt
  | _ :: _, [] => .gt
  | a :: as, b :: bs => (compare a.toNat b.toNat).then (order as bs)

end Spreadsheet.Text
