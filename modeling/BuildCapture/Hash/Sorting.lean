import BuildCapture.Octets

/-!
# Sorting by octets

Collections whose order does not matter are put into one fixed order: by a
list of octet sequences for each element, compared octet by octet and then
sequence by sequence.
-/

namespace BuildCapture

/-- Whether a key comes before another or equals it. -/
def keyAtMost
    (left right : List Octets) :
    Bool :=
  decide (left ≤ right)

/-- The elements in the order of their keys. -/
def sortedBy
    {α : Type}
    (key : α → List Octets)
    (elements : List α) :
    List α :=
  elements.mergeSort fun left right => keyAtMost (key left) (key right)

end BuildCapture
