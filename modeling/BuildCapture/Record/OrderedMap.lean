import BuildCapture.Json.Schema

/-!
# Ordered maps

Compiler options map names to values and care about the order in which the
names were first given.  A map is written as an array of pairs; where a name
is given twice, its first position and its last value count.
-/

namespace BuildCapture

/-- The entries of a map after a name is given a value: in place, or at the end when it is new. -/
def OrderedMap.put
    {α : Type}
    (key : String)
    (value : α) : List (String × α) → List (String × α)
  | [] => [(key, value)]
  | (name, old) :: rest =>
    if name = key then
      (name, value) :: rest
    else
      (name, old) :: OrderedMap.put key value rest

/-- Giving a name a value adds it to the names only when it is new. -/
theorem OrderedMap.keys_put
    {α : Type}
    (key : String)
    (value : α)
    (entries : List (String × α)) :
    (OrderedMap.put key value entries).map Prod.fst =
      if key ∈ entries.map Prod.fst then
        entries.map Prod.fst
      else
        entries.map Prod.fst ++ [key] := by
  induction entries with
  | nil => simp [OrderedMap.put]
  | cons entry rest ih =>
    rcases entry with ⟨name, old⟩
    by_cases same : name = key
    · simp [OrderedMap.put, same]
    · have different : ¬ key = name := fun equal => same equal.symm
      simp only [OrderedMap.put, same, if_false, List.map_cons, ih, List.mem_cons, different,
        false_or]
      split <;> simp

/-- Values by name, in the order of the names' first appearance. -/
structure OrderedMap (α : Type) where
  entries : List (String × α)
  distinct : (entries.map Prod.fst).Nodup := by simp
deriving DecidableEq, Repr

namespace OrderedMap

variable {α : Type}

/-- The map without names. -/
def empty : OrderedMap α where
  entries := []

instance : Inhabited (OrderedMap α) := ⟨empty⟩

/-- The map in which a name has a new value. -/
def insert
    (map : OrderedMap α)
    (key : String)
    (value : α) :
    OrderedMap α where
  entries := put key value map.entries
  distinct := by
    rw [keys_put]
    split
    · exact map.distinct
    · rename_i fresh
      rw [List.nodup_append]
      refine ⟨map.distinct, by simp, ?_⟩
      rintro name known other isKey rfl
      exact fresh (List.mem_singleton.1 isKey ▸ known)

/-- The value of a name. -/
def get?
    (map : OrderedMap α)
    (key : String) :
    Option α :=
  List.lookup key map.entries

/-- The names of a map. -/
def keys
    (map : OrderedMap α) :
    List String :=
  map.entries.map Prod.fst

/-- How many names a map has. -/
def size
    (map : OrderedMap α) :
    Nat :=
  map.entries.length

/-- Whether a map has no names. -/
def isEmpty
    (map : OrderedMap α) :
    Bool :=
  map.entries.isEmpty

/-- The map that results from giving values one after the other. -/
def ofList
    (pairs : List (String × α)) :
    OrderedMap α :=
  pairs.foldl (fun map pair => map.insert pair.1 pair.2) empty

/-- A map as an array of pairs. -/
def toTree
    (value : α → Json.Tree)
    (map : OrderedMap α) :
    Json.Tree :=
  .ofList (fun entry => .array [.ofText entry.1, value entry.2]) map.entries

/-- The pair that an array of two holds. -/
def pair?
    (value? : Json.Tree → Option α) : Json.Tree → Option (String × α)
  | .array [key, value] => do return (← key.text?, ← value? value)
  | _ => none

/-- The map that an array of pairs gives. -/
def ofTree?
    (value? : Json.Tree → Option α)
    (tree : Json.Tree) :
    Option (OrderedMap α) :=
  (tree.list? (pair? value?)).map ofList

/-- The document that stores a map. -/
def encode
    (value : α → Json.Tree)
    (map : OrderedMap α) :
    Octets :=
  (map.toTree value).render

/-- The map a document stores. -/
def decode
    (value? : Json.Tree → Option α)
    (data : Octets) :
    Option (OrderedMap α) :=
  (Json.Tree.read? data).bind (ofTree? value?)

end OrderedMap

end BuildCapture
