import BuildCapture.Extension.Session
import BuildCapture.Proofs.Record.Parts
import Mathlib.Data.List.Basic
import Mathlib.Tactic.Basic

/-!
# Names of module files

The name of a module comes from its metadata and may be any text.  The file of
the module gets a name that is one plain component of a path: the name of the
module where that is one, and otherwise the digits of its identity.

So the path that is put together from the path of a directory, the digits of the
identity and the name of the file leads down into that directory, and from
there down to the file, whatever the name of the module is.
-/

namespace BuildCapture

/-! ## Components of paths -/

namespace Route

theorem components_of_noSlash
    {symbols : List Char}
    (noSlash : '/' ∉ symbols) :
    components symbols = [symbols] := by
  induction symbols with
  | nil => rfl
  | cons symbol rest ih =>
    rw [List.mem_cons, not_or] at noSlash
    rw [components, if_neg (Ne.symm noSlash.1), ih noSlash.2]

theorem components_ne_nil
    (symbols : List Char) :
    components symbols ≠ [] := by
  cases symbols with
  | nil => nofun
  | cons symbol rest =>
    rw [components]
    split
    · nofun
    · split
      · nofun
      · nofun

/-- A slash separates the components before it from those behind it. -/
theorem components_append_slash
    (front back : List Char) :
    components (front ++ '/' :: back) = components front ++ components back := by
  induction front with
  | nil => rfl
  | cons symbol rest ih =>
    rw [List.cons_append, components, components, ih]
    split
    · rfl
    · cases others : components rest with
      | nil => exact absurd others (components_ne_nil rest)
      | cons first more => rfl

/-- A text that is one component of a path on every system, and leads down. -/
structure IsComponent (name : String) : Prop where
  noForeign : name.toList.any Session.isForeignToNames = false
  nonempty : name ≠ ""
  noPoint : name ≠ "."
  noParent : name ≠ ".."

namespace IsComponent

variable
    {name : String}
    (component : IsComponent name)

include component

theorem noSlash :
    '/' ∉ name.toList := by
  intro member
  have foreign := List.any_eq_false.1 component.noForeign '/' member
  exact foreign rfl

theorem step?_eq :
    step? name.toList = some (.down name) := by
  have nonempty : name.toList ≠ [] := by
    intro same
    exact component.nonempty (String.toList_inj.1 same)
  have noPoint : name.toList ≠ ['.'] := by
    intro same
    exact component.noPoint (String.toList_inj.1 same)
  have noParent : name.toList ≠ ['.', '.'] := by
    intro same
    exact component.noParent (String.toList_inj.1 same)
  rw [step?, if_neg (not_or.2 ⟨nonempty, noPoint⟩), if_neg noParent, String.ofList_toList]

theorem components_eq :
    components name.toList = [name.toList] :=
  components_of_noSlash component.noSlash

/-- A component does not start with a slash. -/
theorem isRelative :
    name.toList.head? ≠ some '/' := by
  intro slash
  exact component.noSlash (List.mem_of_head? slash)

/-- A component that is joined to a path leads one step further down. -/
theorem steps_join
    (base : String) :
    (ofPath (join base name)).steps = (ofPath base).steps ++ [.down name] := by
  have last : [name.toList].filterMap step? = [.down name] := by
    rw [List.filterMap_cons, component.step?_eq]
    rfl
  rw [join, if_neg component.isRelative]
  split
  · next direct =>
    rcases direct with nothing | slash
    · have empty : base = "" := by simpa using nothing
      rw [empty, String.empty_append]
      simp only [ofPath, component.components_eq]
      exact last
    · rcases List.getLast?_eq_some_iff.1 slash with ⟨front, split⟩
      have joined : (base ++ name).toList = front ++ '/' :: name.toList := by
        rw [String.toList_append, split, List.append_assoc]
        rfl
      have trailing : (components []).filterMap step? = [] := rfl
      simp only [ofPath, joined, split, components_append_slash, component.components_eq,
        List.filterMap_append, last, trailing, List.append_nil]
  · have joined : (base ++ "/" ++ name).toList = base.toList ++ '/' :: name.toList := by
      rw [String.toList_append, String.toList_append, List.append_assoc]
      rfl
    simp only [ofPath, joined, components_append_slash, component.components_eq,
      List.filterMap_append, last]

/-- Joining a component to a path does not change where the way starts. -/
theorem isAbsolute_join
    {base : String}
    (nonempty : base ≠ "") :
    (ofPath (join base name)).isAbsolute = (ofPath base).isAbsolute := by
  have somewhere : base.toList ≠ [] := by
    intro same
    exact nonempty (String.toList_inj.1 same)
  have sameHead : ∀ behind : List Char, (base.toList ++ behind).head? = base.toList.head? := by
    intro behind
    rcases List.exists_cons_of_ne_nil somewhere with ⟨first, rest, split⟩
    rw [split]
    rfl
  rw [join, if_neg component.isRelative]
  split
  · simp only [ofPath, String.toList_append, sameHead]
  · simp only [ofPath, String.toList_append, List.append_assoc, sameHead]

end IsComponent

end Route

/-! ## Names of files -/

theorem Octets.noForeign_hexDigit
    {value : Nat}
    (small : value < 16) :
    Session.isForeignToNames (hexDigit value) = false ∧ hexDigit value ≠ '.' := by
  have every : ∀ number : Fin 16,
      Session.isForeignToNames (hexDigit number) = false ∧ hexDigit number ≠ '.' := by
    decide
  exact every ⟨value, small⟩

/-- Hexadecimal digits are neither points nor foreign to names. -/
theorem Octets.noForeign_of_mem_hex
    {data : Octets}
    {symbol : Char}
    (member : symbol ∈ (hex data).toList) :
    Session.isForeignToNames symbol = false ∧ symbol ≠ '.' := by
  rw [hex, String.toList_ofList] at member
  rcases List.mem_flatMap.1 member with ⟨octet, -, digit⟩
  have bound : octet.toNat < 256 := octet.toNat_lt
  rcases List.mem_pair.1 digit with rfl | rfl
  · exact noForeign_hexDigit (by omega)
  · exact noForeign_hexDigit (by omega)

namespace Session

open Route

/-- The digits of an identity are one component. -/
theorem isComponent_hex
    (id : ModuleId) :
    IsComponent id.hex := by
  have digits : ∀ symbol ∈ id.hex.toList, isForeignToNames symbol = false ∧ symbol ≠ '.' :=
    fun symbol member => Octets.noForeign_of_mem_hex member
  have read := ModuleId.ofHex?_hex id
  constructor
  case noForeign =>
    rw [List.any_eq_false]
    intro symbol member
    rw [(digits symbol member).1]
    exact Bool.false_ne_true
  case nonempty =>
    intro empty
    rw [empty] at read
    cases read
  case noPoint =>
    intro point
    rw [point] at digits
    exact (digits '.' List.mem_cons_self).2 rfl
  case noParent =>
    intro parent
    rw [parent] at digits
    exact (digits '.' List.mem_cons_self).2 rfl

/-- A text that ends in the suffix of module files is neither empty nor made of points. -/
theorem isComponent_append
    {name : String}
    (noForeign : name.toList.any isForeignToNames = false) :
    IsComponent (name ++ ".dll") := by
  have last : (name ++ ".dll").toList.getLast? = some 'l' := by
    rw [String.toList_append, List.getLast?_append]
    rfl
  constructor
  case noForeign =>
    rw [String.toList_append, List.any_append, noForeign]
    rfl
  case nonempty =>
    intro empty
    rw [empty] at last
    cases last
  case noPoint =>
    intro point
    rw [point] at last
    exact absurd (Option.some.inj last) (by decide)
  case noParent =>
    intro parent
    rw [parent] at last
    exact absurd (Option.some.inj last) (by decide)

open Classical in
/-- The file has the name of the module if that is one component, and else that of its identity. -/
theorem fileName_eq
    (info : ModuleInfo) :
    fileName info = (if IsComponent info.name then info.name else info.id.hex) ++ ".dll" := by
  have plain : (info.name ≠ "" ∧ info.name ≠ "." ∧ info.name ≠ ".." ∧
      (!info.name.toList.any isForeignToNames) = true) ↔ IsComponent info.name := by
    rw [Bool.not_eq_true']
    constructor
    · rintro ⟨nonempty, noPoint, noParent, noForeign⟩
      exact ⟨noForeign, nonempty, noPoint, noParent⟩
    · rintro ⟨noForeign, nonempty, noPoint, noParent⟩
      exact ⟨nonempty, noPoint, noParent, noForeign⟩
  rw [fileName]
  simp only [plain]

/-- Whatever the name of a module is, the name of its file is one component. -/
theorem isComponent_fileName
    (info : ModuleInfo) :
    IsComponent (fileName info) := by
  classical
  rw [fileName_eq]
  apply isComponent_append
  split
  · next component => exact component.noForeign
  · exact (isComponent_hex info.id).noForeign

end Session

end BuildCapture
