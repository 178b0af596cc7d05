import BuildCapture.Proofs.Json.Reading
import BuildCapture.Proofs.Json.Schema

/-!
# Writing that tells values apart

A way of writing values as trees tells them apart if different values are written
as different trees, all of them tidy.  Then their documents are different, too:
a tidy tree is read back from its document.  Scalars that round-trip are told
apart, and so are lists, optional values, tuples and structures of what is.
-/

namespace BuildCapture.Json.Tree

/-- Different values are written as different trees, tidy and never null. -/
structure TellsApart
    {α : Type}
    (height : Nat)
    (write : α → Tree) : Prop where
  injective : Function.Injective write
  tidy : ∀ value, (write value).TidyFrom height
  present : ∀ value, write value ≠ .null

variable {α β : Type} {height extra : Nat} {write : α → Tree}

/-- What is read back is told apart. -/
theorem RoundTrips.tellsApart
    {read? : Tree → Option α}
    (trips : RoundTrips height write read?) :
    TellsApart height write where
  injective first second same := by
    have reads := congrArg read? same
    rw [trips.reads, trips.reads] at reads
    exact Option.some.inj reads
  tidy := trips.tidy
  present := trips.present

/-- Different values have different documents. -/
theorem TellsApart.render_injective
    (tells : TellsApart height write) :
    Function.Injective fun value => (write value).render := by
  intro first second same
  have reads : ∀ value, read? (write value).render = some (write value) := by
    intro value
    have tidy := tells.tidy value height (Nat.le_refl height)
    exact tidy.read? tidy.prints
  have read := congrArg read? same
  rw [reads, reads] at read
  exact tells.injective (Option.some.inj read)

theorem TellsApart.within
    (tells : TellsApart height write)
    (value : α) :
    (write value).TidyFrom (extra + height) :=
  (tells.tidy value).higher

/-! ## Null -/

/-- Optional values are told apart. -/
theorem TellsApart.ofOption_injective
    (tells : TellsApart height write) :
    Function.Injective (ofOption write) := by
  intro first second same
  cases first with
  | none =>
    cases second with
    | none => rfl
    | some value => exact absurd same.symm (tells.present value)
  | some value =>
    cases second with
    | none => exact absurd same (tells.present value)
    | some other => exact congrArg some (tells.injective same)

theorem TellsApart.optionWithin
    (tells : TellsApart height write)
    (value : Option α) :
    (ofOption write value).TidyFrom (extra + height) :=
  (tidyFrom_ofOption tells.tidy value).higher

/-! ## Arrays and objects -/

/-- Arrays tell values apart if their items do. -/
theorem tellsApart_array
    {items : α → List Tree}
    (injective : Function.Injective items)
    (tidy : ∀ value, ∀ item ∈ items value, item.TidyFrom height) :
    TellsApart (height + 1) fun value => .array (items value) where
  injective _ _ same := injective (Tree.array.inj same)
  tidy value := tidyFrom_array (tidy value)
  present _ := nofun

/-- Lists of what is told apart are told apart. -/
theorem TellsApart.list
    (tells : TellsApart height write) :
    TellsApart (height + 1) (ofList write) := by
  apply tellsApart_array (List.map_injective_iff.2 tells.injective)
  intro values item member
  rcases List.mem_map.1 member with ⟨value, -, rfl⟩
  exact tells.tidy value

/-- Objects tell values apart if their fields have different names and do. -/
theorem tellsApart_fields
    (names : List String)
    (distinct : names.Nodup)
    {fields : α → Fields}
    (aligned : ∀ value, (fields value).map Prod.fst = names)
    (injective : Function.Injective fields)
    (tidy : ∀ value, ∀ field ∈ fields value, field.2.TidyFrom height) :
    TellsApart (height + 1) fun value => ofFields (fields value) where
  injective first second same := by
    have named : Function.Injective fun field : String × Tree => (Octets.ofText field.1, field.2) := by
      rintro ⟨name, value⟩ ⟨other, otherValue⟩ equal
      rw [Prod.mk.injEq] at equal
      exact Prod.ext (Octets.ofText_injective equal.1) equal.2
    exact injective (List.map_injective_iff.2 named (Tree.object.inj same))
  tidy value := tidyFrom_ofFields ((aligned value).symm ▸ distinct) (tidy value)
  present _ := nofun

end BuildCapture.Json.Tree
