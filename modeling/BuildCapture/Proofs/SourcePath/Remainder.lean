import BuildCapture.Proofs.SourcePath.Project

/-!
# What is left of a path

Relative to a root, a path becomes what follows the root and one slash, a point,
its final component, or itself with slashes.  The first of these is taken as it
is: where it starts with a separator or a drive, the result is an absolute path.
In no other case is it one.
-/

namespace BuildCapture.SourcePath

/-! ## The cases -/

theorem below?_eq_some_iff
    {root path relative : List Char} :
    below? root path = some relative ↔
      root ≠ [] ∧ (path = root ∧ relative = ['.'] ∨ path = root ++ '/' :: relative) := by
  constructor
  · intro found
    rw [below?.eq_def] at found
    split at found
    · cases found
    next first others =>
    refine ⟨List.cons_ne_nil first others, ?_⟩
    split at found
    · next dropped =>
      rw [dropPrefix?_eq_some_iff, List.append_nil] at dropped
      exact Or.inl ⟨dropped, (Option.some.inj found).symm⟩
    · next rest dropped =>
      cases found
      exact Or.inr (dropPrefix?_eq_some_iff.1 dropped)
    · cases found
  · rintro ⟨notEmpty, ⟨rfl, rfl⟩ | rfl⟩
    · have dropped : dropPrefix? path path = some [] :=
        dropPrefix?_eq_some_iff.2 (List.append_nil path).symm
      cases path with
      | nil => exact absurd rfl notEmpty
      | cons first others => simp only [below?, dropped]
    · exact below?_append notEmpty relative

/-- A root as it stands in front of the paths below it. -/
def trunk (root : List Char) : List Char :=
  withoutTrailingSlashes (slashes root)

/-- What a path can become relative to a root. -/
inductive Remains (root path : List Char) : List Char → Prop
  | below {rest : List Char}
    (notEmpty : trunk root ≠ [])
    (split : slashes path = trunk root ++ '/' :: rest) :
    Remains root path rest
  | root
    (notEmpty : trunk root ≠ [])
    (same : slashes path = trunk root) :
    Remains root path ['.']
  | elsewhere
    (rooted : isRooted path = true) :
    Remains root path (lastComponent path)
  | relative
    (unrooted : isRooted path = false) :
    Remains root path (slashes path)

theorem remains_relativizeChars
    (path root : List Char) :
    Remains root path (relativizeChars path root) := by
  rw [relativizeChars]
  split
  · next relative found =>
    rcases below?_eq_some_iff.1 found with ⟨notEmpty, ⟨same, rfl⟩ | split⟩
    · exact .root notEmpty same
    · exact .below notEmpty split
  · rw [isRooted_slashes, lastComponent_slashes]
    split
    · next rooted => exact .elsewhere rooted
    · next unrooted => exact .relative (Bool.eq_false_iff.2 unrooted)

/-- Nothing is put into a path but slashes and a point. -/
theorem mem_relativizeChars
    {path root : List Char}
    {symbol : Char}
    (member : symbol ∈ relativizeChars path root) :
    symbol ∈ slashes path ∨ symbol = '.' := by
  have remains := remains_relativizeChars path root
  generalize relativizeChars path root = left at member remains
  cases remains with
  | below notEmpty split =>
    left
    rw [split]
    exact List.mem_append_right _ (List.mem_cons_of_mem _ member)
  | root notEmpty same => exact Or.inr (List.mem_singleton.1 member)
  | elsewhere rooted =>
    left
    rw [← lastComponent_slashes, lastComponent, List.mem_reverse] at member
    exact List.mem_reverse.1 (List.takeWhile_subset _ member)
  | relative unrooted => exact Or.inl member

/-! ## Absolute results -/

theorem isRooted_lastComponent
    (path : List Char) :
    isRooted (lastComponent path) = false := by
  rw [Bool.eq_false_iff]
  intro rooted
  rcases any_isSeparator_of_isRooted rooted with ⟨symbol, member, separates⟩
  have plain := List.mem_takeWhile_imp (List.mem_reverse.1 member)
  rw [separates] at plain
  cases plain

/-- What is left of a path is absolute exactly if it follows a root and is absolute there. -/
theorem isRooted_relativizeChars_iff
    {path root : List Char} :
    isRooted (relativizeChars path root) = true ↔
      trunk root ≠ [] ∧ ∃ rest, slashes path = trunk root ++ '/' :: rest ∧
        isRooted rest = true := by
  constructor
  · intro rooted
    have remains := remains_relativizeChars path root
    generalize relativizeChars path root = left at rooted remains
    cases remains with
    | below notEmpty split => exact ⟨notEmpty, left, split, rooted⟩
    | root notEmpty same => cases rooted
    | elsewhere _ =>
      rw [isRooted_lastComponent] at rooted
      cases rooted
    | relative unrooted =>
      rw [isRooted_slashes, unrooted] at rooted
      cases rooted
  · rintro ⟨notEmpty, rest, split, rooted⟩
    have found : below? (withoutTrailingSlashes (slashes root)) (slashes path) = some rest :=
      below?_eq_some_iff.2 ⟨notEmpty, Or.inr split⟩
    rw [relativizeChars]
    simp only [found, rooted]

theorem backslash_notMem_slashes
    (path : List Char) :
    '\\' ∉ slashes path := by
  rw [slashes_eq_map, List.mem_map]
  rintro ⟨symbol, -, same⟩
  cases separates : isSeparator symbol with
  | true =>
    rw [slash_of_separator separates] at same
    cases same
  | false =>
    rw [slash_of_not_separator separates] at same
    subst same
    cases separates

/-- No backslash is left in a path. -/
theorem backslash_notMem_relativizeChars
    (path root : List Char) :
    '\\' ∉ relativizeChars path root := by
  intro member
  rcases mem_relativizeChars member with inside | point
  · exact backslash_notMem_slashes path inside
  · cases point

end BuildCapture.SourcePath
