import BuildCapture.SourcePath
import Mathlib.Data.List.TakeWhile

/-!
# Paths relative to a root

Paths are compared up to their separators.  Below an absolute root that does not
end in a separator, a path becomes what follows the root and one slash; an
absolute path elsewhere becomes its final component, and a relative path only
gets slashes.
-/

namespace BuildCapture.SourcePath

/-! ## Separators -/

/-- A separator turned into a slash, any other character as it is. -/
def slash (symbol : Char) : Char :=
  if symbol == '\\' then '/' else symbol

theorem slash_of_separator
    {symbol : Char}
    (separates : isSeparator symbol = true) :
    slash symbol = '/' := by
  rw [isSeparator, Bool.or_eq_true, beq_iff_eq, beq_iff_eq] at separates
  rcases separates with rfl | rfl
  · rfl
  · rfl

theorem slash_of_not_separator
    {symbol : Char}
    (plain : isSeparator symbol = false) :
    slash symbol = symbol := by
  rw [isSeparator, Bool.or_eq_false_iff] at plain
  rw [slash, plain.2]
  rfl

theorem isSeparator_slash
    (symbol : Char) :
    isSeparator (slash symbol) = isSeparator symbol := by
  cases separates : isSeparator symbol with
  | true =>
    rw [slash_of_separator separates]
    rfl
  | false => rw [slash_of_not_separator separates, separates]

/-- In a path with slashes, every separator is one. -/
theorem slash_slash
    (symbol : Char) :
    slash (slash symbol) = slash symbol := by
  cases separates : isSeparator symbol with
  | true =>
    rw [slash_of_separator separates]
    rfl
  | false => rw [slash_of_not_separator separates, slash_of_not_separator separates]

theorem slashes_eq_map
    (path : List Char) :
    slashes path = path.map slash :=
  rfl

theorem slashes_append
    (left right : List Char) :
    slashes (left ++ right) = slashes left ++ slashes right :=
  List.map_append

@[simp]
theorem slashes_slashes
    (path : List Char) :
    slashes (slashes path) = slashes path := by
  rw [slashes_eq_map, slashes_eq_map, List.map_map]
  exact List.map_congr_left fun symbol _ => slash_slash symbol

theorem slashes_of_plain
    {path : List Char}
    (plain : ∀ symbol ∈ path, isSeparator symbol = false) :
    slashes path = path := by
  have same : path.map slash = path.map id :=
    List.map_congr_left fun symbol member => slash_of_not_separator (plain symbol member)
  rw [slashes_eq_map, same, List.map_id]

/-! ## Rooted paths -/

theorem isRooted_iff
    {path : List Char} :
    isRooted path = true ↔
      (∃ first rest, path = first :: rest ∧ isSeparator first = true) ∨
        ∃ drive separator rest, path = drive :: ':' :: separator :: rest ∧
          drive.isAlpha = true ∧ isSeparator separator = true := by
  constructor
  · intro rooted
    unfold isRooted at rooted
    split at rooted
    · next rest => exact Or.inl ⟨_, rest, rfl, rfl⟩
    · next rest => exact Or.inl ⟨_, rest, rfl, rfl⟩
    · next drive separator rest _ _ =>
      rw [Bool.and_eq_true] at rooted
      exact Or.inr ⟨drive, separator, rest, rfl, rooted⟩
    · cases rooted
  · rintro (⟨first, rest, rfl, separates⟩ | ⟨drive, separator, rest, rfl, letter, separates⟩)
    · rw [isSeparator, Bool.or_eq_true, beq_iff_eq, beq_iff_eq] at separates
      rcases separates with rfl | rfl
      · rfl
      · rfl
    · unfold isRooted
      split
      · rfl
      · rfl
      · next same =>
        cases same
        rw [letter, separates]
        rfl
      · next others => exact absurd rfl (others drive separator rest)

/-- What starts with a rooted path is rooted. -/
theorem isRooted_append
    {root : List Char}
    (rooted : isRooted root = true)
    (rest : List Char) :
    isRooted (root ++ rest) = true := by
  rcases isRooted_iff.1 rooted with
    ⟨first, more, rfl, separates⟩ | ⟨drive, separator, more, rfl, letter, separates⟩
  · exact isRooted_iff.2 (Or.inl ⟨first, more ++ rest, rfl, separates⟩)
  · exact isRooted_iff.2 (Or.inr ⟨drive, separator, more ++ rest, rfl, letter, separates⟩)

theorem slash_eq_iff
    {symbol other : Char}
    (plain : isSeparator other = false) :
    slash symbol = other ↔ symbol = other := by
  cases separates : isSeparator symbol with
  | true =>
    rw [slash_of_separator separates]
    constructor
    · rintro rfl
      cases plain
    · rintro rfl
      rw [separates] at plain
      cases plain
  | false => rw [slash_of_not_separator separates]

theorem isAlpha_slash
    (symbol : Char) :
    (slash symbol).isAlpha = symbol.isAlpha := by
  rw [slash]
  split
  · next back =>
    rw [beq_iff_eq.1 back]
    rfl
  · rfl

/-- Whether a path is rooted does not depend on its separators. -/
@[simp]
theorem isRooted_slashes
    (path : List Char) :
    isRooted (slashes path) = isRooted path := by
  rw [Bool.eq_iff_iff, isRooted_iff, isRooted_iff, slashes_eq_map]
  constructor
  · rintro (⟨first, rest, split, separates⟩ | ⟨drive, separator, rest, split, letter, separates⟩)
    · rcases List.map_eq_cons_iff.1 split with ⟨old, others, rfl, rfl, -⟩
      rw [isSeparator_slash] at separates
      exact Or.inl ⟨old, others, rfl, separates⟩
    · rcases List.map_eq_cons_iff.1 split with ⟨old, later, rfl, rfl, behind⟩
      rcases List.map_eq_cons_iff.1 behind with ⟨colon, last, rfl, isColon, behindColon⟩
      rcases List.map_eq_cons_iff.1 behindColon with ⟨oldSeparator, others, rfl, rfl, -⟩
      rw [slash_eq_iff rfl] at isColon
      rw [isAlpha_slash] at letter
      rw [isSeparator_slash] at separates
      exact Or.inr ⟨old, oldSeparator, others, by rw [isColon], letter, separates⟩
  · rintro (⟨first, rest, rfl, separates⟩ | ⟨drive, separator, rest, rfl, letter, separates⟩)
    · rw [← isSeparator_slash] at separates
      exact Or.inl ⟨_, _, rfl, separates⟩
    · rw [← isAlpha_slash] at letter
      rw [← isSeparator_slash] at separates
      exact Or.inr ⟨_, _, _, rfl, letter, separates⟩

/-! ## Roots -/

theorem dropPrefix?_eq_some_iff
    {start text rest : List Char} :
    dropPrefix? start text = some rest ↔ text = start ++ rest := by
  induction start generalizing text with
  | nil =>
    rw [dropPrefix?, Option.some.injEq, List.nil_append]
  | cons expected start ih =>
    cases text with
    | nil =>
      rw [dropPrefix?]
      constructor
      · exact nofun
      · exact nofun
    | cons symbol text =>
      rw [dropPrefix?, List.cons_append, List.cons.injEq]
      split
      · next same => rw [ih, and_iff_right same.symm]
      · next different =>
        constructor
        · exact nofun
        · exact fun both => absurd both.1.symm different

/-- Below a root, what follows one slash is left. -/
theorem below?_append
    {root : List Char}
    (notEmpty : root ≠ [])
    (rest : List Char) :
    below? root (root ++ '/' :: rest) = some rest := by
  have dropped : dropPrefix? root (root ++ '/' :: rest) = some ('/' :: rest) :=
    dropPrefix?_eq_some_iff.2 rfl
  cases root with
  | nil => exact absurd rfl notEmpty
  | cons first others => simp only [below?, dropped]

/-- A path that is neither the root nor below it is not relative to it. -/
theorem below?_eq_none
    {root path : List Char}
    (different : path ≠ root)
    (notBelow : ∀ rest, path ≠ root ++ '/' :: rest) :
    below? root path = none := by
  rw [below?.eq_def]
  split
  · rfl
  · split
    · next dropped =>
      rw [dropPrefix?_eq_some_iff, List.append_nil] at dropped
      exact absurd dropped different
    · next rest dropped => exact absurd (dropPrefix?_eq_some_iff.1 dropped) (notBelow rest)
    · rfl

theorem withoutTrailingSlashes_eq
    {path : List Char}
    (openEnd : ∀ last, path.getLast? = some last → last ≠ '/') :
    withoutTrailingSlashes path = path := by
  rw [withoutTrailingSlashes]
  rcases List.eq_nil_or_concat path with rfl | ⟨front, last, rfl⟩
  · rfl
  · have plain : last ≠ '/' := openEnd last (by rw [List.concat_eq_append, List.getLast?_concat])
    rw [List.concat_eq_append, List.reverse_concat, List.dropWhile_cons_of_neg, List.reverse_cons,
      List.reverse_reverse]
    rw [beq_iff_eq]
    exact plain

/-- The final component of a path does not depend on its separators. -/
theorem lastComponent_slashes
    (path : List Char) :
    lastComponent (slashes path) = lastComponent path := by
  have plain :
      ∀ symbol ∈ path.reverse.takeWhile fun symbol => !isSeparator symbol,
        isSeparator symbol = false := by
    intro symbol member
    simpa using List.mem_takeWhile_imp member
  have same :
      ((fun symbol => !isSeparator symbol) ∘ slash) = fun symbol => !isSeparator symbol := by
    funext symbol
    rw [Function.comp_apply, isSeparator_slash]
  rw [lastComponent, lastComponent, slashes_eq_map, ← List.map_reverse, List.takeWhile_map, same]
  exact congrArg List.reverse (slashes_of_plain plain)

/-! ## Directories -/

/-- A directory that is absolute and does not end in a separator. -/
structure IsDirectory (directory : String) : Prop where
  absolute : isAbsolute directory = true
  openEnd : directory.toList.getLast?.any isSeparator = false

/-- With slashes, a directory is still rooted and does not end in one. -/
theorem IsDirectory.slashes
    {directory : String}
    (isDirectory : IsDirectory directory) :
    SourcePath.slashes directory.toList ≠ [] ∧
      withoutTrailingSlashes (SourcePath.slashes directory.toList) =
        SourcePath.slashes directory.toList := by
  constructor
  · intro nothing
    have rooted := isDirectory.absolute
    rw [isAbsolute, ← isRooted_slashes, nothing] at rooted
    cases rooted
  · apply withoutTrailingSlashes_eq
    intro last ends
    rw [slashes_eq_map, List.getLast?_map] at ends
    rcases Option.map_eq_some_iff.1 ends with ⟨old, oldEnds, rfl⟩
    rintro same
    have plain := isDirectory.openEnd
    rw [oldEnds, Option.any_some, ← isSeparator_slash, same] at plain
    cases plain

/-- A path of a file directly in a directory. -/
def LiesIn (directory path : String) : Prop :=
  ∃ separator name, isSeparator separator = true ∧ (∀ symbol ∈ name, isSeparator symbol = false) ∧
    path.toList = directory.toList ++ separator :: name

/-- The parent of a path is the directory that it lies in, with slashes; the root has a slash. -/
theorem parent_of_liesIn
    {directory path : String}
    (lies : LiesIn directory path) :
    parent path = if directory = "" then "/" else normalize directory := by
  rcases lies with ⟨separator, name, separates, plain, split⟩
  have spelled :
      (slashes path.toList).reverse =
        name.reverse ++ '/' :: (slashes directory.toList).reverse := by
    rw [split, slashes_append, slashes_eq_map (separator :: name), List.map_cons,
      slash_of_separator separates, ← slashes_eq_map, slashes_of_plain plain,
      List.reverse_append, List.reverse_cons, List.append_assoc]
    rfl
  have noSlash : ∀ symbol ∈ name.reverse, (symbol != '/') = true := by
    intro symbol member
    rw [bne_iff_ne]
    rintro rfl
    cases plain _ (List.mem_reverse.1 member)
  have dropped :
      (slashes path.toList).reverse.dropWhile (fun symbol => symbol != '/') =
        '/' :: (slashes directory.toList).reverse := by
    rw [spelled, List.dropWhile_append_of_pos noSlash]
    rfl
  have nothing : directory = "" ↔ slashes directory.toList = [] := by
    rw [← String.toList_eq_nil_iff, slashes_eq_map, List.map_eq_nil_iff]
  rw [parent, normalize, SourcePath.directory]
  simp only [dropped, nothing]
  split
  · next none => cases none
  · next single =>
    rw [List.cons.injEq, List.reverse_eq_nil_iff] at single
    rw [if_pos single.2]
  · next before notSingle same =>
    rw [List.cons.injEq] at same
    have some : slashes directory.toList ≠ [] := by
      intro none
      rw [none, List.reverse_nil] at same
      exact notSingle same.2.symm
    rw [if_neg some, ← same.2, List.reverse_reverse]

/-- The parent of a path directly in a directory is the directory with slashes. -/
theorem IsDirectory.parent_eq
    {directory path : String}
    (isDirectory : IsDirectory directory)
    (lies : LiesIn directory path) :
    parent path = normalize directory := by
  have some : directory ≠ "" := by
    rintro rfl
    exact isDirectory.slashes.1 rfl
  rw [parent_of_liesIn lies, if_neg some]

/-! ## Relative spellings -/

variable {directory path : String}

/-- A path is a directory or lies below it, up to separators. -/
def Within (directory path : String) : Prop :=
  normalize path = normalize directory ∨
    ∃ rest, normalize path = normalize directory ++ "/" ++ rest

theorem within_iff :
    Within directory path ↔
      slashes path.toList = slashes directory.toList ∨
        ∃ rest, slashes path.toList = slashes directory.toList ++ '/' :: rest := by
  rw [Within, normalize, normalize, String.ofList_inj]
  apply or_congr_right
  constructor
  · rintro ⟨rest, below⟩
    refine ⟨rest.toList, ?_⟩
    simpa using congrArg String.toList below
  · rintro ⟨rest, below⟩
    refine ⟨String.ofList rest, ?_⟩
    rw [below, String.append_assoc]
    simp

/-- Whether a path is a directory or lies below it, up to separators. -/
def isWithin (directory path : String) : Bool :=
  match dropPrefix? (slashes directory.toList) (slashes path.toList) with
  | some [] => true
  | some ('/' :: _) => true
  | _ => false

theorem isWithin_iff :
    isWithin directory path = true ↔ Within directory path := by
  rw [within_iff, isWithin]
  constructor
  · intro within
    split at within
    · next dropped =>
      rw [dropPrefix?_eq_some_iff, List.append_nil] at dropped
      exact Or.inl dropped
    · next rest dropped => exact Or.inr ⟨rest, dropPrefix?_eq_some_iff.1 dropped⟩
    · cases within
  · rintro (same | ⟨rest, below⟩)
    · have dropped : dropPrefix? (slashes directory.toList) (slashes path.toList) = some [] :=
        dropPrefix?_eq_some_iff.2 (same.trans (List.append_nil _).symm)
      rw [dropped]
    · rw [dropPrefix?_eq_some_iff.2 below]
      rfl

instance : Decidable (Within directory path) :=
  decidable_of_iff _ isWithin_iff

theorem IsDirectory.relativize_eq
    (isDirectory : IsDirectory directory)
    (path : String) :
    relativize path (normalize directory) =
      String.ofList
        (match below? (SourcePath.slashes directory.toList) (SourcePath.slashes path.toList) with
          | some relative => relative
          | none =>
            if isAbsolute path then lastComponent path.toList
            else SourcePath.slashes path.toList) := by
  rw [relativize, relativizeChars, normalize, String.toList_ofList, slashes_slashes,
    isDirectory.slashes.2, isRooted_slashes, lastComponent_slashes]
  rfl

/-- Below the directory, the path becomes what follows. -/
theorem IsDirectory.relativize_below
    (isDirectory : IsDirectory directory)
    {rest : String}
    (below : normalize path = normalize directory ++ "/" ++ rest) :
    relativize path (normalize directory) = rest := by
  have spelled :
      SourcePath.slashes path.toList = SourcePath.slashes directory.toList ++ '/' :: rest.toList := by
    have characters := congrArg String.toList below
    simpa [normalize] using characters
  rw [isDirectory.relativize_eq, spelled, below?_append isDirectory.slashes.1]
  simp only [String.ofList_toList]

theorem below?_eq_none_of_not_within
    (outside : ¬ Within directory path) :
    below? (slashes directory.toList) (slashes path.toList) = none := by
  rw [within_iff, not_or, not_exists] at outside
  exact below?_eq_none outside.1 outside.2

/-- An absolute path elsewhere becomes its final component. -/
theorem IsDirectory.relativize_outside
    (isDirectory : IsDirectory directory)
    (absolute : isAbsolute path = true)
    (outside : ¬ Within directory path) :
    relativize path (normalize directory) = fileName path := by
  rw [isDirectory.relativize_eq, below?_eq_none_of_not_within outside]
  simp only [absolute, if_true]
  rfl

/-- No relative path is within an absolute directory. -/
theorem IsDirectory.not_within
    (isDirectory : IsDirectory directory)
    (relative : isAbsolute path = false) :
    ¬ Within directory path := by
  have rooted : isRooted (SourcePath.slashes directory.toList) = true :=
    (isRooted_slashes _).trans isDirectory.absolute
  have absolute :
      ∀ rest, SourcePath.slashes path.toList = SourcePath.slashes directory.toList ++ rest →
        isAbsolute path = true := by
    intro rest same
    rw [isAbsolute, ← isRooted_slashes, same]
    exact isRooted_append rooted rest
  rw [within_iff]
  rintro (same | ⟨rest, below⟩)
  · rw [absolute [] (same.trans (List.append_nil _).symm)] at relative
    cases relative
  · rw [absolute _ below] at relative
    cases relative

/-- A relative path only gets slashes. -/
theorem IsDirectory.relativize_relative
    (isDirectory : IsDirectory directory)
    (relative : isAbsolute path = false) :
    relativize path (normalize directory) = normalize path := by
  have outside := below?_eq_none_of_not_within (isDirectory.not_within relative)
  rw [isDirectory.relativize_eq, outside]
  simp only [relative]
  rfl

end BuildCapture.SourcePath
