import BuildCapture.Proofs.SourcePath

/-!
# Files below the directory of a project

A file of a project is found from the directory of the project, behind one
separator.  Relative to that directory it is what stands behind the separator,
unless the directory is spelled with a separator at its end.  Then the slashes at
its end are missing from the root, so they stay in front of the relative path.

A directory that consists of separators is the root of the file system.  Without
its slashes nothing of it is left, and paths below it are shortened to their
final components like paths that lie elsewhere.
-/

namespace BuildCapture.SourcePath

/-! ## Enclosing directories -/

/-- What stands before the last separator of a path, as it is spelled. -/
def enclosing
    (path : String) :
    String :=
  match path.toList.reverse.dropWhile fun symbol => !isSeparator symbol with
  | [] => ""
  | _ :: before => String.ofList before.reverse

/-- The path of a file below the directory in which a path lies. -/
def beside
    (path : String)
    (separator : Char)
    (rest : String) :
    String :=
  enclosing path ++ (String.singleton separator ++ rest)

theorem any_isSeparator_of_isRooted
    {path : List Char}
    (rooted : isRooted path = true) :
    ∃ symbol ∈ path, isSeparator symbol = true := by
  rcases isRooted_iff.1 rooted with
    ⟨first, rest, rfl, separates⟩ | ⟨drive, separator, rest, rfl, -, separates⟩
  · exact ⟨first, List.mem_cons_self, separates⟩
  · exact ⟨separator, by simp, separates⟩

/-- An absolute path lies in what stands before its last separator. -/
theorem liesIn_enclosing
    {path : String}
    (absolute : isAbsolute path = true) :
    LiesIn (enclosing path) path := by
  have split : path.toList.reverse.takeWhile (fun symbol => !isSeparator symbol) ++
      path.toList.reverse.dropWhile (fun symbol => !isSeparator symbol) = path.toList.reverse :=
    List.takeWhile_append_dropWhile
  rw [enclosing]
  cases found : path.toList.reverse.dropWhile fun symbol => !isSeparator symbol with
  | nil =>
    rcases any_isSeparator_of_isRooted absolute with ⟨symbol, member, separates⟩
    have plain := List.dropWhile_eq_nil_iff.1 found symbol (List.mem_reverse.2 member)
    rw [separates] at plain
    cases plain
  | cons separator before =>
    have separates : isSeparator separator = true := by
      have first := List.head?_dropWhile_not (fun symbol => !isSeparator symbol) path.toList.reverse
      rw [found] at first
      simpa using first
    refine ⟨separator, lastComponent path.toList, separates, ?_, ?_⟩
    · intro symbol member
      simpa using List.mem_takeWhile_imp (List.mem_reverse.1 member)
    · have spelled := congrArg List.reverse split
      rw [found, List.reverse_append, List.reverse_reverse, List.reverse_cons,
        List.append_assoc] at spelled
      rw [String.toList_ofList]
      exact spelled.symm

/-! ## Slashes at the end -/

/-- How many slashes a path ends in. -/
def trailingSlashes
    (path : List Char) :
    Nat :=
  (path.reverse.takeWhile fun symbol => symbol == '/').length

/-- A path is what is left without its slashes at the end, and these slashes. -/
theorem withoutTrailingSlashes_append
    (path : List Char) :
    withoutTrailingSlashes path ++ List.replicate (trailingSlashes path) '/' = path := by
  have slashesOnly :
      path.reverse.takeWhile (fun symbol => symbol == '/') =
        List.replicate (trailingSlashes path) '/' := by
    refine List.eq_replicate_iff.2 ⟨rfl, ?_⟩
    intro symbol member
    simpa using List.mem_takeWhile_imp member
  calc
    withoutTrailingSlashes path ++ List.replicate (trailingSlashes path) '/' =
        (path.reverse.dropWhile fun symbol => symbol == '/').reverse ++
          (path.reverse.takeWhile fun symbol => symbol == '/').reverse := by
      rw [slashesOnly, List.reverse_replicate, withoutTrailingSlashes]
    _ = path := by
      rw [← List.reverse_append, List.takeWhile_append_dropWhile, List.reverse_reverse]

theorem trailingSlashes_eq_zero_iff
    {path : List Char} :
    trailingSlashes path = 0 ↔ path.getLast? ≠ some '/' := by
  rw [trailingSlashes, List.length_eq_zero_iff, List.getLast?_eq_head?_reverse]
  cases path.reverse with
  | nil => simp
  | cons last before => by_cases slash : last = '/' <;> simp [slash]

theorem getLast?_slashes_ne_slash_iff
    {path : List Char} :
    (slashes path).getLast? ≠ some '/' ↔ path.getLast?.any isSeparator = false := by
  rw [slashes_eq_map, List.getLast?_map]
  cases path.getLast? with
  | none => simp
  | some last =>
    rw [Option.map_some, Option.any_some, Ne, Option.some.injEq]
    cases separates : isSeparator last with
    | true => simp [slash_of_separator separates]
    | false =>
      rw [slash_of_not_separator separates]
      simp only [iff_true]
      rintro rfl
      cases separates

theorem withoutTrailingSlashes_eq_nil_iff
    {path : List Char} :
    withoutTrailingSlashes path = [] ↔ ∀ symbol ∈ path, symbol = '/' := by
  rw [withoutTrailingSlashes, List.reverse_eq_nil_iff, List.dropWhile_eq_nil_iff]
  simp only [List.mem_reverse, beq_iff_eq]

/-! ## Final components -/

/-- In front of a separator nothing counts for the final component. -/
theorem lastComponent_append
    {separator : Char}
    (separates : isSeparator separator = true)
    (front back : List Char) :
    lastComponent (front ++ separator :: back) = lastComponent back := by
  have stops :
      (back.reverse ++ separator :: front.reverse).takeWhile (fun symbol => !isSeparator symbol) =
        back.reverse.takeWhile fun symbol => !isSeparator symbol := by
    rw [List.takeWhile_append]
    split
    · next all =>
      have whole := (List.takeWhile_prefix fun symbol => !isSeparator symbol).eq_of_length all
      rw [List.takeWhile_cons_of_neg (by simp [separates]), List.append_nil, whole]
    · rfl
  rw [lastComponent, lastComponent, List.reverse_append, List.reverse_cons, List.append_assoc]
  exact congrArg List.reverse stops

/-- A path is its own final component exactly if it has no separators. -/
theorem lastComponent_eq_slashes_iff
    {path : List Char} :
    lastComponent path = slashes path ↔ path.any isSeparator = false := by
  rw [List.any_eq_false]
  constructor
  · intro same symbol member
    have kept : slash symbol ∈ lastComponent path := by
      rw [same, slashes_eq_map]
      exact List.mem_map_of_mem member
    have plain := List.mem_takeWhile_imp (List.mem_reverse.1 kept)
    simpa [isSeparator_slash] using plain
  · intro plain
    have none : ∀ symbol ∈ path, isSeparator symbol = false := by
      intro symbol member
      simpa using plain symbol member
    rw [slashes_of_plain none, lastComponent, List.takeWhile_eq_self_iff.2, List.reverse_reverse]
    intro symbol member
    simp [none symbol (List.mem_reverse.1 member)]

/-! ## Relative spellings -/

variable {directory path : String}

/-- The root that a project's files are relative to, without its slashes at the end. -/
theorem root_of_liesIn
    (lies : LiesIn directory path) :
    withoutTrailingSlashes (slashes (parent path).toList) =
      withoutTrailingSlashes (slashes directory.toList) := by
  rw [parent_of_liesIn lies]
  split
  · next root =>
    subst root
    rfl
  · rw [normalize, String.toList_ofList, slashes_slashes]

theorem slashes_below
    {separator : Char}
    (separates : isSeparator separator = true)
    (directory rest : String) :
    slashes (directory ++ (String.singleton separator ++ rest)).toList =
      slashes directory.toList ++ '/' :: slashes rest.toList := by
  rw [String.toList_append, String.toList_append, String.toList_singleton, slashes_append,
    slashes_append, slashes_eq_map [separator], List.map_singleton, slash_of_separator separates]
  rfl

/-- Below the root of the file system, a path becomes its final component. -/
theorem relativize_in_root
    {separator : Char}
    (separates : isSeparator separator = true)
    (lies : LiesIn directory path)
    (root : directory.toList.all isSeparator = true)
    (rest : String) :
    relativize (directory ++ (String.singleton separator ++ rest)) (parent path) =
      fileName rest := by
  have nothing : withoutTrailingSlashes (slashes directory.toList) = [] := by
    rw [withoutTrailingSlashes_eq_nil_iff, slashes_eq_map]
    intro symbol member
    rcases List.mem_map.1 member with ⟨old, inside, rfl⟩
    exact slash_of_separator (List.all_eq_true.1 root old inside)
  have rooted : isRooted (slashes directory.toList ++ '/' :: slashes rest.toList) = true := by
    rw [withoutTrailingSlashes_eq_nil_iff] at nothing
    cases spelled : slashes directory.toList with
    | nil => rfl
    | cons first others =>
      rw [nothing first (by rw [spelled]; exact List.mem_cons_self)]
      rfl
  rw [relativize, relativizeChars, root_of_liesIn lies, nothing, slashes_below separates]
  simp only [below?, rooted, if_true]
  rw [lastComponent_append rfl, lastComponent_slashes]
  rfl

/-- Below any other directory, a path keeps the slashes at the end of the directory. -/
theorem relativize_in_directory
    {separator : Char}
    (separates : isSeparator separator = true)
    (lies : LiesIn directory path)
    (notRoot : ¬ directory.toList.all isSeparator = true)
    (rest : String) :
    relativize (directory ++ (String.singleton separator ++ rest)) (parent path) =
      String.ofList (List.replicate (trailingSlashes (slashes directory.toList)) '/') ++
        normalize rest := by
  have some : withoutTrailingSlashes (slashes directory.toList) ≠ [] := by
    rw [Ne, withoutTrailingSlashes_eq_nil_iff, slashes_eq_map]
    intro onlySlashes
    apply notRoot
    rw [List.all_eq_true]
    intro symbol member
    have slashed := onlySlashes _ (List.mem_map_of_mem member)
    rw [← isSeparator_slash, slashed]
    rfl
  have spelled :
      slashes directory.toList ++ '/' :: slashes rest.toList =
        withoutTrailingSlashes (slashes directory.toList) ++
          '/' :: (List.replicate (trailingSlashes (slashes directory.toList)) '/' ++
            slashes rest.toList) := by
    have rejoined := withoutTrailingSlashes_append (slashes directory.toList)
    generalize trailingSlashes (slashes directory.toList) = count at rejoined ⊢
    calc
      slashes directory.toList ++ '/' :: slashes rest.toList =
          withoutTrailingSlashes (slashes directory.toList) ++
            (List.replicate count '/' ++ ['/'] ++ slashes rest.toList) := by
        rw [List.append_assoc, ← List.append_assoc, rejoined]
        rfl
      _ = withoutTrailingSlashes (slashes directory.toList) ++
            '/' :: (List.replicate count '/' ++ slashes rest.toList) := by
        rw [← List.replicate_succ', List.replicate_succ]
        rfl
  rw [relativize, relativizeChars, root_of_liesIn lies, slashes_below separates, spelled,
    below?_append some, normalize, ← String.ofList_append]

/--
A file of a project becomes relative to the project: the path that leads to it
from the directory of the project, behind one separator, is spelled as what
stands behind the separator.  This holds exactly if that directory does not end
in a separator, or, for a project in the root of the file system, if nothing but
a name stands behind the separator.  In the root, the final component is all
that is ever left; elsewhere, the slashes that the directory ends in are kept.
-/
theorem relativize_beside_iff
    {path : String}
    {separator : Char}
    (absolute : isAbsolute path = true)
    (separates : isSeparator separator = true)
    (rest : String) :
    LiesIn (enclosing path) path ∧
      relativize (beside path separator rest) (parent path) =
        (if (enclosing path).toList.all isSeparator then
          fileName rest
        else
          String.ofList (List.replicate (trailingSlashes (slashes (enclosing path).toList)) '/') ++
            normalize rest) ∧
      (relativize (beside path separator rest) (parent path) = normalize rest ↔
        if (enclosing path).toList.all isSeparator then
          rest.toList.any isSeparator = false
        else
          (enclosing path).toList.getLast?.any isSeparator = false) := by
  have lies := liesIn_enclosing absolute
  refine ⟨lies, ?_, ?_⟩
  · split
    · next root => exact relativize_in_root separates lies root rest
    · next notRoot => exact relativize_in_directory separates lies notRoot rest
  · split
    · next root =>
      rw [beside, relativize_in_root separates lies root rest, fileName, normalize,
        String.ofList_inj, lastComponent_eq_slashes_iff]
    · next notRoot =>
      rw [beside, relativize_in_directory separates lies notRoot rest, normalize,
        ← String.ofList_append, String.ofList_inj, List.append_left_eq_self,
        List.replicate_eq_nil_iff, trailingSlashes_eq_zero_iff, getLast?_slashes_ne_slash_iff]

/-- A file beside a project that has a directory of its own, under the other convention. -/
theorem project_on_drive_keeps_directories :
    isAbsolute "C:\\build\\app.csproj" = true ∧ isSeparator '\\' = true ∧
      beside "C:\\build\\app.csproj" '\\' "src/a.cs" = "C:\\build\\src/a.cs" ∧
      relativize (beside "C:\\build\\app.csproj" '\\' "src/a.cs")
        (parent "C:\\build\\app.csproj") = "src/a.cs" := by
  have absolute : isAbsolute "C:\\build\\app.csproj" = true := by decide +kernel
  have separates : isSeparator '\\' = true := rfl
  have openEnd : (enclosing "C:\\build\\app.csproj").toList.getLast?.any isSeparator = false := by
    decide +kernel
  rcases relativize_beside_iff absolute separates "src/a.cs" with ⟨-, -, below⟩
  rw [if_neg (by decide +kernel)] at below
  refine ⟨absolute, separates, by decide +kernel, (below.2 openEnd).trans ?_⟩
  decide +kernel

/--
A file below a project in the root of the file system: its path is not spelled
as what stands behind the separator, but loses its directories.
-/
theorem project_in_root_loses_directories :
    isAbsolute "/app.csproj" = true ∧ isSeparator '/' = true ∧ "src/a.cs" ≠ "" ∧
      "src/a.cs".toList.head?.any isSeparator = false ∧
      beside "/app.csproj" '/' "src/a.cs" = "/src/a.cs" ∧ parent "/app.csproj" = "/" ∧
      relativize (beside "/app.csproj" '/' "src/a.cs") (parent "/app.csproj") = "a.cs" ∧
      relativize (beside "/app.csproj" '/' "src/a.cs") (parent "/app.csproj") ≠
        normalize "src/a.cs" := by
  decide +kernel

example : relativize (beside "/a//app.csproj" '/' "b") (parent "/a//app.csproj") = "/b" := by
  decide +kernel

end BuildCapture.SourcePath
