import BuildCapture.Proofs.SourcePath.Remainder

/-!
# Words of free text

A free text falls into words at blanks, commas and semicolons.  Words that are
absolute paths are spelled relative to a root, and the words are joined by commas.
The joined text tells the words apart, since none of them has a comma in it.

A path below a directory starts with one word that leads through the directory,
but only if nothing in the name of the directory ends a word.  Otherwise the
directory is spread over several words, none of which lies below it.
-/

namespace BuildCapture

/-! ## Pieces -/

namespace Text

variable {separates : Char → Bool}

theorem pieces_eq_splitOnP
    (text : List Char) :
    pieces separates text = text.splitOnP separates := by
  induction text with
  | nil => rfl
  | cons symbol rest ih =>
    rw [pieces, List.splitOnP_cons_eq_if_modifyHead, ih]
    split
    · rfl
    · cases split : rest.splitOnP separates with
      | nil => exact absurd split (List.splitOnP_ne_nil separates rest)
      | cons first others => rfl

/-- No piece has a separator in it. -/
theorem not_separates_of_mem_pieces
    {text piece : List Char}
    (member : piece ∈ pieces separates text) :
    ∀ symbol ∈ piece, separates symbol = false := by
  induction text generalizing piece with
  | nil =>
    cases List.mem_singleton.1 member
    exact fun symbol inside => absurd inside List.not_mem_nil
  | cons first rest ih =>
    rw [pieces] at member
    split at member
    · rcases List.mem_cons.1 member with rfl | later
      · exact fun symbol inside => absurd inside List.not_mem_nil
      · exact ih later
    next notFirst =>
    have plain : separates first = false := Bool.eq_false_iff.2 notFirst
    cases split : pieces separates rest with
    | nil =>
      rw [split] at member
      cases List.mem_singleton.1 member
      simpa using plain
    | cons head others =>
      rw [split] at member ih
      rcases List.mem_cons.1 member with rfl | later
      · simpa [plain] using ih List.mem_cons_self
      · exact ih (List.mem_cons_of_mem head later)

/-- The first piece goes up to the first separator. -/
theorem pieces_eq_cons
    (text : List Char) :
    pieces separates text =
      text.takeWhile (fun symbol => !separates symbol) :: (pieces separates text).tail := by
  induction text with
  | nil => rfl
  | cons symbol rest ih =>
    rw [pieces]
    split
    · next ends => simp [ends]
    · next plain =>
      rw [ih]
      simp [plain]

/-- The last piece of a text goes on in what is appended. -/
theorem pieces_append
    (separates : Char → Bool)
    (left right : List Char) :
    ∃ front last, pieces separates left = front ++ [last] ∧
      pieces separates (left ++ right) =
        front ++ (pieces separates right).modifyHead (last ++ ·) := by
  induction left with
  | nil =>
    refine ⟨[], [], rfl, ?_⟩
    rw [List.nil_append, List.nil_append, pieces_eq_cons right]
    rfl
  | cons symbol rest ih =>
    rcases ih with ⟨front, last, alone, appended⟩
    rw [List.cons_append, pieces, pieces, alone, appended]
    split
    · exact ⟨[] :: front, last, rfl, rfl⟩
    · cases front with
      | nil =>
        refine ⟨[], symbol :: last, rfl, ?_⟩
        rw [List.nil_append, List.nil_append, pieces_eq_cons right]
        rfl
      | cons first others => exact ⟨(symbol :: first) :: others, last, rfl, rfl⟩

end Text

namespace SourcePath

/-! ## Words -/

/-- Nothing in a text ends a word. -/
def IsUnbroken (text : List Char) : Prop :=
  ∀ symbol ∈ text, endsWord symbol = false

instance (text : List Char) : Decidable (IsUnbroken text) :=
  List.decidableBAll _ text

/-- The words of a text, in order. -/
def words (text : List Char) : List (List Char) :=
  (Text.pieces endsWord text).filter fun word => !word.isEmpty

/-- What a text starts with up to the first end of a word, be it empty. -/
def opening (text : List Char) : List Char :=
  text.takeWhile fun symbol => !endsWord symbol

/-- The words of a text behind its opening. -/
def laterWords (text : List Char) : List (List Char) :=
  (Text.pieces endsWord text).tail.filter fun word => !word.isEmpty

theorem pieces_eq_opening
    (text : List Char) :
    Text.pieces endsWord text = opening text :: (Text.pieces endsWord text).tail :=
  Text.pieces_eq_cons text

theorem isUnbroken_of_mem_words
    {text word : List Char}
    (member : word ∈ words text) :
    IsUnbroken word :=
  Text.not_separates_of_mem_pieces (List.mem_filter.1 member).1

theorem endsWord_of_separator
    {symbol : Char}
    (separates : isSeparator symbol = true) :
    endsWord symbol = false := by
  rw [isSeparator, Bool.or_eq_true, beq_iff_eq, beq_iff_eq] at separates
  rcases separates with rfl | rfl <;> decide

theorem endsWord_slash
    (symbol : Char) :
    endsWord (slash symbol) = endsWord symbol := by
  cases separates : isSeparator symbol with
  | true =>
    rw [slash_of_separator separates, endsWord_of_separator separates]
    decide
  | false => rw [slash_of_not_separator separates]

/-- Whether a text is unbroken does not depend on its separators. -/
theorem isUnbroken_slashes_iff
    {text : List Char} :
    IsUnbroken (slashes text) ↔ IsUnbroken text := by
  simp only [IsUnbroken, slashes_eq_map, List.forall_mem_map, endsWord_slash]

/-- A separator behind a text starts no new word. -/
theorem words_append_separator
    {separator : Char}
    (separates : isSeparator separator = true)
    (front back : List Char) :
    ∃ early last, Text.pieces endsWord front = early ++ [last] ∧
      words (front ++ separator :: back) =
        early.filter (fun word => !word.isEmpty) ++
          (last ++ separator :: opening back) :: laterWords back := by
  have behind :
      Text.pieces endsWord (separator :: back) =
        (separator :: opening back) :: (Text.pieces endsWord back).tail := by
    rw [Text.pieces, endsWord_of_separator separates, pieces_eq_opening back]
    rfl
  rcases Text.pieces_append endsWord front (separator :: back) with
    ⟨early, last, alone, appended⟩
  refine ⟨early, last, alone, ?_⟩
  rw [words, appended, behind, List.modifyHead_cons, List.filter_append, List.filter_cons_of_pos]
  · rfl
  · simp

/-- A path below an unbroken directory starts with one word that leads through the directory. -/
theorem IsUnbroken.words_append_separator
    {separator : Char}
    (separates : isSeparator separator = true)
    {front : List Char}
    (unbroken : IsUnbroken front)
    (back : List Char) :
    words (front ++ separator :: back) =
      (front ++ separator :: opening back) :: laterWords back := by
  rcases SourcePath.words_append_separator separates front back with ⟨early, last, alone, split⟩
  rw [Text.pieces_eq_splitOnP, List.splitOnP_eq_singleton unbroken] at alone
  rcases List.append_eq_singleton_iff.1 alone.symm with ⟨rfl, same⟩ | ⟨-, none⟩
  · cases same
    exact split
  · cases none

/-- A text that is not unbroken has a first character that ends a word. -/
theorem exists_end_of_not_isUnbroken
    {text : List Char}
    (broken : ¬ IsUnbroken text) :
    ∃ front symbol back, text = front ++ symbol :: back ∧ IsUnbroken front ∧
      endsWord symbol = true := by
  induction text with
  | nil => exact absurd (fun symbol member => absurd member List.not_mem_nil) broken
  | cons first rest ih =>
    by_cases ends : endsWord first = true
    · exact ⟨[], first, rest, rfl, fun symbol member => absurd member List.not_mem_nil, ends⟩
    have plain : endsWord first = false := Bool.eq_false_iff.2 ends
    have brokenRest : ¬ IsUnbroken rest := by
      intro unbroken
      apply broken
      exact List.forall_mem_cons.2 ⟨plain, unbroken⟩
    rcases ih brokenRest with ⟨front, symbol, back, rfl, unbroken, endsThere⟩
    exact ⟨first :: front, symbol, back, rfl, List.forall_mem_cons.2 ⟨plain, unbroken⟩, endsThere⟩

theorem endsWord_of_isAlpha
    {symbol : Char}
    (letter : symbol.isAlpha = true) :
    endsWord symbol = false := by
  have range : 65 ≤ symbol.toNat ∧ symbol.toNat ≤ 122 := by
    rcases Bool.or_eq_true_iff.1 letter with upper | lower
    · have between : 65 ≤ symbol.val ∧ symbol.val ≤ 90 := of_decide_eq_true upper
      exact ⟨UInt32.le_iff_toNat_le.1 between.1,
        Nat.le_trans (UInt32.le_iff_toNat_le.1 between.2) (by decide)⟩
    · rcases Bool.and_eq_true_iff.1 lower with ⟨above, below⟩
      have low : 97 ≤ symbol.val := of_decide_eq_true above
      have high : symbol.val ≤ 122 := of_decide_eq_true below
      exact ⟨Nat.le_trans (by decide) (UInt32.le_iff_toNat_le.1 low),
        UInt32.le_iff_toNat_le.1 high⟩
  have noBlank : Text.isBlank symbol = false := by
    simp only [Text.isBlank, Text.blankRanges, List.any_cons, List.any_nil, Bool.or_eq_false_iff,
      Bool.and_eq_false_iff, decide_eq_false_iff_not, and_true]
    omega
  have noMark : symbol ≠ ',' ∧ symbol ≠ ';' := by
    constructor <;>
    · rintro rfl
      revert range
      decide
  simp [endsWord, noBlank, noMark]

/-- An absolute path does not start with the end of a word. -/
theorem endsWord_of_isRooted
    {symbol : Char}
    {rest : List Char}
    (rooted : isRooted (symbol :: rest) = true) :
    endsWord symbol = false := by
  rcases isRooted_iff.1 rooted with
    ⟨first, others, same, separates⟩ | ⟨drive, separator, others, same, letter, -⟩
  · cases same
    exact endsWord_of_separator separates
  · cases same
    exact endsWord_of_isAlpha letter

/-- What leads through a directory that is not unbroken takes at least two words. -/
theorem length_words_append_separator
    {separator : Char}
    (separates : isSeparator separator = true)
    {front : List Char}
    (rooted : isRooted front = true)
    (broken : ¬ IsUnbroken front)
    (back : List Char) :
    (laterWords back).length + 1 < (words (front ++ separator :: back)).length := by
  rcases exists_end_of_not_isUnbroken broken with ⟨first, symbol, rest, rfl, unbroken, ends⟩
  have notEmpty : first ≠ [] := by
    rintro rfl
    rw [endsWord_of_isRooted rooted] at ends
    cases ends
  rcases words_append_separator separates (first ++ symbol :: rest) back with
    ⟨early, last, alone, split⟩
  have cut : Text.pieces endsWord (first ++ symbol :: rest) =
      first :: Text.pieces endsWord rest := by
    rw [Text.pieces_eq_splitOnP, Text.pieces_eq_splitOnP]
    exact List.splitOnP_append_cons_of_forall_mem unbroken symbol ends rest
  rw [cut] at alone
  have inside : first ∈ early.filter fun word => !word.isEmpty := by
    cases early with
    | nil =>
      rw [List.nil_append, List.cons.injEq, Text.pieces_eq_splitOnP] at alone
      exact absurd alone.2 (List.splitOnP_ne_nil endsWord rest)
    | cons head others =>
      rw [List.cons_append, List.cons.injEq] at alone
      rw [← alone.1]
      exact List.mem_filter.2 ⟨List.mem_cons_self, by simpa using notEmpty⟩
  have positive := List.length_pos_of_mem inside
  rw [split, List.length_append, List.length_cons]
  omega

/-! ## Spelling words -/

/-- What is made of a word is one word. -/
theorem IsUnbroken.canonicalWord
    {word : List Char}
    (unbroken : IsUnbroken word)
    (root : List Char) :
    IsUnbroken (SourcePath.canonicalWord root word) := by
  have spelled : IsUnbroken (slashes word) := isUnbroken_slashes_iff.2 unbroken
  rw [SourcePath.canonicalWord]
  split
  · intro symbol member
    rcases mem_relativizeChars member with inside | rfl
    · exact spelled symbol inside
    · decide
  · exact spelled

/-- No word lies below a root whose name is not one word. -/
theorem canonicalWord_of_not_isUnbroken
    {root : List Char}
    (broken : ¬ IsUnbroken root)
    {word : List Char}
    (unbroken : IsUnbroken word) :
    canonicalWord root word = canonicalWord [] word := by
  have nowhere : below? (withoutTrailingSlashes (slashes root)) (slashes word) = none := by
    rw [Option.eq_none_iff_forall_ne_some]
    intro relative found
    apply broken
    rw [← isUnbroken_slashes_iff, ← withoutTrailingSlashes_append (slashes root)]
    have spelled := isUnbroken_slashes_iff.2 unbroken
    have front : IsUnbroken (withoutTrailingSlashes (slashes root)) := by
      rcases (below?_eq_some_iff.1 found).2 with ⟨same, -⟩ | below
      · rw [← same]
        exact spelled
      · rw [below] at spelled
        exact fun symbol member => spelled symbol (List.mem_append_left _ member)
    intro symbol member
    rcases List.mem_append.1 member with early | slash
    · exact front symbol early
    · rw [List.eq_of_mem_replicate slash]
      decide
  rw [canonicalWord, canonicalWord, relativizeChars, relativizeChars]
  simp only [nowhere]
  rfl

/-- The separators of a root do not count. -/
theorem canonicalWord_slashes
    (root word : List Char) :
    canonicalWord (slashes root) word = canonicalWord root word := by
  rw [canonicalWord, canonicalWord, relativizeChars, relativizeChars, slashes_slashes]

/-! ## Spelling texts -/

theorem canonicalText_eq
    {text : String}
    (separated : text.toList.any isSeparator = true)
    (root : String) :
    canonicalText text root =
      String.ofList
        ([','].intercalate ((words text.toList).map (canonicalWord root.toList))) := by
  rw [canonicalText, if_pos separated]
  rfl

/-- Equal texts are made of equal words. -/
theorem canonicalText_eq_iff
    {text other root otherRoot : String}
    (separated : text.toList.any isSeparator = true)
    (otherSeparated : other.toList.any isSeparator = true)
    (some : words text.toList ≠ [])
    (otherSome : words other.toList ≠ []) :
    canonicalText text root = canonicalText other otherRoot ↔
      (words text.toList).map (canonicalWord root.toList) =
        (words other.toList).map (canonicalWord otherRoot.toList) := by
  have noComma :
      ∀ (text root : List Char), ∀ word ∈ (words text).map (canonicalWord root), ',' ∉ word := by
    intro text root word member comma
    rcases List.mem_map.1 member with ⟨plain, inside, rfl⟩
    have unbroken := (isUnbroken_of_mem_words inside).canonicalWord root
    have ends : endsWord ',' = true := by decide
    rw [unbroken _ comma] at ends
    cases ends
  rw [canonicalText_eq separated, canonicalText_eq otherSeparated, String.ofList_inj]
  constructor
  · intro same
    have cut := congrArg (List.splitOn ',') same
    rwa [List.splitOn_intercalate ',' (noComma _ _) (by simpa using some),
      List.splitOn_intercalate ',' (noComma _ _) (by simpa using otherSome)] at cut
  · exact fun same => congrArg [','].intercalate same

/-- A root whose name is not one word is no root at all. -/
theorem canonicalText_of_not_isUnbroken
    {root : String}
    (broken : ¬ IsUnbroken root.toList)
    (text : String) :
    canonicalText text root = canonicalText text "" := by
  by_cases separated : text.toList.any isSeparator = true
  · rw [canonicalText_eq separated, canonicalText_eq separated]
    have same :
        (words text.toList).map (canonicalWord root.toList) =
          (words text.toList).map (canonicalWord []) := by
      apply List.map_congr_left
      intro word member
      exact canonicalWord_of_not_isUnbroken broken (isUnbroken_of_mem_words member)
    rw [same]
    rfl
  · rw [canonicalText, canonicalText, if_neg separated, if_neg separated]

theorem canonicalText_normalize
    (text root : String) :
    canonicalText text (normalize root) = canonicalText text root := by
  have same : canonicalWord (normalize root).toList = canonicalWord root.toList := by
    funext word
    rw [normalize, String.toList_ofList, canonicalWord_slashes]
  rw [canonicalText, canonicalText, same]

/-! ## Paths below a directory -/

/-- The path of something below a directory. -/
def inside
    (directory : String)
    (separator : Char)
    (suffix : String) :
    String :=
  directory ++ (String.singleton separator ++ suffix)

section Inside

variable
  {directory : String}
  {separator : Char}
  (separates : isSeparator separator = true)

theorem toList_inside
    (directory : String)
    (separator : Char)
    (suffix : String) :
    (inside directory separator suffix).toList =
      directory.toList ++ separator :: suffix.toList := by
  rw [inside, String.toList_append, String.toList_append, String.toList_singleton]
  rfl

include separates

theorem any_isSeparator_inside
    (suffix : String) :
    (inside directory separator suffix).toList.any isSeparator = true := by
  rw [toList_inside]
  simp [separates]

theorem words_inside_ne_nil
    (suffix : String) :
    words (inside directory separator suffix).toList ≠ [] := by
  rcases words_append_separator separates directory.toList suffix.toList with ⟨_, _, -, split⟩
  rw [toList_inside, split]
  simp

/-- The word that leads through a directory is spelled as what stands behind the directory. -/
theorem IsDirectory.canonicalWord_append
    (isDirectory : IsDirectory directory)
    (rest : List Char) :
    canonicalWord directory.toList (directory.toList ++ separator :: rest) =
      SourcePath.slashes rest := by
  have rooted : isRooted (directory.toList ++ separator :: rest) = true :=
    isRooted_append isDirectory.absolute _
  have spelled :
      SourcePath.slashes (directory.toList ++ separator :: rest) =
        SourcePath.slashes directory.toList ++ '/' :: SourcePath.slashes rest := by
    rw [slashes_append, slashes_eq_map (separator :: rest), List.map_cons,
      slash_of_separator separates]
    rfl
  rw [canonicalWord, if_pos rooted, relativizeChars, isDirectory.slashes.2, spelled,
    below?_append isDirectory.slashes.1]

/-- The words of a path below an unbroken directory, as they are spelled. -/
theorem IsDirectory.map_words_inside
    (isDirectory : IsDirectory directory)
    (unbroken : IsUnbroken directory.toList)
    (suffix : String) :
    (words (inside directory separator suffix).toList).map (canonicalWord directory.toList) =
      SourcePath.slashes (opening suffix.toList) ::
        (laterWords suffix.toList).map (canonicalWord directory.toList) := by
  rw [toList_inside, unbroken.words_append_separator separates, List.map_cons,
    isDirectory.canonicalWord_append separates]

/-- A path below an unbroken directory is spelled as the words of what stands behind it. -/
theorem IsDirectory.canonicalText_inside
    (isDirectory : IsDirectory directory)
    (unbroken : IsUnbroken directory.toList)
    (suffix : String) :
    canonicalText (inside directory separator suffix) directory =
      String.ofList
        ([','].intercalate
          (SourcePath.slashes (opening suffix.toList) ::
            (laterWords suffix.toList).map (canonicalWord directory.toList))) := by
  rw [canonicalText_eq (any_isSeparator_inside separates suffix),
    isDirectory.map_words_inside separates unbroken]

end Inside

end SourcePath

end BuildCapture
