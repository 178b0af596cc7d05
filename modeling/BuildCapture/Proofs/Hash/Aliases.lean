import BuildCapture.Proofs.Hash.Relocation
import BuildCapture.Proofs.SourcePath.Words

/-!
# Aliases that hold paths

A reference alias enters the identity view with its absolute paths relative to
the project.  A path below the project is spelled alike on two machines as long
as nothing in the name of either project directory ends a word: a blank, a comma
or a semicolon there spreads the directory over several words of the alias, and
most of it stays in the view.
-/

namespace BuildCapture

namespace SourcePath

/-! ## Two directories -/

/-- Two roots leave the same of every word behind the opening of a text. -/
def TailsAgree (here there suffix : String) : Prop :=
  ∀ word ∈ laterWords suffix.toList,
    canonicalWord here.toList word = canonicalWord there.toList word

/-- Words that are no absolute paths do not depend on the root. -/
theorem tailsAgree_of_relative
    {suffix : String}
    (relative : ∀ word ∈ laterWords suffix.toList, isRooted word = false)
    (here there : String) :
    TailsAgree here there suffix := by
  intro word member
  rw [canonicalWord, canonicalWord, relative word member]
  rfl

variable
  {here there : String}
  {separator otherSeparator : Char}

/-- Below two unbroken directories, texts are spelled alike exactly if their later words are. -/
theorem canonicalText_inside_eq_iff
    (separates : isSeparator separator = true)
    (otherSeparates : isSeparator otherSeparator = true)
    (isHere : IsDirectory here)
    (isThere : IsDirectory there)
    (unbroken : IsUnbroken here.toList)
    (otherUnbroken : IsUnbroken there.toList)
    (suffix : String) :
    canonicalText (inside here separator suffix) here =
        canonicalText (inside there otherSeparator suffix) there ↔
      TailsAgree here there suffix := by
  rw [canonicalText_eq_iff (any_isSeparator_inside separates suffix)
      (any_isSeparator_inside otherSeparates suffix) (words_inside_ne_nil separates suffix)
      (words_inside_ne_nil otherSeparates suffix),
    isHere.map_words_inside separates unbroken,
    isThere.map_words_inside otherSeparates otherUnbroken, List.cons.injEq, List.map_inj_left,
    TailsAgree]
  exact and_iff_right rfl

/-- A directory that is spread over several words is not spelled like an unbroken one. -/
theorem canonicalText_inside_ne
    (separates : isSeparator separator = true)
    (otherSeparates : isSeparator otherSeparator = true)
    (isHere : IsDirectory here)
    (isThere : IsDirectory there)
    (unbroken : IsUnbroken here.toList)
    (broken : ¬ IsUnbroken there.toList)
    (suffix : String) :
    canonicalText (inside here separator suffix) here ≠
      canonicalText (inside there otherSeparator suffix) there := by
  rw [Ne, canonicalText_eq_iff (any_isSeparator_inside separates suffix)
      (any_isSeparator_inside otherSeparates suffix) (words_inside_ne_nil separates suffix)
      (words_inside_ne_nil otherSeparates suffix),
    isHere.map_words_inside separates unbroken]
  intro same
  have more := length_words_append_separator otherSeparates isThere.absolute broken suffix.toList
  have lengths := congrArg List.length same
  rw [List.length_cons, List.length_map, List.length_map, toList_inside] at lengths
  omega

end SourcePath

/-! ## Relocated aliases -/

open SourcePath

/-- One alias as two machines spell it, with the project in two directories. -/
inductive AliasCorresponds (here there : String) : (left right : String) → Prop
  /-- The alias has no path in it. -/
  | plain {name : String}
      (noSeparator : name.toList.any isSeparator = false) :
      AliasCorresponds here there name name
  /-- The alias holds the path of something below the project. -/
  | below {separator otherSeparator : Char} {suffix : String}
      (separates : isSeparator separator = true)
      (otherSeparates : isSeparator otherSeparator = true)
      (agree : TailsAgree here there suffix) :
      AliasCorresponds here there (inside here separator suffix)
        (inside there otherSeparator suffix)

variable {here there : String}

/-- Corresponding aliases have one spelling below unbroken directories. -/
theorem AliasCorresponds.canonicalText_eq
    (isHere : IsDirectory here)
    (isThere : IsDirectory there)
    (unbroken : IsUnbroken here.toList)
    (otherUnbroken : IsUnbroken there.toList)
    {left right : String}
    (corresponds : AliasCorresponds here there left right) :
    canonicalText left (normalize here) = canonicalText right (normalize there) := by
  rw [canonicalText_normalize, canonicalText_normalize]
  cases corresponds with
  | plain noSeparator => rw [canonicalText, canonicalText, noSeparator]; rfl
  | below separates otherSeparates agree =>
    exact (canonicalText_inside_eq_iff separates otherSeparates isHere isThere unbroken
      otherUnbroken _).2 agree

/-- A record with the same aliases for each of its references. -/
def InvocationRecord.withAliases
    (record : InvocationRecord)
    (aliases : List String) :
    InvocationRecord :=
  { record with references := record.references.map fun entry => { entry with aliases } }

/-- The references of two records have corresponding aliases. -/
def AliasesCorrespond (here there : String) (left right : InvocationRecord) : Prop :=
  List.Forall₂
    (fun entry other : ReferenceEntry =>
      List.Forall₂ (AliasCorresponds here there) entry.aliases other.aliases)
    left.references right.references

variable {left right : InvocationRecord}

/-- Entries that agree apart from corresponding names are alike once the names are arranged. -/
theorem map_references_eq
    {names : ReferenceEntry → ReferenceEntry → Prop}
    {root otherRoot : String}
    (arranged :
      ∀ entry other, names entry other →
        IdentityView.arrangeAliases root entry.aliases =
          IdentityView.arrangeAliases otherRoot other.aliases)
    {entries others : List ReferenceEntry}
    (kept :
      entries.map (fun entry => (entry.module, entry.kind, entry.embedInteropTypes)) =
        others.map fun entry => (entry.module, entry.kind, entry.embedInteropTypes))
    (pairwise : List.Forall₂ names entries others) :
    entries.map
        (fun entry => (entry.module, entry.kind, entry.embedInteropTypes,
          IdentityView.arrangeAliases root entry.aliases)) =
      others.map
        fun entry => (entry.module, entry.kind, entry.embedInteropTypes,
          IdentityView.arrangeAliases otherRoot entry.aliases) := by
  induction pairwise with
  | nil => exact rfl
  | cons first _ ih =>
    simp only [List.map_cons, List.cons.injEq, Prod.mk.injEq] at kept ⊢
    exact ⟨⟨kept.1.1, kept.1.2.1, kept.1.2.2, arranged _ _ first⟩, ih kept.2⟩

/-- References that agree apart from corresponding aliases are viewed alike. -/
theorem Relocated.view_references_eq
    (isHere : IsDirectory here)
    (isThere : IsDirectory there)
    (unbroken : IsUnbroken here.toList)
    (otherUnbroken : IsUnbroken there.toList)
    (relocated : Relocated here there (left.withAliases []) (right.withAliases []))
    (aliases : AliasesCorrespond here there left right) :
    (IdentityView.ofRecord left).references = (IdentityView.ofRecord right).references := by
  have arranged :
      ∀ entry other : ReferenceEntry,
        List.Forall₂ (AliasCorresponds here there) entry.aliases other.aliases →
          IdentityView.arrangeAliases (normalize here) entry.aliases =
            IdentityView.arrangeAliases (normalize there) other.aliases := by
    intro entry other pairwise
    have same :
        (entry.aliases.map fun name => canonicalText name (normalize here)) =
          other.aliases.map fun name => canonicalText name (normalize there) :=
      map_eq_of_forall₂
        (fun _ _ corresponds =>
          corresponds.canonicalText_eq isHere isThere unbroken otherUnbroken)
        pairwise
    rw [IdentityView.arrangeAliases, IdentityView.arrangeAliases, same]
  have kept := relocated.references
  simp only [InvocationRecord.withAliases, List.map_map, Function.comp_def] at kept
  have fields :
      left.references.map (fun entry => (entry.module, entry.kind, entry.embedInteropTypes)) =
        right.references.map fun entry => (entry.module, entry.kind, entry.embedInteropTypes) := by
    have cut := congrArg
      (List.map fun reference : ModuleId × ReferenceKind × Bool × List String =>
        (reference.1, reference.2.1, reference.2.2.1)) kept
    rwa [List.map_map, List.map_map] at cut
  have leftRoot : parent left.projectPath = normalize here :=
    isHere.parent_eq relocated.leftProject
  have rightRoot : parent right.projectPath = normalize there :=
    isThere.parent_eq relocated.rightProject
  rw [IdentityView.ofRecord, IdentityView.ofRecord, leftRoot, rightRoot]
  exact map_references_eq arranged fields aliases

/-- Records that are relocated apart from corresponding aliases have one identity. -/
theorem Relocated.identityHash_eq
    (isHere : IsDirectory here)
    (isThere : IsDirectory there)
    (unbroken : IsUnbroken here.toList)
    (otherUnbroken : IsUnbroken there.toList)
    (relocated : Relocated here there (left.withAliases []) (right.withAliases []))
    (aliases : AliasesCorrespond here there left right) :
    left.identityHash = right.identityHash := by
  have references :=
    relocated.view_references_eq isHere isThere unbroken otherUnbroken aliases
  have rest := relocated.view_eq isHere isThere
  have same : IdentityView.ofRecord left = IdentityView.ofRecord right := by
    calc
      IdentityView.ofRecord left =
          { IdentityView.ofRecord (left.withAliases []) with
            references := (IdentityView.ofRecord left).references } := rfl
      _ = { IdentityView.ofRecord (right.withAliases []) with
            references := (IdentityView.ofRecord right).references } := by rw [rest, references]
      _ = IdentityView.ofRecord right := rfl
  rw [InvocationRecord.identityHash, InvocationRecord.identityHash, same]

/--
Aliases below two project directories are spelled alike exactly if the name of
neither directory has the end of a word in it and the words behind the opening
of the suffix do not depend on the directory.  Where both names have one, the
directories are not stripped at all, and where one of them has, the two texts
differ.  Below an unbroken directory nothing of it is left; records that are
relocated from one such directory to another, with their aliases, have one
identity hash.
-/
theorem aliases_below_projects_agree_iff
    {separator otherSeparator : Char}
    (isHere : IsDirectory here)
    (isThere : IsDirectory there)
    (separates : isSeparator separator = true)
    (otherSeparates : isSeparator otherSeparator = true) :
    (∀ suffix,
      canonicalText (inside here separator suffix) here =
          canonicalText (inside there otherSeparator suffix) there ↔
        if IsUnbroken here.toList ∧ IsUnbroken there.toList then
          TailsAgree here there suffix
        else
          ¬ IsUnbroken here.toList ∧ ¬ IsUnbroken there.toList ∧
            canonicalText (inside here separator suffix) "" =
              canonicalText (inside there otherSeparator suffix) "") ∧
      (IsUnbroken here.toList →
        ∀ suffix,
          canonicalText (inside here separator suffix) here =
            String.ofList
              ([','].intercalate
                (slashes (opening suffix.toList) ::
                  (laterWords suffix.toList).map (canonicalWord here.toList)))) ∧
      (IsUnbroken here.toList → IsUnbroken there.toList →
        ∀ left right : InvocationRecord,
          Relocated here there (left.withAliases []) (right.withAliases []) →
          AliasesCorrespond here there left right →
            left.identityHash = right.identityHash) := by
  refine ⟨?_, ?_, ?_⟩
  · intro suffix
    by_cases unbroken : IsUnbroken here.toList <;>
      by_cases otherUnbroken : IsUnbroken there.toList
    · rw [if_pos ⟨unbroken, otherUnbroken⟩]
      exact canonicalText_inside_eq_iff separates otherSeparates isHere isThere unbroken
        otherUnbroken suffix
    · rw [if_neg fun both => otherUnbroken both.2]
      refine iff_of_false ?_ fun neither => neither.1 unbroken
      exact canonicalText_inside_ne separates otherSeparates isHere isThere unbroken
        otherUnbroken suffix
    · rw [if_neg fun both => unbroken both.1]
      refine iff_of_false ?_ fun neither => neither.2.1 otherUnbroken
      exact (canonicalText_inside_ne otherSeparates separates isThere isHere otherUnbroken
        unbroken suffix).symm
    · rw [if_neg fun both => unbroken both.1, canonicalText_of_not_isUnbroken unbroken,
        canonicalText_of_not_isUnbroken otherUnbroken]
      simp only [unbroken, otherUnbroken, not_false_eq_true, true_and]
  · intro unbroken suffix
    exact isHere.canonicalText_inside separates unbroken suffix
  · intro unbroken otherUnbroken left right relocated aliases
    exact relocated.identityHash_eq isHere isThere unbroken otherUnbroken aliases

/-- On two machines, an alias leads to a library in a folder with a blank in its name. -/
theorem TwoMachines.identityHash_with_path_in_alias :
    IsDirectory "/u/app" ∧ IsDirectory "D:\\w" ∧
      canonicalText (inside "/u/app" '/' "obj/My Lib/core.dll") "/u/app" =
        "obj/My,Lib/core.dll" ∧
      canonicalText (inside "D:\\w" '\\' "obj/My Lib/core.dll") "D:\\w" =
        "obj/My,Lib/core.dll" ∧
      (home.withAliases ["/u/app/obj/My Lib/core.dll"]).identityHash =
        (drive.withAliases ["D:\\w\\obj/My Lib/core.dll"]).identityHash := by
  have isHere : IsDirectory "/u/app" := ⟨by decide, by decide⟩
  have isThere : IsDirectory "D:\\w" := ⟨by decide, by decide⟩
  have unbroken : IsUnbroken "/u/app".toList := by decide
  have otherUnbroken : IsUnbroken "D:\\w".toList := by decide
  have relative :
      ∀ word ∈ laterWords "obj/My Lib/core.dll".toList, isRooted word = false := by
    decide +kernel
  have tails := tailsAgree_of_relative relative "/u/app" "D:\\w"
  have separates : isSeparator '/' = true := rfl
  have otherSeparates : isSeparator '\\' = true := rfl
  rcases aliases_below_projects_agree_iff isHere isThere separates otherSeparates with
    ⟨agree, spelled, hashed⟩
  have spelledHere :
      canonicalText (inside "/u/app" '/' "obj/My Lib/core.dll") "/u/app" =
        "obj/My,Lib/core.dll" := by
    rw [spelled unbroken]
    decide +kernel
  have same := agree "obj/My Lib/core.dll"
  rw [if_pos ⟨unbroken, otherUnbroken⟩] at same
  refine ⟨isHere, isThere, spelledHere, (same.2 tails).symm.trans spelledHere, ?_⟩
  apply hashed unbroken otherUnbroken
  · exact { relocated with references := rfl, plainAliases := by decide }
  · exact .cons (.cons (.below separates otherSeparates tails) .nil) .nil

/-- A blank in the name of one project directory leaves a part of the directory in the alias. -/
theorem blank_in_project_stays_in_alias :
    IsDirectory "/home/ann b" ∧ IsDirectory "/r" ∧
      canonicalText (inside "/home/ann b" '/' "x.dll") "/home/ann b" = "ann,b/x.dll" ∧
      canonicalText (inside "/r" '/' "x.dll") "/r" = "x.dll" ∧
      canonicalText (inside "/home/ann b" '/' "x.dll") "/home/ann b" ≠
        canonicalText (inside "/r" '/' "x.dll") "/r" := by
  refine ⟨⟨by decide, by decide⟩, ⟨by decide, by decide⟩, ?_, ?_, ?_⟩ <;> decide +kernel

end BuildCapture
