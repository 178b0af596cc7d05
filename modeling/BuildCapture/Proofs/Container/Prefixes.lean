import BuildCapture.Proofs.Container.Listing
import BuildCapture.Proofs.FileSystem
import BuildCapture.Proofs.Octets.Text

/-!
# Listing by prefix

The names of an opened container are in order, so the entries whose names start
with some text are one stretch of them.  The listing goes to the first name that
does not come before the text and stops at the first one that does not start with
it.  Nothing is missed on either side: a text never comes behind a name that starts
with it, and between a text and a name that starts with it there are only names
that start with it as well.
-/

namespace BuildCapture

namespace Octets

/-! ## Starts in the order of octets -/

/-- What starts with a prefix does not come before it. -/
theorem not_lt_of_prefix
    {start data : Octets}
    (starts : start <+: data) :
    ¬ data < start := by
  rcases starts with ⟨rest, rfl⟩
  induction start with
  | nil => exact List.not_lt_nil _
  | cons octet others ih =>
    rw [List.cons_append, List.cons_lt_cons_iff]
    rintro (less | ⟨-, before⟩)
    · exact UInt8.lt_irrefl octet less
    · exact ih before

/-- Between a prefix and octets that start with it there are only octets that start with it. -/
theorem prefix_of_between
    {start middle data : Octets}
    (notBefore : ¬ middle < start)
    (before : middle < data)
    (starts : start <+: data) :
    start <+: middle := by
  rcases starts with ⟨rest, rfl⟩
  induction start generalizing middle with
  | nil => exact List.nil_prefix
  | cons octet others ih =>
    cases middle with
    | nil => exact absurd (List.nil_lt_cons octet others) notBefore
    | cons first later =>
      rw [List.cons_append, List.cons_lt_cons_iff] at before
      rw [List.cons_lt_cons_iff, not_or] at notBefore
      rcases before with less | ⟨rfl, before⟩
      · exact absurd less notBefore.1
      · have behind : ¬ later < others := fun less => notBefore.2 ⟨rfl, less⟩
        exact List.cons_prefix_cons.2 ⟨rfl, ih behind before⟩

end Octets

namespace Container

/-! ## Stretches of entries -/

/-- The name of an entry starts with a text, octet by octet. -/
def startsWith
    (start : String)
    (entry : DirectoryEntry) :
    Bool :=
  (Octets.ofText start).isPrefixOf (Octets.ofText entry.name)

theorem startsWith_iff
    {start : String}
    {entry : DirectoryEntry} :
    startsWith start entry = true ↔ Octets.ofText start <+: Octets.ofText entry.name :=
  List.isPrefixOf_iff_prefix

variable
  {start : String}
  {first other : DirectoryEntry}
  {entries : List DirectoryEntry}

/-- An entry whose name starts with a text does not come before it. -/
theorem not_textBefore_of_startsWith
    (starts : startsWith start first = true) :
    Octets.textBefore first.name start = false :=
  decide_eq_false (Octets.not_lt_of_prefix (startsWith_iff.1 starts))

/-- What follows an entry that does not come before a text does not come before it either. -/
theorem not_textBefore_of_precedes
    (notBefore : Octets.textBefore first.name start = false)
    (precedes : Precedes first other) :
    Octets.textBefore other.name start = false := by
  have behind : ¬ Octets.ofText first.name < Octets.ofText start := of_decide_eq_false notBefore
  apply decide_eq_false
  intro before
  exact behind (List.lt_trans (precedes_iff.1 precedes) before)

/-- Before the first entry that misses the text, and not before the text, nothing misses it. -/
theorem startsWith_of_precedes
    (notBefore : Octets.textBefore first.name start = false)
    (precedes : Precedes first other)
    (starts : startsWith start other = true) :
    startsWith start first = true := by
  have behind : ¬ Octets.ofText first.name < Octets.ofText start := of_decide_eq_false notBefore
  exact startsWith_iff.2
    (Octets.prefix_of_between behind (precedes_iff.1 precedes) (startsWith_iff.1 starts))

/-- Among entries in order that do not come before a text, those that start with it come first. -/
theorem takeWhile_startsWith
    (ordered : entries.Pairwise Precedes)
    (behind : ∀ entry ∈ entries, Octets.textBefore entry.name start = false) :
    entries.takeWhile (startsWith start) = entries.filter (startsWith start) := by
  induction entries with
  | nil => rfl
  | cons first rest ih =>
    rcases List.pairwise_cons.1 ordered with ⟨precedes, restOrdered⟩
    rcases List.forall_mem_cons.1 behind with ⟨notBefore, restBehind⟩
    rw [List.takeWhile_cons, List.filter_cons]
    split
    · rw [ih restOrdered restBehind]
    · next misses =>
      -- a later entry that starts with the text would make this one start with it
      symm
      rw [List.filter_eq_nil_iff]
      intro other later starts
      exact misses (startsWith_of_precedes notBefore (precedes other later) starts)

/-- Among entries in order, those that start with a text are one stretch. -/
theorem stretch_startsWith
    (ordered : entries.Pairwise Precedes) :
    (entries.dropWhile fun entry => Octets.textBefore entry.name start).takeWhile
        (startsWith start) =
      entries.filter (startsWith start) := by
  induction entries with
  | nil => rfl
  | cons first rest ih =>
    rcases List.pairwise_cons.1 ordered with ⟨precedes, restOrdered⟩
    rw [List.dropWhile_cons]
    split
    · next before =>
      have misses : ¬ startsWith start first = true := by
        intro starts
        rw [not_textBefore_of_startsWith starts] at before
        cases before
      rw [ih restOrdered, List.filter_cons_of_neg misses]
    · next notBefore =>
      have firstBehind := Bool.eq_false_iff.2 notBefore
      apply takeWhile_startsWith ordered
      rw [List.forall_mem_cons]
      exact ⟨firstBehind,
        fun other later => not_textBefore_of_precedes firstBehind (precedes other later)⟩

/-! ## Opened containers -/

/-- A file that opens has an image whose directory lists the entries, which are put in order. -/
theorem lists_of_openFile
    {files : FileSystem}
    {path : String}
    {verify : Bool}
    {container : Container}
    (opened : openFile files path verify = .ok container) :
    ∃ image trailer listed,
      files.read path = .ok image ∧ Lists image trailer listed ∧
        container.entries.Perm listed ∧ container.entries.Pairwise Precedes := by
  rcases read_of_openFile opened with ⟨image, content, opens⟩
  rcases ofImage_eq_ok_iff.1 opens with ⟨flags, entries, -, read, rfl⟩
  rcases readEntries_eq_ok_iff.1 read with ⟨trailer, listed, lists, adding⟩
  exact ⟨image, trailer, listed, content, lists, (perm_of_addEntries adding).1,
    pairwise_of_addEntries List.Pairwise.nil adding⟩

/-- A name starts with a text octet by octet exactly if it does so character by character. -/
theorem startsWith_eq
    (start : String) :
    startsWith start = fun entry => entry.name.startsWith start := by
  funext entry
  rw [Bool.eq_iff_iff, startsWith_iff, Octets.ofText_prefix_iff, String.startsWith_string_iff]

/--
Listing an opened container by a prefix is filtering its entries by it: what is
listed are the entries whose names consist of the prefix and some rest, each under
its own name, once and in the order of the octets of the names; and these are the
entries with such names in the directory of the file.
-/
theorem prefix_listing_is_filtering
    {files : FileSystem}
    {path : String}
    {verify : Bool}
    {container : Container}
    (opened : openFile files path verify = .ok container)
    (start : String) :
    container.entriesWithPrefix start =
        container.entries.filter (fun entry => entry.name.startsWith start) ∧
      (container.entriesWithPrefix start).Pairwise Precedes ∧
      ((container.entriesWithPrefix start).map DirectoryEntry.name).Nodup ∧
      (∀ entry, entry ∈ container.entriesWithPrefix start ↔
        container.find? entry.name = some entry ∧ ∃ rest, entry.name = start ++ rest) ∧
      ∃ image trailer listed,
        files.read path = .ok image ∧ Lists image trailer listed ∧
          (container.entriesWithPrefix start).Perm
            (listed.filter fun entry => entry.name.startsWith start) := by
  rcases lists_of_openFile opened with ⟨image, trailer, listed, content, lists, perm, ordered⟩
  have filtered : container.entriesWithPrefix start =
      container.entries.filter (fun entry => entry.name.startsWith start) := by
    rw [← startsWith_eq]
    exact stretch_startsWith ordered
  have stretch : (container.entriesWithPrefix start).Pairwise Precedes := by
    rw [filtered]
    exact ordered.filter _
  refine ⟨filtered, stretch, nodup_names_of_pairwise stretch, ?_,
    image, trailer, listed, content, lists, ?_⟩
  · intro entry
    have rest : entry.name.startsWith start = true ↔ ∃ rest, entry.name = start ++ rest := by
      rw [String.startsWith_string_iff]
      constructor
      · rintro ⟨symbols, spelled⟩
        refine ⟨String.ofList symbols, String.toList_inj.1 ?_⟩
        rw [String.toList_append, String.toList_ofList, spelled]
      · rintro ⟨rest, spelled⟩
        rw [spelled, String.toList_append]
        exact List.prefix_append _ _
    rw [filtered, List.mem_filter, rest]
    apply and_congr_left'
    constructor
    · intro member
      exact find?_of_nodup (nodup_names_of_pairwise ordered) member
    · exact List.mem_of_find?_eq_some
  · rw [filtered]
    exact perm.filter _

/-! ## Names beyond ASCII -/

/-- An empty entry with a name, which is stored right behind the header. -/
def emptyEntry
    (name : String) :
    DirectoryEntry where
  name := name
  flags := 0
  offset := headerLength
  storedLength := 0
  rawLength := 0
  checksum := crc32 []
  digest := sha256 []

/-- A file system with a container whose directory lists empty entries with these names. -/
def namedFiles
    (names : List String) :
    FileSystem where
  workingDirectory := []
  nodes := [(["named"], .file 1 1 (
    Draft.sealedImage {
      image := header 0
      entries := names.map emptyEntry
      compression := {} }))]
  clock := 2

/-- The names that listing the container by a prefix gives. -/
def namesWithPrefix
    (names : List String)
    (start : String) :
    Option (List String) :=
  match openFile (namedFiles names) "named" true with
  | .error _ => none
  | .ok container => some ((container.entriesWithPrefix start).map DirectoryEntry.name)

theorem opened_of_namesWithPrefix
    {names listed : List String}
    {start : String}
    (listing : namesWithPrefix names start = some listed) :
    ∃ container,
      openFile (namedFiles names) "named" true = .ok container ∧
        (container.entriesWithPrefix start).map DirectoryEntry.name = listed := by
  unfold namesWithPrefix at listing
  split at listing
  · cases listing
  · next container opened => exact ⟨container, opened, Option.some.inj listing⟩

set_option maxRecDepth 100000 in
/-- A prefix may be empty, be a name, share an octet with names, or be behind all of them. -/
theorem prefixes_of_names :
    namesWithPrefix ["éa", "ê", "b", "é", "e"] "" = some ["b", "e", "é", "éa", "ê"] ∧
      namesWithPrefix ["éa", "ê", "b", "é", "e"] "é" = some ["é", "éa"] ∧
      namesWithPrefix ["éa", "ê", "b", "é", "e"] "è" = some [] ∧
      namesWithPrefix ["éa", "ê", "b", "é", "e"] "€" = some [] := by
  decide +kernel

/-- Three of the names start with the same octet, and two of them with the same letter. -/
theorem accented_names_are_listed :
    ∃ container,
      openFile (namedFiles ["éa", "ê", "b", "é", "e"]) "named" true = .ok container ∧
        (container.entriesWithPrefix "é").map DirectoryEntry.name = ["é", "éa"] ∧
        container.entriesWithPrefix "é" =
          container.entries.filter (fun entry => entry.name.startsWith "é") ∧
        (container.entriesWithPrefix "é").Pairwise Precedes := by
  rcases opened_of_namesWithPrefix prefixes_of_names.2.1 with ⟨container, opened, names⟩
  have listing := prefix_listing_is_filtering opened "é"
  exact ⟨container, opened, names, listing.1, listing.2.1⟩

end Container

end BuildCapture
