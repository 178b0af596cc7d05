import BuildCapture.Json.Tree
import Mathlib.Data.List.Basic
import Mathlib.Tactic.Basic

/-!
# Reading is exact

A tree is read from exactly its own tokens.  How far a document has been read
is a state with unfinished containers; each state was reached by certain
tokens, and every step adds the token that it reads.  A complete document has
therefore been read from the tokens of its tree.

So whatever is true of the tokens of a document is true of its tree: the
natural numbers of a document that was read have 64 bits.
-/

namespace BuildCapture.Json

/-! ## The tokens of containers -/

namespace Tree

theorem itemTokens_eq
    (items : List Tree) :
    itemTokens items = items.flatMap fun item => .comma :: item.tokens := by
  induction items with
  | nil => rfl
  | cons item rest ih => rw [itemTokens, ih, List.flatMap_cons, List.cons_append]

theorem memberTokens_eq
    (members : List (Octets × Tree)) :
    memberTokens members =
      members.flatMap fun member => .comma :: .text member.1 :: .colon :: member.2.tokens := by
  induction members with
  | nil => rfl
  | cons member rest ih =>
    rw [memberTokens, ih, List.flatMap_cons]
    simp only [List.cons_append]

/-- A separator may be put behind each of some tokens, or in front of the others and the end. -/
theorem flatMap_append_separator
    {Item : Type}
    (spell : Item → List Token)
    (separator : Token)
    (items : List Item)
    (last : Item) :
    (items.flatMap fun item => spell item ++ [separator]) ++ spell last =
      match items ++ [last] with
      | [] => []
      | first :: rest => spell first ++ rest.flatMap fun item => separator :: spell item := by
  induction items with
  | nil => simp
  | cons first rest ih =>
    rw [List.flatMap_cons, List.append_assoc, ih]
    cases rest <;> simp

/-- The tokens of an array, by its last item. -/
theorem tokens_array_append
    (items : List Tree)
    (last : Tree) :
    tokens (.array (items ++ [last])) =
      .openArray :: ((items.flatMap fun item => item.tokens ++ [.comma]) ++ last.tokens ++
        [.closeArray]) := by
  rw [flatMap_append_separator]
  cases items <;> simp [tokens, itemTokens_eq]

/-- The tokens of a member. -/
def spellMember
    (member : Octets × Tree) :
    List Token :=
  .text member.1 :: .colon :: member.2.tokens

/-- The tokens of an object, by its last member. -/
theorem tokens_object_append
    (members : List (Octets × Tree))
    (last : Octets × Tree) :
    tokens (.object (members ++ [last])) =
      .openObject :: ((members.flatMap fun member => spellMember member ++ [.comma]) ++
        spellMember last ++ [.closeObject]) := by
  rw [flatMap_append_separator]
  cases members <;> simp [tokens, memberTokens_eq, spellMember]

/-! ## What has been read -/

/-- The tokens that led into an unfinished container, up to the value that has to follow. -/
def Frame.taken : Frame → List Token
  | .array items => .openArray :: items.reverse.flatMap fun item => item.tokens ++ [.comma]
  | .object members key =>
    .openObject :: ((members.reverse.flatMap fun member => spellMember member ++ [.comma]) ++
      [.text key, .colon])

/-- The tokens that led into a stack of unfinished containers. -/
def stackTaken : List Frame → List Token
  | [] => []
  | frame :: stack => stackTaken stack ++ frame.taken

/-- The tokens that have been read. -/
def Progress.taken : Progress → List Token
  | .atValue stack => stackTaken stack
  | .atFirstItem stack => stackTaken stack ++ [.openArray]
  | .atFirstKey stack => stackTaken stack ++ [.openObject]
  | .atKey stack members =>
    stackTaken stack ++
      .openObject :: members.reverse.flatMap fun member => spellMember member ++ [.comma]
  | .atColon stack members key =>
    stackTaken stack ++
      .openObject :: ((members.reverse.flatMap fun member => spellMember member ++ [.comma]) ++
        [.text key])
  | .after stack tree => stackTaken stack ++ tree.tokens

namespace Progress

theorem taken_beginValue
    {stack : List Frame}
    {token : Token}
    {next : Progress}
    (begun : beginValue stack token = some next) :
    next.taken = stackTaken stack ++ [token] := by
  cases token with
  | comma => cases begun
  | colon => cases begun
  | closeArray => cases begun
  | closeObject => cases begun
  | _ =>
    cases begun
    simp [taken, tokens]

theorem taken_afterValue
    {tree : Tree}
    {stack : List Frame}
    {token : Token}
    {next : Progress}
    (went : afterValue tree stack token = some next) :
    next.taken = stackTaken stack ++ tree.tokens ++ [token] := by
  unfold afterValue at went
  split at went
  · cases went
    simp [taken, stackTaken, Frame.taken]
  · cases went
    simp [taken, stackTaken, Frame.taken, tokens_array_append]
  · cases went
    simp [taken, stackTaken, Frame.taken, spellMember]
  · cases went
    simp [taken, stackTaken, Frame.taken, tokens_object_append, spellMember]
  · cases went

/-- A step adds the token that it reads. -/
theorem taken_step?
    {progress next : Progress}
    {token : Token}
    (step : progress.step? token = some next) :
    next.taken = progress.taken ++ [token] := by
  unfold step? at step
  split at step
  · exact taken_beginValue step
  · cases step
    simp [taken, tokens]
  · rw [taken_beginValue step]
    simp [taken, stackTaken, Frame.taken]
  · cases step
    simp [taken, tokens]
  · cases step
    simp [taken]
  · cases step
  · cases step
    simp [taken]
  · cases step
  · cases step
    simp [taken, stackTaken, Frame.taken]
  · cases step
  · exact taken_afterValue step

/-- A complete document has been read from the tokens of its tree. -/
theorem tokens_of_finish?
    {progress : Progress}
    {rest : List Token}
    {tree : Tree}
    (finished : progress.finish? rest = some tree) :
    tree.tokens = progress.taken ++ rest := by
  induction rest generalizing progress with
  | nil =>
    unfold finish? at finished
    split at finished
    · cases finished
      simp [taken, stackTaken]
    · cases finished
    · next impossible => cases impossible
  | cons token rest ih =>
    unfold finish? at finished
    split at finished
    · next impossible => cases impossible
    · next impossible => cases impossible
    · next same =>
      cases same
      split at finished
      · cases finished
      · next step =>
        rw [ih finished, taken_step? step, List.append_assoc]
        rfl

end Progress

/-- A tree is read from exactly its own tokens. -/
theorem tokens_of_ofTokens?
    {front : List Token}
    {tree : Tree}
    (reading : ofTokens? front = some tree) :
    tree.tokens = front :=
  Progress.tokens_of_finish? reading

end Tree

/-! ## Numbers -/

theorem Number.ofLiteral_natural_lt
    {literal : Literal}
    {spelling : Octets}
    {value : Nat}
    (same : ofLiteral literal spelling = .natural value) :
    value < Octets.bound 8 := by
  unfold ofLiteral at same
  split at same
  · next number integer =>
    subst same
    unfold Literal.integer? at integer
    split at integer
    · simp only at integer
      split at integer
      · split at integer
        · cases integer
        · cases integer
      · split at integer
        · next small =>
          cases integer
          exact small
        · cases integer
    · cases integer
  · split at same
    · cases same
    · cases same

namespace Token

/-- A token that, if it is a natural number, has 64 bits. -/
def IsSized : Token → Prop
  | .number (.natural value) => value < Octets.bound 8
  | _ => True

theorem isSized_of_take?
    {data rest : Octets}
    {token : Token}
    (taking : take? data = some (token, rest)) :
    token.IsSized := by
  unfold take? at taking
  split at taking
  case h_11 =>
    rcases Option.map_eq_some_iff.1 taking with ⟨⟨number, others⟩, number?, same⟩
    cases same
    cases number with
    | natural value =>
      unfold Number.take? at number?
      rcases Option.bind_eq_some_iff.1 number? with ⟨⟨literal, behind⟩, -, same⟩
      exact Number.ofLiteral_natural_lt (Prod.mk.inj (Option.some.inj same)).1
    | _ => trivial
  case h_7 =>
    rcases Option.map_eq_some_iff.1 taking with ⟨found, -, same⟩
    cases same
    trivial
  all_goals
    cases taking
    trivial

theorem isSized_of_scan?
    {fuel : Nat}
    {known tokens : List Token}
    {data : Octets}
    (sized : ∀ token ∈ known, token.IsSized)
    (scanning : scan? fuel known data = some tokens) :
    ∀ token ∈ tokens, token.IsSized := by
  induction fuel generalizing known data with
  | zero => cases scanning
  | succ fuel ih =>
    unfold scan? at scanning
    split at scanning
    · cases scanning
      intro token member
      exact sized token (List.mem_reverse.1 member)
    · split at scanning
      · cases scanning
      · next taking =>
        refine ih ?_ scanning
        exact List.forall_mem_cons.2 ⟨isSized_of_take? taking, sized⟩

/-- The natural numbers of a document have 64 bits. -/
theorem isSized_of_ofOctets?
    {data : Octets}
    {tokens : List Token}
    (reading : ofOctets? data = some tokens) :
    ∀ token ∈ tokens, token.IsSized :=
  isSized_of_scan? (List.forall_mem_nil _) reading

end Token

end BuildCapture.Json
