import BuildCapture.Proofs.Json.Printing

/-!
# Reading back tidy trees

The tokens of a tree drive the reader from the place where a value is expected
to the place behind that value, whatever containers are unfinished around it.
A tidy tree also respects the limit on nesting, and settling it changes
nothing, so its document is read back as the tree itself.
-/

namespace BuildCapture.Json.Tree

/-! ## Building the tree -/

namespace Progress

/-- Reading goes on after a token that the grammar allows. -/
theorem finish?_cons
    {progress next : Progress}
    {token : Token}
    (step : progress.step? token = some next)
    (rest : List Token) :
    progress.finish? (token :: rest) = next.finish? rest := by
  rw [finish?.eq_def]
  split
  · next nothing =>
    cases nothing
  · next nothing =>
    cases nothing
  · next same =>
    cases same
    rw [step]

end Progress

/-- The tokens of a tree are read as the tree, wherever a value may stand. -/
def Builds (tree : Tree) : Prop :=
  ∀ stack rest,
    (Progress.atValue stack).finish? (tree.tokens ++ rest) =
      (Progress.after stack tree).finish? rest

theorem tokens_eq_cons
    (tree : Tree) :
    ∃ first rest, tree.tokens = first :: rest ∧ first ≠ .closeArray := by
  cases tree with
  | array items =>
    cases items with
    | nil => exact ⟨_, _, rfl, nofun⟩
    | cons first rest => exact ⟨_, _, rfl, nofun⟩
  | object members =>
    cases members with
    | nil => exact ⟨_, _, rfl, nofun⟩
    | cons first rest => exact ⟨_, _, rfl, nofun⟩
  | _ => exact ⟨_, _, rfl, nofun⟩

/-- The first item of an array starts like any value. -/
theorem finish?_atFirstItem
    (tree : Tree)
    (stack : List Frame)
    (rest : List Token) :
    (Progress.atFirstItem stack).finish? (tree.tokens ++ rest) =
      (Progress.atValue (.array [] :: stack)).finish? (tree.tokens ++ rest) := by
  rcases tokens_eq_cons tree with ⟨first, others, spelled, notClosed⟩
  have sameStep :
      (Progress.atFirstItem stack).step? first =
        (Progress.atValue (.array [] :: stack)).step? first := by
    cases first with
    | closeArray => exact absurd rfl notClosed
    | _ => rfl
  rw [spelled, List.cons_append, Progress.finish?.eq_def, Progress.finish?.eq_def]
  simp only [sameStep]

theorem builds_items
    {items : List Tree}
    (builds : ∀ item ∈ items, Builds item)
    (stack : List Frame)
    (known : List Tree)
    (tree : Tree)
    (rest : List Token) :
    (Progress.after (.array known :: stack) tree).finish?
        (itemTokens items ++ .closeArray :: rest) =
      (Progress.after stack (.array ((tree :: known).reverse ++ items))).finish? rest := by
  induction items generalizing known tree with
  | nil =>
    rw [List.append_nil]
    exact Progress.finish?_cons rfl rest
  | cons item others ih =>
    have first := builds item List.mem_cons_self
    have behind :=
      ih (fun other later => builds other (List.mem_cons_of_mem _ later)) (tree :: known) item
    rw [itemTokens, List.cons_append, List.append_assoc, Progress.finish?_cons rfl, first, behind,
      List.reverse_cons, List.append_assoc]
    rfl

theorem builds_members
    {members : List (Octets × Tree)}
    (builds : ∀ member ∈ members, Builds member.2)
    (stack : List Frame)
    (known : List (Octets × Tree))
    (key : Octets)
    (tree : Tree)
    (rest : List Token) :
    (Progress.after (.object known key :: stack) tree).finish?
        (memberTokens members ++ .closeObject :: rest) =
      (Progress.after stack
        (.object (((key, tree) :: known).reverse ++ members))).finish? rest := by
  induction members generalizing known key tree with
  | nil =>
    rw [List.append_nil]
    exact Progress.finish?_cons rfl rest
  | cons member others ih =>
    rcases member with ⟨name, value⟩
    have first := builds (name, value) List.mem_cons_self
    have behind :=
      ih (fun other later => builds other (List.mem_cons_of_mem _ later)) ((key, tree) :: known)
        name value
    rw [memberTokens, List.cons_append, List.cons_append, List.cons_append, List.append_assoc,
      Progress.finish?_cons rfl, Progress.finish?_cons rfl, Progress.finish?_cons rfl, first,
      behind, List.reverse_cons, List.append_assoc]
    rfl

theorem Tidy.builds
    {room : Nat}
    {tree : Tree}
    (tidy : tree.Tidy room) :
    Builds tree := by
  intro stack rest
  induction tidy generalizing stack rest with
  | null => exact Progress.finish?_cons rfl rest
  | bool value => exact Progress.finish?_cons rfl rest
  | text text => exact Progress.finish?_cons rfl rest
  | natural small => exact Progress.finish?_cons rfl rest
  | @array room items _ ih =>
    cases items with
    | nil =>
      show (Progress.atValue stack).finish? (.openArray :: .closeArray :: rest) = _
      rw [Progress.finish?_cons rfl, Progress.finish?_cons rfl]
    | cons first others =>
      have builds := fun other later => ih other (List.mem_cons_of_mem first later)
      have whole :
          tokens (.array (first :: others)) ++ rest =
            .openArray :: (first.tokens ++ (itemTokens others ++ .closeArray :: rest)) := by
        simp only [tokens, List.cons_append, List.append_assoc, List.nil_append]
      rw [whole, Progress.finish?_cons rfl, finish?_atFirstItem, ih first List.mem_cons_self,
        builds_items builds]
      rfl
  | @object room members _ _ _ ih =>
    cases members with
    | nil =>
      show (Progress.atValue stack).finish? (.openObject :: .closeObject :: rest) = _
      rw [Progress.finish?_cons rfl, Progress.finish?_cons rfl]
    | cons first others =>
      rcases first with ⟨key, value⟩
      have builds := fun other later => ih other (List.mem_cons_of_mem (key, value) later)
      have whole :
          tokens (.object ((key, value) :: others)) ++ rest =
            .openObject :: .text key :: .colon ::
              (value.tokens ++ (memberTokens others ++ .closeObject :: rest)) := by
        simp only [tokens, List.cons_append, List.append_assoc, List.nil_append]
      rw [whole, Progress.finish?_cons rfl, Progress.finish?_cons rfl, Progress.finish?_cons rfl,
        ih (key, value) List.mem_cons_self, builds_members builds]
      rfl

/-- The tokens of a tidy tree are read as the tree. -/
theorem Tidy.ofTokens?_tokens
    {room : Nat}
    {tree : Tree}
    (tidy : tree.Tidy room) :
    ofTokens? tree.tokens = some tree := by
  have built := tidy.builds [] []
  rw [List.append_nil] at built
  exact built

/-! ## Nesting -/

theorem nestsWithin_cons
    {limit depth : Nat}
    {token : Token}
    (within : Token.depthAfter depth token ≤ limit)
    (rest : List Token) :
    Token.nestsWithin limit depth (token :: rest) =
      Token.nestsWithin limit (Token.depthAfter depth token) rest := by
  rw [Token.nestsWithin, decide_eq_true within, Bool.true_and]

/-- The tokens stay within the limit and leave as many brackets open as there were before. -/
def Balances (limit depth : Nat) (front : List Token) : Prop :=
  ∀ rest, Token.nestsWithin limit depth (front ++ rest) = Token.nestsWithin limit depth rest

theorem balances_items
    {limit depth : Nat}
    (within : depth ≤ limit)
    {items : List Tree}
    (balances : ∀ item ∈ items, Balances limit depth item.tokens) :
    Balances limit depth (itemTokens items) := by
  intro rest
  induction items with
  | nil => rfl
  | cons item others ih =>
    have behind := ih fun other later => balances other (List.mem_cons_of_mem _ later)
    rw [itemTokens, List.cons_append, List.append_assoc, nestsWithin_cons within,
      ← behind, ← balances item List.mem_cons_self]
    rfl

theorem balances_members
    {limit depth : Nat}
    (within : depth ≤ limit)
    {members : List (Octets × Tree)}
    (balances : ∀ member ∈ members, Balances limit depth member.2.tokens) :
    Balances limit depth (memberTokens members) := by
  intro rest
  induction members with
  | nil => rfl
  | cons member others ih =>
    rcases member with ⟨key, value⟩
    have behind := ih fun other later => balances other (List.mem_cons_of_mem _ later)
    rw [memberTokens, List.cons_append, List.cons_append, List.cons_append, List.append_assoc,
      nestsWithin_cons within, nestsWithin_cons within, nestsWithin_cons within,
      ← behind, ← balances (key, value) List.mem_cons_self]
    rfl

/-- A tidy tree needs no more room than it says. -/
theorem Tidy.balances
    {room : Nat}
    {tree : Tree}
    (tidy : tree.Tidy room)
    {limit depth : Nat}
    (within : depth + room ≤ limit) :
    Balances limit depth tree.tokens := by
  intro rest
  induction tidy generalizing depth rest with
  | null => exact nestsWithin_cons (Nat.le_of_add_right_le within) rest
  | bool value => exact nestsWithin_cons (Nat.le_of_add_right_le within) rest
  | text text => exact nestsWithin_cons (Nat.le_of_add_right_le within) rest
  | natural small => exact nestsWithin_cons (Nat.le_of_add_right_le within) rest
  | @array room items _ ih =>
    have inside : depth + 1 + room ≤ limit := by omega
    have opened : depth + 1 ≤ limit := by omega
    have closed : depth ≤ limit := by omega
    cases items with
    | nil =>
      show Token.nestsWithin limit depth (.openArray :: .closeArray :: rest) = _
      rw [nestsWithin_cons opened, nestsWithin_cons closed]
      rfl
    | cons first others =>
      have balances :=
        balances_items opened fun other later rest =>
          ih other (List.mem_cons_of_mem first later) inside rest
      have whole :
          tokens (.array (first :: others)) ++ rest =
            .openArray :: (first.tokens ++ (itemTokens others ++ .closeArray :: rest)) := by
        simp only [tokens, List.cons_append, List.append_assoc, List.nil_append]
      rw [whole, nestsWithin_cons opened]
      show Token.nestsWithin limit (depth + 1) _ = _
      rw [ih first List.mem_cons_self inside, balances, nestsWithin_cons closed]
      rfl
  | @object room members _ _ _ ih =>
    have inside : depth + 1 + room ≤ limit := by omega
    have opened : depth + 1 ≤ limit := by omega
    have closed : depth ≤ limit := by omega
    cases members with
    | nil =>
      show Token.nestsWithin limit depth (.openObject :: .closeObject :: rest) = _
      rw [nestsWithin_cons opened, nestsWithin_cons closed]
      rfl
    | cons first others =>
      rcases first with ⟨key, value⟩
      have balances :=
        balances_members opened fun other later rest =>
          ih other (List.mem_cons_of_mem (key, value) later) inside rest
      have whole :
          tokens (.object ((key, value) :: others)) ++ rest =
            .openObject :: .text key :: .colon ::
              (value.tokens ++ (memberTokens others ++ .closeObject :: rest)) := by
        simp only [tokens, List.cons_append, List.append_assoc, List.nil_append]
      rw [whole, nestsWithin_cons opened, nestsWithin_cons opened, nestsWithin_cons opened]
      show Token.nestsWithin limit (depth + 1) _ = _
      rw [ih (key, value) List.mem_cons_self inside, balances, nestsWithin_cons closed]
      rfl

/-! ## Settling -/

theorem lastMembers_of_nodup
    {members : List (Octets × Tree)}
    (distinct : (members.map Prod.fst).Nodup) :
    lastMembers members = members := by
  induction members with
  | nil => rfl
  | cons member rest ih =>
    rcases member with ⟨key, value⟩
    rw [List.map_cons, List.nodup_cons] at distinct
    have noneLater : (rest.any fun later => later.1 == key) = false := by
      rw [List.any_eq_false]
      intro other later same
      have inside : other.1 ∈ rest.map Prod.fst := List.mem_map_of_mem later
      rw [beq_iff_eq.1 same] at inside
      exact distinct.1 inside
    rw [lastMembers, noneLater, ih distinct.2]
    rfl

theorem settleItems?_of_settled
    {items : List Tree}
    (settled : ∀ item ∈ items, settle? item = some item) :
    settleItems? items = some items := by
  induction items with
  | nil => rfl
  | cons item rest ih =>
    have first := settled item List.mem_cons_self
    have others := ih fun other later => settled other (List.mem_cons_of_mem _ later)
    rw [settleItems?, first, others]
    rfl

theorem settleMembers?_of_settled
    {members : List (Octets × Tree)}
    (keys : ∀ member ∈ members, ∃ key, member.1 = Octets.ofText key)
    (settled : ∀ member ∈ members, settle? member.2 = some member.2) :
    settleMembers? members = some members := by
  induction members with
  | nil => rfl
  | cons member rest ih =>
    rcases member with ⟨key, value⟩
    rcases keys (key, value) List.mem_cons_self with ⟨name, spelled⟩
    have isText : Octets.text? key = some name := by
      rw [show key = Octets.ofText name from spelled, Octets.text?_ofText]
    have first := settled (key, value) List.mem_cons_self
    have others :=
      ih (fun other later => keys other (List.mem_cons_of_mem _ later))
        fun other later => settled other (List.mem_cons_of_mem _ later)
    rw [settleMembers?, isText, first, others]
    rfl

/-- Settling a tidy tree changes nothing. -/
theorem Tidy.settle?
    {room : Nat}
    {tree : Tree}
    (tidy : tree.Tidy room) :
    Tree.settle? tree = some tree := by
  induction tidy with
  | null => rfl
  | bool value => rfl
  | natural small => rfl
  | text text =>
    rw [Tree.settle?, Octets.text?_ofText]
    rfl
  | array _ ih =>
    rw [Tree.settle?, settleItems?_of_settled ih]
    rfl
  | object distinct keys _ ih =>
    rw [Tree.settle?, settleMembers?_of_settled keys ih, Option.map_some,
      lastMembers_of_nodup distinct]

/-! ## Documents -/

/-- What prints a tidy tree is read as the tree. -/
theorem Tidy.read?
    {room : Nat}
    {tree : Tree}
    (tidy : tree.Tidy room)
    {printed : Octets}
    (prints : Prints printed tree.tokens) :
    Tree.read? printed = some tree := by
  rw [Tree.read?, prints.ofOctets?]
  exact tidy.ofTokens?_tokens

/-- What prints a tree that is tidy within the limit on nesting is read settled as the tree. -/
theorem Tidy.readSettled?
    {tree : Tree}
    (tidy : tree.Tidy nestingLimit)
    {printed : Octets}
    (prints : Prints printed tree.tokens) :
    Tree.readSettled? printed = some tree := by
  have nests : Token.nestsWithin nestingLimit 0 tree.tokens = true := by
    have balanced := tidy.balances (Nat.le_of_eq (Nat.zero_add nestingLimit)) []
    rw [List.append_nil] at balanced
    exact balanced
  rw [Tree.readSettled?, prints.ofOctets?, Option.bind_eq_bind, Option.bind_some, if_pos nests,
    tidy.ofTokens?_tokens]
  exact tidy.settle?

end BuildCapture.Json.Tree
