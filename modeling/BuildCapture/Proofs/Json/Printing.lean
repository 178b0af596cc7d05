import BuildCapture.Json.Tree
import BuildCapture.Proofs.Json.Token
import Mathlib.Tactic.Basic

/-!
# Printing tidy trees

A tree is tidy if its numbers have 64 bits, its strings are text, no object
repeats a key, and it is not nested too deeply.  The document written for such
a tree, on one line or on many, is read as the tokens of the tree.  This is by
induction on how the tree is tidy, with an induction over the items or members
of a container inside.
-/

namespace BuildCapture.Json.Tree

/-- A tree that is written faithfully and nested at most `room` deep. -/
inductive Tidy : (room : Nat) → Tree → Prop
  | null {room : Nat} : Tidy room .null
  | bool {room : Nat} (value : Bool) : Tidy room (.bool value)
  | natural {room value : Nat} : value < Octets.bound 8 → Tidy room (.number (.natural value))
  | text {room : Nat} (text : String) : Tidy room (.text (Octets.ofText text))
  | array {room : Nat} {items : List Tree} :
      (∀ item ∈ items, Tidy room item) → Tidy (room + 1) (.array items)
  | object {room : Nat} {members : List (Octets × Tree)} :
      (members.map Prod.fst).Nodup → (∀ member ∈ members, ∃ key, member.1 = Octets.ofText key) →
        (∀ member ∈ members, Tidy room member.2) → Tidy (room + 1) (.object members)

/-! ## Printing -/

/-- Octets that are read as these tokens, whatever comes behind them. -/
def Prints (printed : Octets) (front : List Token) : Prop :=
  ∀ data tokens,
    EndsNumber data → Token.Spells data tokens →
      Token.Spells (printed ++ data) (front ++ tokens)

/-- Octets that end a number in front of them, whatever comes behind them. -/
def Closes (printed : Octets) : Prop :=
  ∀ data, EndsNumber (printed ++ data)

theorem closes_cons
    {first : UInt8}
    (foreign : continuesNumber first = false)
    (rest : Octets) :
    Closes (first :: rest) :=
  fun _ => endsNumber_cons foreign _

theorem prints_nil : Prints [] [] :=
  fun _ _ _ spells => spells

theorem prints_mark
    (token : Token)
    (noNumber : token.isNumber = false)
    {printed : Octets}
    {front : List Token}
    (prints : Prints printed front) :
    Prints (token.render ++ printed) (token :: front) := by
  intro data tokens ends spells
  rw [List.append_assoc]
  exact Token.Spells.mark token noNumber (prints data tokens ends spells)

theorem prints_single
    (token : Token)
    (noNumber : token.isNumber = false) :
    Prints token.render [token] := by
  have alone := prints_mark token noNumber prints_nil
  rw [List.append_nil] at alone
  exact alone

theorem prints_blanks
    {blanks printed : Octets}
    (blank : ∀ octet ∈ blanks, Token.isBlank octet = true)
    {front : List Token}
    (prints : Prints printed front) :
    Prints (blanks ++ printed) front := by
  intro data tokens ends spells
  rw [List.append_assoc]
  exact Token.Spells.blanks blank (prints data tokens ends spells)

theorem prints_append
    {first second : Octets}
    {front back : List Token}
    (printsFirst : Prints first front)
    (printsSecond : Prints second back)
    (closes : Closes second) :
    Prints (first ++ second) (front ++ back) := by
  intro data tokens ends spells
  rw [List.append_assoc, List.append_assoc]
  exact printsFirst _ _ (closes data) (printsSecond data tokens ends spells)

theorem prints_natural
    {value : Nat}
    (small : value < Octets.bound 8) :
    Prints (Token.number (.natural value)).render [.number (.natural value)] := by
  intro data tokens ends spells
  have faithful : (Token.number (.natural value)).Faithful := small
  exact Token.Spells.token faithful ends spells

/-- What prints tokens is read as the tokens. -/
theorem Prints.ofOctets?
    {printed : Octets}
    {front : List Token}
    (prints : Prints printed front) :
    Token.ofOctets? printed = some front := by
  have spells := prints [] [] endsNumber_nil .nil
  rw [List.append_nil, List.append_nil] at spells
  exact spells.ofOctets?

/-! ## On one line -/

/-- The octets of tokens, without blanks. -/
def spelling
    (tokens : List Token) :
    Octets :=
  tokens.flatMap Token.render

theorem spelling_cons
    (token : Token)
    (tokens : List Token) :
    spelling (token :: tokens) = token.render ++ spelling tokens :=
  List.flatMap_cons

theorem spelling_append
    (front back : List Token) :
    spelling (front ++ back) = spelling front ++ spelling back :=
  List.flatMap_append

theorem prints_items
    {items : List Tree}
    (prints : ∀ item ∈ items, Prints (spelling item.tokens) item.tokens) :
    Prints (spelling (itemTokens items ++ [.closeArray])) (itemTokens items ++ [.closeArray]) ∧
      Closes (spelling (itemTokens items ++ [.closeArray])) := by
  induction items with
  | nil =>
    constructor
    · exact prints_mark .closeArray rfl prints_nil
    · exact closes_cons rfl _
  | cons item rest ih =>
    rcases ih fun other later => prints other (List.mem_cons_of_mem _ later) with
      ⟨printsRest, closes⟩
    have spelled :
        itemTokens (item :: rest) ++ [.closeArray] =
          .comma :: (item.tokens ++ (itemTokens rest ++ [.closeArray])) := by
      rw [itemTokens, List.cons_append, List.append_assoc]
    rw [spelled, spelling_cons, spelling_append]
    constructor
    · apply prints_mark .comma rfl
      exact prints_append (prints item List.mem_cons_self) printsRest closes
    · exact closes_cons rfl _

theorem prints_members
    {members : List (Octets × Tree)}
    (prints : ∀ member ∈ members, Prints (spelling member.2.tokens) member.2.tokens) :
    Prints (spelling (memberTokens members ++ [.closeObject]))
        (memberTokens members ++ [.closeObject]) ∧
      Closes (spelling (memberTokens members ++ [.closeObject])) := by
  induction members with
  | nil =>
    constructor
    · exact prints_mark .closeObject rfl prints_nil
    · exact closes_cons rfl _
  | cons member rest ih =>
    rcases member with ⟨key, value⟩
    rcases ih fun other later => prints other (List.mem_cons_of_mem _ later) with
      ⟨printsRest, closes⟩
    have spelled :
        memberTokens ((key, value) :: rest) ++ [.closeObject] =
          .comma :: .text key :: .colon ::
            (value.tokens ++ (memberTokens rest ++ [.closeObject])) := by
      rw [memberTokens, List.cons_append, List.cons_append, List.cons_append, List.append_assoc]
    rw [spelled, spelling_cons, spelling_cons, spelling_cons, spelling_append]
    constructor
    · apply prints_mark .comma rfl
      apply prints_mark (.text key) rfl
      apply prints_mark .colon rfl
      exact prints_append (prints (key, value) List.mem_cons_self) printsRest closes
    · exact closes_cons rfl _

/-- A tidy tree on one line is read as its tokens. -/
theorem Tidy.prints
    {room : Nat}
    {tree : Tree}
    (tidy : tree.Tidy room) :
    Prints tree.render tree.tokens := by
  induction tidy with
  | null => exact prints_mark .null rfl prints_nil
  | bool value => exact prints_mark (.bool value) rfl prints_nil
  | text text => exact prints_mark (.text _) rfl prints_nil
  | @natural room value small =>
    have alone : render (.number (.natural value)) = (Token.number (.natural value)).render :=
      List.append_nil _
    rw [alone]
    exact prints_natural small
  | @array room items _ ih =>
    cases items with
    | nil => exact prints_mark .openArray rfl (prints_mark .closeArray rfl prints_nil)
    | cons first rest =>
      rcases prints_items fun other later => ih other (List.mem_cons_of_mem _ later) with
        ⟨printsRest, closes⟩
      apply prints_mark .openArray rfl
      show Prints (spelling (first.tokens ++ (itemTokens rest ++ [.closeArray]))) _
      rw [spelling_append]
      exact prints_append (ih first List.mem_cons_self) printsRest closes
  | @object room members _ _ _ ih =>
    cases members with
    | nil => exact prints_mark .openObject rfl (prints_mark .closeObject rfl prints_nil)
    | cons first rest =>
      rcases first with ⟨key, value⟩
      rcases prints_members fun other later => ih other (List.mem_cons_of_mem _ later) with
        ⟨printsRest, closes⟩
      apply prints_mark .openObject rfl
      apply prints_mark (.text key) rfl
      apply prints_mark .colon rfl
      show Prints (spelling (value.tokens ++ (memberTokens rest ++ [.closeObject]))) _
      rw [spelling_append]
      exact prints_append (ih (key, value) List.mem_cons_self) printsRest closes

/-! ## On many lines -/

theorem isBlank_of_mem_lineBreak
    (level : Nat) :
    ∀ octet ∈ lineBreak level, Token.isBlank octet = true := by
  intro octet member
  rcases List.mem_cons.1 member with rfl | space
  · rfl
  · rw [List.eq_of_mem_replicate space]
    rfl

theorem isBlank_of_mem_space :
    ∀ octet ∈ [0x20], Token.isBlank octet = true := by
  intro octet member
  rw [List.mem_singleton.1 member]
  rfl

theorem prints_itemLines
    {level outer : Nat}
    {items : List Tree}
    (prints : ∀ item ∈ items, Prints (renderLines level item) item.tokens) :
    Prints (itemLines level items ++ (lineBreak outer ++ [0x5D]))
        (itemTokens items ++ [.closeArray]) ∧
      Closes (itemLines level items ++ (lineBreak outer ++ [0x5D])) := by
  induction items with
  | nil =>
    constructor
    · apply prints_blanks (isBlank_of_mem_lineBreak outer)
      exact prints_mark .closeArray rfl prints_nil
    · exact closes_cons rfl _
  | cons item rest ih =>
    rcases ih fun other later => prints other (List.mem_cons_of_mem _ later) with
      ⟨printsRest, closes⟩
    have lines :
        itemLines level (item :: rest) ++ (lineBreak outer ++ [0x5D]) =
          Token.comma.render ++ (lineBreak level ++ (renderLines level item ++
            (itemLines level rest ++ (lineBreak outer ++ [0x5D])))) := by
      simp only [itemLines, Token.render, List.cons_append, List.append_assoc, List.nil_append]
    have spelled :
        itemTokens (item :: rest) ++ [.closeArray] =
          .comma :: (item.tokens ++ (itemTokens rest ++ [.closeArray])) := by
      rw [itemTokens, List.cons_append, List.append_assoc]
    rw [lines, spelled]
    constructor
    · apply prints_mark .comma rfl
      apply prints_blanks (isBlank_of_mem_lineBreak level)
      exact prints_append (prints item List.mem_cons_self) printsRest closes
    · exact closes_cons rfl _

theorem prints_memberLines
    {level outer : Nat}
    {members : List (Octets × Tree)}
    (prints : ∀ member ∈ members, Prints (renderLines level member.2) member.2.tokens) :
    Prints (memberLines level members ++ (lineBreak outer ++ [0x7D]))
        (memberTokens members ++ [.closeObject]) ∧
      Closes (memberLines level members ++ (lineBreak outer ++ [0x7D])) := by
  induction members with
  | nil =>
    constructor
    · apply prints_blanks (isBlank_of_mem_lineBreak outer)
      exact prints_mark .closeObject rfl prints_nil
    · exact closes_cons rfl _
  | cons member rest ih =>
    rcases member with ⟨key, value⟩
    rcases ih fun other later => prints other (List.mem_cons_of_mem _ later) with
      ⟨printsRest, closes⟩
    have lines :
        memberLines level ((key, value) :: rest) ++ (lineBreak outer ++ [0x7D]) =
          Token.comma.render ++ (lineBreak level ++ ((Token.text key).render ++
            (Token.colon.render ++ ([0x20] ++ (renderLines level value ++
              (memberLines level rest ++ (lineBreak outer ++ [0x7D]))))))) := by
      simp only [memberLines, Token.render, List.cons_append, List.append_assoc, List.nil_append]
    have spelled :
        memberTokens ((key, value) :: rest) ++ [.closeObject] =
          .comma :: .text key :: .colon ::
            (value.tokens ++ (memberTokens rest ++ [.closeObject])) := by
      rw [memberTokens, List.cons_append, List.cons_append, List.cons_append, List.append_assoc]
    rw [lines, spelled]
    constructor
    · apply prints_mark .comma rfl
      apply prints_blanks (isBlank_of_mem_lineBreak level)
      apply prints_mark (.text key) rfl
      apply prints_mark .colon rfl
      apply prints_blanks isBlank_of_mem_space
      exact prints_append (prints (key, value) List.mem_cons_self) printsRest closes
    · exact closes_cons rfl _

/-- A tidy tree on many lines is read as its tokens. -/
theorem Tidy.prints_lines
    {room : Nat}
    {tree : Tree}
    (tidy : tree.Tidy room)
    (level : Nat) :
    Prints (renderLines level tree) tree.tokens := by
  induction tidy generalizing level with
  | null => exact prints_single .null rfl
  | bool value => exact prints_single (.bool value) rfl
  | text text => exact prints_single (.text _) rfl
  | natural small => exact prints_natural small
  | @array room items _ ih =>
    cases items with
    | nil => exact prints_mark .openArray rfl (prints_mark .closeArray rfl prints_nil)
    | cons first rest =>
      rcases
          @prints_itemLines (level + 1) level rest
            fun other later => ih other (List.mem_cons_of_mem _ later) (level + 1) with
        ⟨printsRest, closes⟩
      have lines :
          renderLines level (.array (first :: rest)) =
            Token.openArray.render ++ (lineBreak (level + 1) ++ (renderLines (level + 1) first ++
              (itemLines (level + 1) rest ++ (lineBreak level ++ [0x5D])))) := by
        simp only [renderLines, Token.render, List.cons_append, List.append_assoc, List.nil_append]
      rw [lines]
      apply prints_mark .openArray rfl
      apply prints_blanks (isBlank_of_mem_lineBreak (level + 1))
      exact prints_append (ih first List.mem_cons_self (level + 1)) printsRest closes
  | @object room members _ _ _ ih =>
    cases members with
    | nil => exact prints_mark .openObject rfl (prints_mark .closeObject rfl prints_nil)
    | cons first rest =>
      rcases first with ⟨key, value⟩
      rcases
          @prints_memberLines (level + 1) level rest
            fun other later => ih other (List.mem_cons_of_mem _ later) (level + 1) with
        ⟨printsRest, closes⟩
      have lines :
          renderLines level (.object ((key, value) :: rest)) =
            Token.openObject.render ++ (lineBreak (level + 1) ++ ((Token.text key).render ++
              (Token.colon.render ++ ([0x20] ++ (renderLines (level + 1) value ++
                (memberLines (level + 1) rest ++ (lineBreak level ++ [0x7D]))))))) := by
        simp only [renderLines, Token.render, List.cons_append, List.append_assoc, List.nil_append]
      rw [lines]
      apply prints_mark .openObject rfl
      apply prints_blanks (isBlank_of_mem_lineBreak (level + 1))
      apply prints_mark (.text key) rfl
      apply prints_mark .colon rfl
      apply prints_blanks isBlank_of_mem_space
      exact prints_append (ih (key, value) List.mem_cons_self (level + 1)) printsRest closes

end BuildCapture.Json.Tree
