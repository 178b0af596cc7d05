import BuildCapture.Json.Token
import BuildCapture.Proofs.Decimal
import BuildCapture.Proofs.Json.Text

/-!
# Reading back tokens

Octets spell a token sequence if they are the tokens one after the other,
possibly with blanks between them, and no number is followed by an octet that
would continue it.  Scanning what spells a token sequence yields the sequence.
-/

namespace BuildCapture.Json

/-! ## Numbers -/

/-- Whether an octet may continue a number: a digit, a point or an exponent mark. -/
def continuesNumber
    (octet : UInt8) :
    Bool :=
  Decimal.isDigit octet || octet == 0x2E || octet == 0x65 || octet == 0x45

/-- The data does not start with an octet that continues a number. -/
def EndsNumber (data : Octets) : Prop :=
  ∀ first rest, data = first :: rest → continuesNumber first = false

theorem endsNumber_nil : EndsNumber [] := by
  intro first rest same
  cases same

theorem endsNumber_cons
    {octet : UInt8}
    (foreign : continuesNumber octet = false)
    (rest : Octets) :
    EndsNumber (octet :: rest) := by
  intro first others same
  cases same
  exact foreign

namespace Number

/-- The digits at the start of the data are taken up to the first other octet. -/
theorem span_isDigit_append
    {front : Octets}
    (digits : ∀ octet ∈ front, Decimal.isDigit octet = true)
    {back : Octets}
    (ends : EndsNumber back) :
    (front ++ back).span Decimal.isDigit = (front, back) := by
  have stops : back.takeWhile Decimal.isDigit = [] ∧ back.dropWhile Decimal.isDigit = back := by
    cases back with
    | nil => exact ⟨rfl, rfl⟩
    | cons first rest =>
      have foreign := ends first rest rfl
      have noDigit : Decimal.isDigit first = false := by
        cases digit : Decimal.isDigit first with
        | false => rfl
        | true =>
          rw [continuesNumber, digit] at foreign
          cases foreign
      constructor
      · rw [List.takeWhile_cons, noDigit]
        rfl
      · rw [List.dropWhile_cons, noDigit]
        rfl
  rw [List.span_eq_takeWhile_dropWhile, List.takeWhile_append_of_pos digits,
    List.dropWhile_append_of_pos digits, stops.1, stops.2, List.append_nil]

theorem takeFraction?_of_endsNumber
    {data : Octets}
    (ends : EndsNumber data) :
    takeFraction? data = some ([], data) := by
  rw [takeFraction?.eq_def]
  split
  · next rest =>
    have point := ends 0x2E rest rfl
    cases point
  · rfl

theorem takeExponent?_of_endsNumber
    {data : Octets}
    (ends : EndsNumber data) :
    takeExponent? data = some (none, data) := by
  cases data with
  | nil => rfl
  | cons first rest =>
    have foreign := ends first rest rfl
    have noMark : ¬ (first = 0x65 ∨ first = 0x45) := by
      rintro (rfl | rfl)
      · cases foreign
      · cases foreign
    rw [takeExponent?, if_neg noMark]

/-- The digits of a number are the whole part of a literal. -/
theorem takeLiteral?_octets
    (value : Nat)
    {rest : Octets}
    (ends : EndsNumber rest) :
    takeLiteral? (Decimal.octets value ++ rest) =
      some (⟨false, Decimal.octets value, [], none⟩, rest) := by
  rcases Decimal.octets_eq_cons value with ⟨first, others, spelled, leading⟩
  have digits := Decimal.isDigit_of_mem_octets value
  have taken := span_isDigit_append digits ends
  have noSign :
      takeSign (Decimal.octets value ++ rest) = (false, Decimal.octets value ++ rest) := by
    have firstDigit := digits first (spelled ▸ List.mem_cons_self)
    rw [spelled, List.cons_append, takeSign.eq_def]
    split
    · next same =>
      cases same
      cases firstDigit
    · rfl
  have whole : takeWhole? (Decimal.octets value ++ rest) = some (Decimal.octets value, rest) := by
    rw [takeWhole?, taken]
    split
    · next same =>
      rw [spelled] at same
      cases same
    · next second more behind same =>
      have zero : first = 0x30 ∧ others = second :: more := by
        rw [spelled] at same
        cases same
        exact ⟨rfl, rfl⟩
      rw [(leading zero.1).2] at zero
      cases zero.2
    · next same =>
      rw [← (Prod.mk.inj same).1, ← (Prod.mk.inj same).2]
  rw [takeLiteral?, noSign]
  simp only [whole, takeFraction?_of_endsNumber ends, takeExponent?_of_endsNumber ends,
    Option.bind_eq_bind, Option.bind_some, Option.pure_def]

/-- A number of 64 bits is read back. -/
theorem take?_octets
    {value : Nat}
    (small : value < Octets.bound 8)
    {rest : Octets}
    (ends : EndsNumber rest) :
    take? (Decimal.octets value ++ rest) = some (.natural value, rest) := by
  have integer :
      Literal.integer? ⟨false, Decimal.octets value, [], none⟩ = some (.natural value) := by
    simp [Literal.integer?, Decimal.value_octets, small]
  rw [take?, takeLiteral?_octets value ends]
  simp [ofLiteral, integer]

end Number

namespace Token

/-! ## Single tokens -/

/-- A token is read back from what is written for it: of numbers, those of 64 bits are. -/
def Faithful : Token → Prop
  | .number (.natural value) => value < Octets.bound 8
  | .number _ => False
  | _ => True

/-- What follows a token does not continue it. -/
def Ends (rest : Octets) : Token → Prop
  | .number _ => EndsNumber rest
  | _ => True

theorem digit_cases
    {octet : UInt8}
    (digit : Decimal.isDigit octet = true) :
    ∃ number : Fin 10, octet = UInt8.ofNat (0x30 + number) := by
  rw [Decimal.isDigit, Bool.and_eq_true, decide_eq_true_eq, decide_eq_true_eq] at digit
  have lower : 0x30 ≤ octet.toNat := UInt8.le_iff_toNat_le.1 digit.1
  have upper : octet.toNat ≤ 0x39 := UInt8.le_iff_toNat_le.1 digit.2
  refine ⟨⟨octet.toNat - 0x30, by omega⟩, ?_⟩
  show octet = UInt8.ofNat (0x30 + (octet.toNat - 0x30))
  have whole : 0x30 + (octet.toNat - 0x30) = octet.toNat := by omega
  rw [whole, UInt8.ofNat_toNat]

theorem take?_of_digit
    {first : UInt8}
    (digit : Decimal.isDigit first = true)
    (rest : Octets) :
    take? (first :: rest) =
      (Number.take? (first :: rest)).map fun (value, rest) => (.number value, rest) := by
  rcases digit_cases digit with ⟨number, rfl⟩
  fin_cases number <;> rfl

/-- A token starts with an octet that is not blank. -/
theorem render_eq_cons
    {token : Token}
    (faithful : token.Faithful) :
    ∃ first rest, token.render = first :: rest ∧ isBlank first = false := by
  cases token with
  | null => exact ⟨_, _, rfl, rfl⟩
  | bool value => cases value <;> exact ⟨_, _, rfl, rfl⟩
  | text data => exact ⟨_, _, rfl, rfl⟩
  | comma => exact ⟨_, _, rfl, rfl⟩
  | colon => exact ⟨_, _, rfl, rfl⟩
  | openArray => exact ⟨_, _, rfl, rfl⟩
  | closeArray => exact ⟨_, _, rfl, rfl⟩
  | openObject => exact ⟨_, _, rfl, rfl⟩
  | closeObject => exact ⟨_, _, rfl, rfl⟩
  | number value =>
    cases value with
    | natural value =>
      rcases Decimal.octets_eq_cons value with ⟨first, rest, spelled, -⟩
      refine ⟨first, rest, spelled, ?_⟩
      have digit := Decimal.isDigit_of_mem_octets value first (spelled ▸ List.mem_cons_self)
      rcases digit_cases digit with ⟨number, rfl⟩
      fin_cases number <;> rfl
    | negative magnitude => exact absurd faithful id
    | approximate literal => exact absurd faithful id
    | unbounded literal => exact absurd faithful id

/-- A token is read back from what is written for it. -/
theorem take?_render
    {token : Token}
    (faithful : token.Faithful)
    {rest : Octets}
    (ends : token.Ends rest) :
    take? (token.render ++ rest) = some (token, rest) := by
  cases token with
  | null => rfl
  | bool value => cases value <;> rfl
  | text data =>
    have read := Text.takeRest?_flatMap_escape data [] rest
    have spelled :
        (Token.text data).render ++ rest = 0x22 :: (data.flatMap Text.escape ++ 0x22 :: rest) := by
      show 0x22 :: (data.flatMap Text.escape ++ [0x22]) ++ rest = _
      rw [List.cons_append, List.append_assoc]
      rfl
    rw [spelled]
    show (Text.takeRest? [] none (data.flatMap Text.escape ++ 0x22 :: rest)).map _ = _
    rw [read]
    rfl
  | comma => rfl
  | colon => rfl
  | openArray => rfl
  | closeArray => rfl
  | openObject => rfl
  | closeObject => rfl
  | number value =>
    cases value with
    | natural value =>
      rcases Decimal.octets_eq_cons value with ⟨first, others, spelled, -⟩
      have digit := Decimal.isDigit_of_mem_octets value first (spelled ▸ List.mem_cons_self)
      have read := Number.take?_octets faithful ends
      show take? (Decimal.octets value ++ rest) = _
      rw [spelled, List.cons_append] at read ⊢
      rw [take?_of_digit digit, read]
      rfl
    | negative magnitude => exact absurd faithful id
    | approximate literal => exact absurd faithful id
    | unbounded literal => exact absurd faithful id

/-! ## Token sequences -/

/-- Octets are these tokens, one after the other, with any blanks between them. -/
inductive Spells : Octets → List Token → Prop
  | nil : Spells [] []
  | blank {octet : UInt8} {data : Octets} {tokens : List Token} :
      isBlank octet = true → Spells data tokens → Spells (octet :: data) tokens
  | token {token : Token} {data : Octets} {tokens : List Token} :
      token.Faithful → token.Ends data → Spells data tokens →
        Spells (token.render ++ data) (token :: tokens)

theorem Spells.blanks
    {front data : Octets}
    {tokens : List Token}
    (blank : ∀ octet ∈ front, isBlank octet = true)
    (spells : Spells data tokens) :
    Spells (front ++ data) tokens := by
  induction front with
  | nil => exact spells
  | cons octet rest ih =>
    apply Spells.blank (blank octet List.mem_cons_self)
    exact ih fun other later => blank other (List.mem_cons_of_mem _ later)

/-- Whether a token is a number. -/
def isNumber : Token → Bool
  | .number _ => true
  | _ => false

/-- A token that is not a number can be followed by anything. -/
theorem Spells.mark
    (token : Token)
    (noNumber : token.isNumber = false)
    {data : Octets}
    {tokens : List Token}
    (spells : Spells data tokens) :
    Spells (token.render ++ data) (token :: tokens) := by
  cases token with
  | number value => cases noNumber
  | _ => exact Spells.token trivial trivial spells

/-- What spells tokens has at least one octet for each. -/
theorem Spells.length_le
    {data : Octets}
    {tokens : List Token}
    (spells : Spells data tokens) :
    tokens.length ≤ data.length := by
  induction spells with
  | nil => exact Nat.le_refl 0
  | blank _ _ ih => exact Nat.le_succ_of_le ih
  | token faithful _ _ ih =>
    rcases render_eq_cons faithful with ⟨first, rest, spelled, -⟩
    rw [spelled, List.length_cons, List.length_append, List.length_cons]
    omega

/-- Scanning what spells tokens yields the tokens. -/
theorem Spells.scan?
    {data : Octets}
    {tokens : List Token}
    (spells : Spells data tokens)
    {fuel : Nat}
    (enough : tokens.length < fuel)
    (known : List Token) :
    Token.scan? fuel known data = some (known.reverse ++ tokens) := by
  induction spells generalizing fuel known with
  | nil =>
    rcases Nat.exists_eq_succ_of_ne_zero (Nat.ne_of_gt enough) with ⟨fuel, rfl⟩
    rw [List.append_nil]
    rfl
  | @blank octet data tokens blank _ ih =>
    rcases Nat.exists_eq_succ_of_ne_zero (Nat.ne_of_gt (Nat.zero_lt_of_lt enough)) with ⟨fuel, rfl⟩
    rw [← ih enough known, Token.scan?, Token.scan?, List.dropWhile_cons, if_pos blank]
  | @token token data tokens faithful ends _ ih =>
    rcases Nat.exists_eq_succ_of_ne_zero (Nat.ne_of_gt (Nat.zero_lt_of_lt enough)) with ⟨fuel, rfl⟩
    rcases render_eq_cons faithful with ⟨first, rest, spelled, notBlank⟩
    have read := take?_render faithful ends
    have remaining := ih (Nat.lt_of_succ_lt_succ enough) (token :: known)
    rw [spelled, List.cons_append] at read ⊢
    have start : List.dropWhile isBlank (first :: (rest ++ data)) = first :: (rest ++ data) := by
      rw [List.dropWhile_cons, notBlank]
      rfl
    rw [Token.scan?, start]
    simp only [read]
    rw [remaining, List.reverse_cons, List.append_assoc]
    rfl

/-- What spells tokens is read as the tokens. -/
theorem Spells.ofOctets?
    {data : Octets}
    {tokens : List Token}
    (spells : Spells data tokens) :
    Token.ofOctets? data = some tokens :=
  spells.scan? (Nat.lt_succ_of_le spells.length_le) []

end Token

end BuildCapture.Json
