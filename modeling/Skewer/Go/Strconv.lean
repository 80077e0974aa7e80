import Skewer.Go.Bytes

/-!
# Decimal parsing

`strconv.Atoi` on a 64-bit platform, with its fast path for short inputs and
its fallback through `ParseInt(s, 10, 0)` and `ParseUint(s, 10, 64)`. The
modelled callers often discard the error, so the value returned next to an
error (zero, or the clamped bound after an overflow) is kept as the source
computes it.
-/

namespace Skewer.Go

inductive NumError where
  | errSyntax
  | errRange
  deriving DecidableEq, Repr

def isDigit (c : UInt8) : Bool := 48 ≤ c && c ≤ 57

/-- The digit loop of `ParseUint` for base 10, from the accumulated value `n`. -/
def parseUintFrom (n : Nat) : Bytes → Nat × Option NumError
  | [] => (n, none)
  | c :: rest =>
      if !isDigit c then (0, some .errSyntax)
      else if maxUint64 / 10 + 1 ≤ n then (maxUint64, some .errRange)
      else if maxUint64 < n * 10 + (c.toNat - 48) then (maxUint64, some .errRange)
      else parseUintFrom (n * 10 + (c.toNat - 48)) rest

/-- `strconv.ParseUint(s, 10, 64)`. -/
def parseUint : Bytes → Nat × Option NumError
  | [] => (0, some .errSyntax)
  | s => parseUintFrom 0 s

/-- `strconv.ParseInt(s, 10, 0)`: the sign, then `ParseUint` and the range check. -/
def parseInt : Bytes → Int × Option NumError
  | [] => (0, some .errSyntax)
  | c :: rest =>
      let neg := c == 45
      let body := if c == 43 || c == 45 then rest else c :: rest
      match parseUint body with
      | (_, some .errSyntax) => (0, some .errSyntax)
      | (un, _) =>
          let cutoff : Nat := 9223372036854775808
          if !neg && cutoff ≤ un then ((cutoff - 1 : Nat), some .errRange)
          else if neg && cutoff < un then (-(cutoff : Int), some .errRange)
          else ((if neg then -(un : Int) else un), none)

/-- The digit loop of `Atoi`'s fast path; `ch -= '0'` wraps as a byte. -/
def fastDigits (n : Nat) : Bytes → Option Nat
  | [] => some n
  | c :: rest => if 9 < c - 48 then none else fastDigits (n * 10 + (c - 48).toNat) rest

/-- `strconv.Atoi`: the fast path for `0 < len(s) < 19`, else `ParseInt`. -/
def atoi (s : Bytes) : Int × Option NumError :=
  match s with
  | c :: rest =>
      if s.length < 19 then
        let body := if c == 43 || c == 45 then rest else s
        if body.isEmpty then (0, some .errSyntax)
        else
          match fastDigits 0 body with
          | none => (0, some .errSyntax)
          | some n => ((if c == 45 then -(n : Int) else n), none)
      else parseInt s
  | [] => parseInt s

/-! ## Decimals of natural numbers -/

/-- The byte `fmt` writes for the decimal digit `d`. -/
def digitByte (d : Nat) : UInt8 := (48 + d).toUInt8

/-- The value of decimal digits, most significant first, read after `acc`. -/
def digitsValue (acc : Nat) (digits : List Nat) : Nat := digits.foldl (fun a d => a * 10 + d) acc

theorem digitsValue_cons (acc d : Nat) (digits : List Nat) :
    digitsValue acc (d :: digits) = digitsValue (acc * 10 + d) digits := rfl

theorem le_digitsValue (acc : Nat) (digits : List Nat) : acc ≤ digitsValue acc digits := by
  induction digits generalizing acc with
  | nil => exact le_rfl
  | cons d rest ih => exact le_trans (by omega) (ih (acc * 10 + d))

/-- What a digit byte is, for every digit. -/
theorem digitByte_facts : ∀ d < 10, isDigit (digitByte d) = true ∧ ¬9 < digitByte d - 48 ∧
    (digitByte d - 48).toNat = d ∧ (digitByte d).toNat - 48 = d ∧ digitByte d ≠ 43 ∧
      digitByte d ≠ 45 := by
  decide

/-- `Nat.toDigits` writes the digits of `n`, most significant first. -/
theorem toDigitsCore_digits : ∀ fuel n (ds : List Char), n < fuel →
    ∃ digits, Nat.toDigitsCore 10 fuel n ds = digits.map Nat.digitChar ++ ds ∧ digits ≠ [] ∧
      (∀ d ∈ digits, d < 10) ∧ digitsValue 0 digits = n
  | 0, _, _, small => absurd small (Nat.not_lt_zero _)
  | fuel + 1, n, ds, small => by
      have unfolded : Nat.toDigitsCore 10 (fuel + 1) n ds =
          if n / 10 = 0 then Nat.digitChar (n % 10) :: ds
          else Nat.toDigitsCore 10 fuel (n / 10) (Nat.digitChar (n % 10) :: ds) := rfl
      rw [unfolded]
      split
      · rename_i last
        exact ⟨[n % 10], rfl, by simp, by simp [Nat.mod_lt], by
          simp [digitsValue]; omega⟩
      · rename_i more
        obtain ⟨digits, eq, _, below, value⟩ :=
          toDigitsCore_digits fuel (n / 10) (Nat.digitChar (n % 10) :: ds) (by omega)
        refine ⟨digits ++ [n % 10], by simp [eq], by simp, fun d mem => ?_, ?_⟩
        · rcases List.mem_append.1 mem with mem | mem
          · exact below d mem
          · simp only [List.mem_singleton] at mem; omega
        · simp only [digitsValue, List.foldl_append, List.foldl_cons, List.foldl_nil] at value ⊢
          rw [value]; omega

/-- `fmt.Sprintf("%d", n)` for a natural number: its decimal digits. -/
theorem itoa_ofNat (n : Nat) : ∃ digits, itoa n = digits.map digitByte ∧ digits ≠ [] ∧
    (∀ d ∈ digits, d < 10) ∧ digitsValue 0 digits = n := by
  obtain ⟨digits, eq, nonempty, below, value⟩ := toDigitsCore_digits (n + 1) n [] (by omega)
  refine ⟨digits, ?_, nonempty, below, value⟩
  have chars : ∀ d ∈ digits, (Nat.digitChar d).toNat.toUInt8 = digitByte d := fun d mem => by
    have : ∀ d < 10, (Nat.digitChar d).toNat = 48 + d := by decide
    rw [this d (below d mem)]; rfl
  show (Nat.toDigitsCore 10 (n + 1) n []).map (fun c => c.toNat.toUInt8) = _
  rw [eq, List.append_nil, List.map_map]
  exact List.map_congr_left chars

theorem fastDigits_digits (acc : Nat) {digits : List Nat} (below : ∀ d ∈ digits, d < 10) :
    fastDigits acc (digits.map digitByte) = some (digitsValue acc digits) := by
  induction digits generalizing acc with
  | nil => rfl
  | cons d rest ih =>
      obtain ⟨-, small, value, -⟩ := digitByte_facts d (below d (List.mem_cons_self _ _))
      simp only [List.map_cons, fastDigits, small, if_false, value]
      exact ih (acc * 10 + d) fun d' mem => below d' (List.mem_cons_of_mem _ mem)

theorem parseUintFrom_digits (acc : Nat) {digits : List Nat} (below : ∀ d ∈ digits, d < 10)
    (fits : digitsValue acc digits < 9223372036854775808) :
    parseUintFrom acc (digits.map digitByte) = (digitsValue acc digits, none) := by
  induction digits generalizing acc with
  | nil => rfl
  | cons d rest ih =>
      obtain ⟨digit, -, -, value, -⟩ := digitByte_facts d (below d (List.mem_cons_self _ _))
      have bound := le_digitsValue (acc * 10 + d) rest
      rw [digitsValue_cons] at fits ⊢
      have : ¬maxUint64 / 10 + 1 ≤ acc := by unfold maxUint64; omega
      have : ¬maxUint64 < acc * 10 + d := by unfold maxUint64; omega
      simp only [List.map_cons, parseUintFrom, digit, value, Bool.not_true, Bool.false_eq_true,
        if_false, *]
      exact ih (acc * 10 + d) (fun d' mem => below d' (List.mem_cons_of_mem _ mem)) fits

/-- `strconv.Atoi` reads back what `fmt` wrote for a natural number below `2^63`. -/
theorem atoi_itoa {n : Nat} (fits : n < 9223372036854775808) : atoi (itoa n) = ((n : Int), none) := by
  obtain ⟨digits, eq, nonempty, below, value⟩ := itoa_ofNat n
  obtain ⟨d, rest, rfl⟩ := List.exists_cons_of_ne_nil nonempty
  obtain ⟨-, -, -, -, plus, minus⟩ := digitByte_facts d (below d (List.mem_cons_self _ _))
  rw [eq, List.map_cons]
  unfold atoi
  split_ifs with short
  · simp [plus, minus, ← List.map_cons, fastDigits_digits 0 below, value]
  · simp [parseInt, parseUint, plus, minus, ← List.map_cons,
      parseUintFrom_digits 0 below (value ▸ fits), value, Nat.not_le.2 fits]

end Skewer.Go
