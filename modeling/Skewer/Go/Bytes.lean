import Mathlib.Data.List.Basic

/-!
# Byte slices and the runtime

Go's `[]byte` and `string` values are both read as lists of bytes. The
functions here are the parts of Go's `bytes` and `strings` packages that the
RELP handler and the binder call, together with Go's 64-bit `int` and the
runtime panics the modelled code can raise.
-/

namespace Skewer.Go

abbrev Bytes := List UInt8

/-- A Go literal read as its bytes; every literal the source uses is ASCII. -/
def ascii (text : String) : Bytes := text.toList.map fun c => c.toNat.toUInt8

/-- `fmt.Sprintf("%d", n)`. -/
def itoa (n : Int) : Bytes := ascii (toString n)

/-- The runtime errors of the modelled code. Each one ends the whole process. -/
inductive Panic where
  | indexOutOfRange
  | sliceBoundsOutOfRange
  | typeAssertion
  | sendOnClosedChannel
  | closeOfClosedChannel
  deriving DecidableEq, Repr

instance decidableEqExcept {ε α : Type} [DecidableEq ε] [DecidableEq α] :
    DecidableEq (Except ε α)
  | .error a, .error b => decidable_of_iff (a = b) (by simp)
  | .ok a, .ok b => decidable_of_iff (a = b) (by simp)
  | .error _, .ok _ => isFalse (by simp)
  | .ok _, .error _ => isFalse (by simp)

/-- `s[i]` on a Go slice. -/
def index {α : Type} : List α → Nat → Except Panic α
  | x :: _, 0 => .ok x
  | _ :: rest, i + 1 => index rest i
  | [], _ => .error .indexOutOfRange

/--
`s[low:high]`. Go bounds `high` by the capacity of `s`; every slice modelled
here is guarded so that a `high` it reaches is either within the length or
beyond any capacity, so the length is the bound.
-/
def slice {α : Type} (s : List α) (low high : Int) : Except Panic (List α) :=
  if 0 ≤ low ∧ low ≤ high ∧ high ≤ s.length then .ok ((s.take high.toNat).drop low.toNat)
  else .error .sliceBoundsOutOfRange

/-- The slice `s[0:len(w)]` of `w ++ rest`. -/
theorem slice_prefix (w rest : Bytes) : slice (w ++ rest) 0 w.length = .ok w := by
  rw [slice, if_pos (by rw [List.length_append]; omega)]
  simp

/-- The slice of the `m` that follows `w` and one byte. -/
theorem slice_after (w : Bytes) (b : UInt8) (m rest : Bytes) :
    slice (w ++ b :: (m ++ rest)) (w.length + 1) (w.length + 1 + m.length) = .ok m := by
  have low : ((w.length : Int) + 1).toNat = (w ++ [b]).length := by simp
  have high : ((w.length : Int) + 1 + m.length).toNat = (w ++ [b]).length + m.length := by
    simp
    omega
  rw [slice, if_pos (by simp only [List.length_append, List.length_cons]; omega), low, high,
    show w ++ b :: (m ++ rest) = (w ++ [b]) ++ (m ++ rest) by simp, List.take_append,
    List.drop_left, List.take_left]

/-- Go's `math.MaxUint64`, `2^64 - 1`. -/
def maxUint64 : Nat := 18446744073709551615

/-- Go's `int` on a 64-bit platform: arithmetic wraps modulo `2^64` into `[-2^63, 2^63)`. -/
def wrapInt (x : Int) : Int :=
  (x + 9223372036854775808) % 18446744073709551616 - 9223372036854775808

theorem wrapInt_of_fits {x : Int} (above : -9223372036854775808 ≤ x)
    (below : x < 9223372036854775808) : wrapInt x = x := by
  unfold wrapInt
  rw [Int.emod_eq_of_lt (by omega) (by omega)]
  omega

/-! ## `bytes` and `strings` -/

/-- `bytes.TrimLeft(s, cutset)`. -/
def trimLeft (cutset s : Bytes) : Bytes := s.dropWhile (cutset.contains ·)

/-- `bytes.Trim(s, cutset)`. -/
def trim (cutset s : Bytes) : Bytes :=
  ((trimLeft cutset s).reverse.dropWhile (cutset.contains ·)).reverse

/--
`strings.TrimSpace(s)` on a string whose white space is ASCII: tab, line
feed, vertical tab, form feed, carriage return and space.
-/
def trimSpace (s : Bytes) : Bytes := trim [9, 10, 11, 12, 13, 32] s

/-- `bytes.IndexAny(s, chars)`: the first index of a byte of `chars`, or `-1`. -/
def indexAny (s chars : Bytes) : Int :=
  if s.findIdx (chars.contains ·) < s.length then s.findIdx (chars.contains ·) else -1

/-- `bytes.IndexByte(s, c)`. -/
def indexByte (s : Bytes) (c : UInt8) : Int := indexAny s [c]

/-- The first byte of `chars` comes right after `w`. -/
theorem indexAny_append_cons {w chars : Bytes} (free : ∀ a ∈ w, chars.contains a = false) {b : UInt8}
    (hit : chars.contains b = true) (rest : Bytes) : indexAny (w ++ b :: rest) chars = w.length := by
  have skip : (w ++ b :: rest).findIdx (chars.contains ·) = w.length := by
    rw [List.findIdx_append, if_neg (by rw [List.findIdx_eq_length.2 free]; omega),
      List.findIdx_cons, hit, cond_true, Nat.zero_add]
  rw [indexAny, skip, if_pos (by simp)]

theorem indexAny_eq_neg_one {s chars : Bytes} (free : ∀ a ∈ s, chars.contains a = false) :
    indexAny s chars = -1 := by
  rw [indexAny, List.findIdx_eq_length.2 free, if_neg (Nat.lt_irrefl _)]

/-- The fields of `bytes.FieldsFunc` after a partial field `field`. -/
def fieldsFrom (sep : UInt8 → Bool) (field : Bytes) : Bytes → List Bytes
  | [] => if field.isEmpty then [] else [field]
  | b :: rest =>
      if sep b then
        if field.isEmpty then fieldsFrom sep [] rest
        else field :: fieldsFrom sep [] rest
      else fieldsFrom sep (field ++ [b]) rest

/-- `bytes.FieldsFunc(s, f)`: the maximal runs of bytes on which `f` is false. -/
def fieldsFunc (sep : UInt8 → Bool) (s : Bytes) : List Bytes := fieldsFrom sep [] s

/-- Bytes that are not separators extend the partial field. -/
theorem fieldsFrom_word (sep : UInt8 → Bool) {word : Bytes} (inside : ∀ b ∈ word, sep b = false)
    (field rest : Bytes) : fieldsFrom sep field (word ++ rest) = fieldsFrom sep (field ++ word) rest := by
  induction word generalizing field with
  | nil => simp
  | cons b word ih =>
      rw [List.cons_append, fieldsFrom, if_neg (by simp [inside b (List.mem_cons_self _ _)]),
        ih (fun x mem => inside x (List.mem_cons_of_mem _ mem))]
      simp

/-- A field, then a separator. -/
theorem fieldsFunc_field_sep {sep : UInt8 → Bool} {word : Bytes} (nonempty : word ≠ [])
    (inside : ∀ b ∈ word, sep b = false) {b : UInt8} (cut : sep b = true) (rest : Bytes) :
    fieldsFunc sep (word ++ b :: rest) = word :: fieldsFunc sep rest := by
  simp [fieldsFunc, fieldsFrom_word sep inside, fieldsFrom, cut, nonempty]

/-- Bytes that are not separators make one field, or none. -/
theorem fieldsFunc_word {sep : UInt8 → Bool} {word : Bytes} (inside : ∀ b ∈ word, sep b = false) :
    fieldsFunc sep word = if word = [] then [] else [word] := by
  simpa [fieldsFunc, fieldsFrom] using fieldsFrom_word sep inside [] []

theorem trimLeft_of_head {cutset : Bytes} {b : UInt8} (keep : cutset.contains b = false)
    (rest : Bytes) : trimLeft cutset (b :: rest) = b :: rest := by
  simp only [trimLeft, List.dropWhile_cons, keep, Bool.false_eq_true, if_false]

/-- Leading cutset bytes are dropped. -/
theorem trimLeft_append_cut {cutset sep : Bytes} (cut : ∀ b ∈ sep, cutset.contains b = true)
    (s : Bytes) : trimLeft cutset (sep ++ s) = trimLeft cutset s :=
  List.dropWhile_append_of_pos cut

theorem trimLeft_eq_nil {cutset s : Bytes} (cut : ∀ b ∈ s, cutset.contains b = true) :
    trimLeft cutset s = [] :=
  List.dropWhile_eq_nil_iff.2 cut

theorem trimLeft_trimLeft (cutset s : Bytes) :
    trimLeft cutset (trimLeft cutset s) = trimLeft cutset s := by
  have first := List.head?_dropWhile_not (cutset.contains ·) s
  cases kept : trimLeft cutset s with
  | nil => rfl
  | cons a rest =>
      rw [trimLeft] at kept
      rw [kept] at first
      exact trimLeft_of_head first rest

theorem trim_trimLeft (cutset s : Bytes) : trim cutset (trimLeft cutset s) = trim cutset s := by
  rw [trim, trimLeft_trimLeft, trim]

/-- Once a byte outside the cutset is reached, what follows is kept. -/
theorem trimLeft_append_of_ne_nil {cutset s : Bytes} (kept : trimLeft cutset s ≠ []) (rest : Bytes) :
    trimLeft cutset (s ++ rest) = trimLeft cutset s ++ rest := by
  rw [trimLeft, List.dropWhile_append, if_neg (by rw [List.isEmpty_iff]; exact kept)]
  rfl

/-- `Trim` of bytes that start and end outside the cutset, then only cutset bytes. -/
theorem trim_append_cut {cutset w tail : Bytes} (nonempty : w ≠ [])
    (first : ∀ a ∈ w.head?, cutset.contains a = false)
    (last : ∀ z ∈ w.getLast?, cutset.contains z = false)
    (cut : ∀ b ∈ tail, cutset.contains b = true) : trim cutset (w ++ tail) = w := by
  obtain ⟨a, mid, front⟩ := List.exists_cons_of_ne_nil nonempty
  obtain ⟨init, z, back⟩ := (List.eq_nil_or_concat w).resolve_left nonempty
  have kept : trimLeft cutset (w ++ tail) = w ++ tail := by
    rw [front, List.cons_append, trimLeft_of_head (first a (by simp [front]))]
  have dropped : (w ++ tail).reverse.dropWhile (cutset.contains ·) = w.reverse := by
    rw [List.reverse_append, List.dropWhile_append_of_pos (by simpa using cut), back,
      List.concat_eq_append, List.reverse_append, List.reverse_singleton, List.singleton_append,
      List.dropWhile_cons, if_neg (by simp only [last z (by simp [back]), Bool.false_eq_true,
        not_false_eq_true])]
  rw [trim, kept, dropped, List.reverse_reverse]

/-- `Trim` keeps bytes none of which is in the cutset. -/
theorem trim_of_plain {cutset w : Bytes} (plain : ∀ b ∈ w, cutset.contains b = false) :
    trim cutset w = w := by
  rcases w.eq_nil_or_concat with rfl | ⟨init, z, rfl⟩
  · rfl
  · have noTail : ∀ b ∈ ([] : Bytes), cutset.contains b = true := nofun
    simpa using trim_append_cut (by simp) (fun a mem => plain a (List.mem_of_mem_head? mem))
      (fun a mem => plain a (List.mem_of_mem_getLast? mem)) noTail

/-- A byte outside the cutset survives `Trim`. -/
theorem mem_trim {cutset s : Bytes} {b : UInt8} (mem : b ∈ s) (keep : cutset.contains b = false) :
    b ∈ trim cutset s := by
  have survives : ∀ l : Bytes, b ∈ l → b ∈ l.dropWhile (cutset.contains ·) := fun l => by
    induction l with
    | nil => simp
    | cons a l ih =>
        intro mem'
        rw [List.dropWhile_cons]
        split_ifs with drop
        · exact ih ((List.mem_cons.1 mem').resolve_left fun same => by rw [← same, keep] at drop; cases drop)
        · exact mem'
  simpa [trim, trimLeft] using survives _ (List.mem_reverse.2 (survives s mem))

/--
`bytes.SplitN(s, sep, n)` and `strings.SplitN` for a one-byte separator: at
most `n` pieces, the last one holding the unsplit rest.
-/
def splitN (sep : UInt8) : Nat → Bytes → List Bytes
  | 0, _ => []
  | 1, s => [s]
  | n + 2, s =>
      match s.span (· != sep) with
      | (head, []) => [head]
      | (head, _ :: rest) => head :: splitN sep (n + 1) rest

/-- `SplitN(s, sep, 2)` cuts at the first separator. -/
theorem splitN_two {sep : UInt8} {head : Bytes} (free : sep ∉ head) (rest : Bytes) :
    splitN sep 2 (head ++ sep :: rest) = [head, rest] := by
  have keep : ∀ b ∈ head, (b != sep) = true := fun b mem =>
    bne_iff_ne.2 (ne_of_mem_of_not_mem mem free)
  simp [splitN, List.span_eq_take_drop, List.takeWhile_append_of_pos keep,
    List.dropWhile_append_of_pos keep]

/-- A prefix of `a ++ b` is a prefix of `a`, or `a` followed by a prefix of `b`. -/
theorem prefix_append_cases {p a b : Bytes} (pre : p <+: a ++ b) :
    p <+: a ∨ ∃ q, q <+: b ∧ p = a ++ q := by
  induction a generalizing p with
  | nil => exact .inr ⟨p, by simpa using pre, rfl⟩
  | cons x a ih =>
      rcases List.prefix_cons_iff.1 pre with rfl | ⟨p', rfl, pre'⟩
      · exact .inl List.nil_prefix
      · rcases ih pre' with pre'' | ⟨q, preQ, rfl⟩
        · exact .inl ((List.prefix_cons_inj x).2 pre'')
        · exact .inr ⟨q, preQ, rfl⟩

/-- A prefix of `l ++ [x]` other than the whole is a prefix of `l`. -/
theorem prefix_of_prefix_concat {p l : Bytes} {x : UInt8} (pre : p <+: l ++ [x])
    (proper : p ≠ l ++ [x]) : p <+: l := by
  rcases prefix_append_cases pre with inL | ⟨r, last, rfl⟩
  · exact inL
  rcases List.prefix_cons_iff.1 last with rfl | ⟨t, rfl, empty⟩
  · simp
  · rw [List.prefix_nil.1 empty] at proper
    exact absurd rfl proper

/-- `strings.Split(s, sep)`: Go clamps the piece count to `len(s) + 1`. -/
def split (sep : UInt8) (s : Bytes) : List Bytes := splitN sep (s.length + 1) s

end Skewer.Go
