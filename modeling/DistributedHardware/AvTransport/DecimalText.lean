import DistributedHardware.AvTransport.TransPlugins

/-!
The numbers that `atoi` and `std::stoll` read in a text, and the texts that
`std::to_string` writes: what is written is read back.
-/

namespace DistributedHardware

inductive StollException
  | invalidArgument | outOfRange
  deriving DecidableEq

/-- Whether a number stands at the start of a text, after blanks and a sign. -/
def startsWithNumber (s : String) : Bool :=
  let digit (cs : List Char) : Bool := (cs.head?.map Char.isDigit).getD false
  match s.toList.dropWhile Char.isWhitespace with
  | '-' :: cs => digit cs
  | '+' :: cs => digit cs
  | cs => digit cs

/-- `std::stoll`. -/
def stoll (s : String) : Except StollException Int64 :=
  if !startsWithNumber s then .error .invalidArgument
  else if atoi s < Int64.minValue.toInt || Int64.maxValue.toInt < atoi s then .error .outOfRange
  else .ok (Int64.ofInt (atoi s))

/-- The text of a number is a digit and more digits. -/
theorem exists_toDigits (n : Nat) : ∃ c cs, (toString n).toList = c :: cs ∧
    Nat.ofDigitChars 10 (c :: cs) 0 = n ∧ ∀ d ∈ c :: cs, d.isDigit = true := by
  have text : (toString n).toList = Nat.toDigits 10 n := by
    rw [Nat.toString_eq_repr, Nat.toList_repr]
  cases digits : Nat.toDigits 10 n with
  | nil => exact absurd digits Nat.toDigits_ne_nil
  | cons c cs =>
      refine ⟨c, cs, text.trans digits, ?_, fun d mem => ?_⟩
      · rw [← digits, Nat.ofDigitChars_ten_toDigits]
      · exact Nat.isDigit_of_mem_toDigits (by decide) (by decide) (digits ▸ mem)

theorem foldl_digits {cs : List Char} (digits : ∀ c ∈ cs, c.isDigit = true) (n : Nat) :
    cs.foldl (fun (n : Int) c => 10 * n + (c.toNat - '0'.toNat)) n = Nat.ofDigitChars 10 cs n := by
  induction cs generalizing n with
  | nil => rfl
  | cons c cs ih =>
      have digit : 48 ≤ c.toNat := by
        have := digits c List.mem_cons_self
        simp only [Char.isDigit, Bool.and_eq_true, decide_eq_true_eq] at this
        exact this.1
      have next : (10 * (n : Int) + (c.toNat - '0'.toNat)) =
          ((10 * n + (c.toNat - '0'.toNat) : Nat) : Int) := by
        have zero : '0'.toNat = 48 := rfl
        omega
      rw [List.foldl_cons, next, ih (fun d mem => digits d (List.mem_cons_of_mem c mem)),
        Nat.ofDigitChars_cons]

theorem digit_ne {c : Char} (digit : c.isDigit = true) :
    c.isWhitespace = false ∧ c ≠ '-' ∧ c ≠ '+' ∧ c ≠ Char.ofNat 0 := by
  simp only [Char.isDigit, Bool.and_eq_true, decide_eq_true_eq] at digit
  refine ⟨?_, ?_, ?_, ?_⟩
  · by_contra blank
    rw [Bool.not_eq_false] at blank
    simp only [Char.isWhitespace, Bool.or_eq_true, decide_eq_true_eq] at blank
    rcases blank with ((rfl | rfl) | rfl) | rfl <;> revert digit <;> decide
  all_goals
    rintro rfl
    revert digit
    decide

section Numbers
variable {s : String} {c : Char} {cs : List Char}

theorem atoi_of_digits (text : s.toList = c :: cs) (digits : ∀ d ∈ c :: cs, d.isDigit = true) :
    atoi s = Nat.ofDigitChars 10 (c :: cs) 0 := by
  have ne := digit_ne (digits c List.mem_cons_self)
  unfold atoi
  rw [text, List.dropWhile_cons_of_neg (by rw [ne.1]; exact Bool.false_ne_true)]
  split
  · rename_i minus
    exact absurd (List.cons.inj minus).1 ne.2.1
  · rename_i plus
    exact absurd (List.cons.inj plus).1 ne.2.2.1
  · dsimp only
    rw [List.takeWhile_eq_self_iff.mpr digits]
    exact foldl_digits digits 0

theorem startsWithNumber_of_digits (text : s.toList = c :: cs)
    (digits : ∀ d ∈ c :: cs, d.isDigit = true) : startsWithNumber s = true := by
  have ne := digit_ne (digits c List.mem_cons_self)
  unfold startsWithNumber
  rw [text, List.dropWhile_cons_of_neg (by rw [ne.1]; exact Bool.false_ne_true)]
  split
  · rename_i minus
    exact absurd (List.cons.inj minus).1 ne.2.1
  · rename_i plus
    exact absurd (List.cons.inj plus).1 ne.2.2.1
  · exact digits c List.mem_cons_self

theorem atoi_of_minus (text : s.toList = '-' :: cs) (digits : ∀ d ∈ cs, d.isDigit = true) :
    atoi s = -Nat.ofDigitChars 10 cs 0 := by
  unfold atoi
  rw [text, List.dropWhile_cons_of_neg (by decide)]
  change -(List.takeWhile Char.isDigit cs).foldl
    (fun (n : Int) c => 10 * n + (c.toNat - '0'.toNat)) 0 = _
  rw [List.takeWhile_eq_self_iff.mpr digits]
  exact congrArg Neg.neg (foldl_digits digits 0)

theorem startsWithNumber_of_minus (text : s.toList = '-' :: c :: cs)
    (digit : c.isDigit = true) : startsWithNumber s = true := by
  unfold startsWithNumber
  rw [text, List.dropWhile_cons_of_neg (by decide)]
  exact digit

end Numbers

/-- The text of an integer has no NUL in it, starts with a number, and `atoi` reads it. -/
theorem number_toString (i : Int) :
    cStr (toString i) = toString i ∧ startsWithNumber (toString i) = true ∧
      atoi (toString i) = i := by
  rw [Int.toString_eq_repr, Int.repr_eq_if]
  split
  · rename_i nonneg
    obtain ⟨c, cs, text, value, digits⟩ := exists_toDigits i.toNat
    rw [Nat.toString_eq_repr] at text
    refine ⟨?_, startsWithNumber_of_digits text digits, ?_⟩
    · rw [DhTransport.cStr_eq_self_iff, text]
      exact fun mem => (digit_ne (digits _ mem)).2.2.2 rfl
    · rw [atoi_of_digits text digits, value]
      omega
  · rename_i negative
    obtain ⟨c, cs, text, value, digits⟩ := exists_toDigits (-i).toNat
    have minus : ("-" ++ (-i).toNat.repr).toList = '-' :: c :: cs := by
      rw [String.toList_append, ← Nat.toString_eq_repr, text]
      rfl
    refine ⟨?_, startsWithNumber_of_minus minus (digits c List.mem_cons_self), ?_⟩
    · rw [DhTransport.cStr_eq_self_iff, minus]
      intro mem
      cases List.mem_cons.mp mem with
      | inl same => exact absurd same (by decide)
      | inr mem => exact (digit_ne (digits _ mem)).2.2.2 rfl
    · rw [atoi_of_minus minus digits, value]
      omega

theorem stoll_toString {i : Int} (lower : Int64.minValue.toInt ≤ i)
    (upper : i ≤ Int64.maxValue.toInt) : stoll (cStr (toString i)) = .ok (Int64.ofInt i) := by
  have number := number_toString i
  unfold stoll
  rw [number.1, number.2.1, number.2.2, Bool.not_true, if_neg Bool.false_ne_true, if_neg]
  rw [Bool.or_eq_true, decide_eq_true_eq, decide_eq_true_eq]
  omega

theorem toString_natCast (n : Nat) : toString (n : Int) = toString n := by
  rw [Int.toString_eq_repr, Int.repr_eq_if, if_pos (Int.natCast_nonneg n), Int.toNat_natCast,
    Nat.toString_eq_repr]

theorem toString_toNat_inj {a b : Nat} (same : toString a = toString b) : a = b := by
  have number := number_toString a
  rw [toString_natCast, same, ← toString_natCast, (number_toString b).2.2] at number
  exact Int.ofNat.inj number.2.2.symm

end DistributedHardware
