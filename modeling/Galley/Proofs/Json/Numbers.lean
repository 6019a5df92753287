import Galley.Json.Parser
import Galley.Json.Printer
import Mathlib.Data.List.Basic
import Mathlib.Data.List.TakeWhile

/-!
This module contains JSON numbers: what follows a number does not change how it is read unless it
could be a part of it, and an integer of 64 bits is read back from its digits.
-/

namespace Galley.Json

/-- What cannot continue a number. -/
structure Stops (rest : List Char) : Prop where
  digit : ∀ c ∈ rest.head?, isDigit c = false
  point : ∀ c ∈ rest.head?, c ≠ '.'
  exponent : ∀ c ∈ rest.head?, (c == 'e' || c == 'E') = false

theorem Stops.nil : Stops [] where
  digit := by simp
  point := by simp
  exponent := by simp

theorem Stops.cons {c : Char} (hdigit : isDigit c = false) (hpoint : c ≠ '.')
    (hexponent : (c == 'e' || c == 'E') = false) (rest : List Char) : Stops (c :: rest) where
  digit := by simpa using hdigit
  point := by simpa using hpoint
  exponent := by simpa using hexponent

/-- A minus and what follows it. -/
def minus (cs : List Char) : Bool × List Char :=
  match cs with
  | '-' :: rest => (true, rest)
  | _ => (false, cs)

/-- The digits before the point. -/
def whole? (cs : List Char) : Option (List Char × List Char) :=
  match cs with
  | '0' :: rest => some (['0'], rest)
  | _ =>
    let digits := cs.takeWhile isDigit
    if digits.isEmpty then none else some (digits, cs.dropWhile isDigit)

/-- The sign of an exponent and what follows it. -/
def sign (cs : List Char) : Bool × List Char :=
  match cs with
  | '-' :: rest => (true, rest)
  | '+' :: rest => (false, rest)
  | _ => (false, cs)

theorem minus_of_ne {cs : List Char} (h : ∀ tail, cs = '-' :: tail → False)
    : minus cs = (false, cs) := by
  unfold minus
  split
  next tail => exact (h tail rfl).elim
  next => rfl

theorem whole?_of_ne {cs : List Char} (h : ∀ tail, cs = '0' :: tail → False)
    : whole? cs =
        if (cs.takeWhile isDigit).isEmpty then none
        else some (cs.takeWhile isDigit, cs.dropWhile isDigit) := by
  unfold whole?
  split
  next tail => exact (h tail rfl).elim
  next => rfl

theorem number?_eq (cs : List Char)
    : number? cs =
        (whole? (minus cs).2).bind fun (whole, afterWhole) =>
          (fraction? afterWhole).bind fun (fraction, afterFraction) =>
            (exponent? afterFraction).bind fun (exponent, rest) =>
              some (numberValue (minus cs).1 whole fraction exponent, rest) := by
  by_cases hminus : ∃ tail, cs = '-' :: tail
  . obtain ⟨tail, rfl⟩ := hminus
    have hsign : minus ('-' :: tail) = (true, tail) := rfl
    rw [hsign]
    by_cases hzero : ∃ more, tail = '0' :: more
    . obtain ⟨more, rfl⟩ := hzero
      rfl
    . have hne : ∀ more, tail = '0' :: more → False := fun more h => hzero ⟨more, h⟩
      rw [number?.eq_2 tail hne, whole?_of_ne hne]
      split <;> rfl
  . have hsign : ∀ tail, cs = '-' :: tail → False := fun tail h => hminus ⟨tail, h⟩
    rw [minus_of_ne hsign]
    by_cases hzero : ∃ tail, cs = '0' :: tail
    . obtain ⟨tail, rfl⟩ := hzero
      rfl
    . have hne : ∀ tail, cs = '0' :: tail → False := fun tail h => hzero ⟨tail, h⟩
      rw [number?.eq_4 cs hsign hne, whole?_of_ne hne]
      split <;> rfl

theorem number?_eq_some_iff (cs after : List Char) (j : Json)
    : number? cs = some (j, after) ↔
        ∃ whole afterWhole fraction afterFraction exponent,
          whole? (minus cs).2 = some (whole, afterWhole) ∧
          fraction? afterWhole = some (fraction, afterFraction) ∧
          exponent? afterFraction = some (exponent, after) ∧
          numberValue (minus cs).1 whole fraction exponent = j := by
  rw [number?_eq]
  simp only [Option.bind_eq_some_iff, Prod.exists, Option.some.injEq, Prod.mk.injEq]
  constructor
  . rintro ⟨whole, afterWhole, hwhole, fraction, afterFraction, hfraction, exponent, rest,
      hexponent, hvalue, rfl⟩
    exact ⟨whole, afterWhole, fraction, afterFraction, exponent, hwhole, hfraction, hexponent,
      hvalue⟩
  . rintro ⟨whole, afterWhole, fraction, afterFraction, exponent, hwhole, hfraction, hexponent,
      hvalue⟩
    exact ⟨whole, afterWhole, hwhole, fraction, afterFraction, hfraction, exponent, after,
      hexponent, hvalue, rfl⟩

theorem whole?_start {cs after whole : List Char} (h : whole? cs = some (whole, after))
    : ∃ c tail, cs = c :: tail ∧ isDigit c = true := by
  cases cs with
  | nil => contradiction
  | cons c tail =>
    refine ⟨c, tail, rfl, ?_⟩
    by_cases hzero : c = '0'
    . rw [hzero]
      rfl
    . rw [whole?_of_ne fun _ h => hzero (List.cons.inj h).1] at h
      split at h
      . contradiction
      next hdigits =>
        rw [List.takeWhile_cons] at hdigits
        split at hdigits
        . assumption
        . exact absurd rfl hdigits

/-- A number begins with a digit or a minus. -/
theorem number?_start {cs after : List Char} {j : Json} (h : number? cs = some (j, after))
    : ∃ c tail, cs = c :: tail ∧ (c = '-' ∨ isDigit c = true) := by
  rw [number?_eq_some_iff] at h
  obtain ⟨whole, afterWhole, -, -, -, hwhole, -⟩ := h
  by_cases hminus : ∃ tail, cs = '-' :: tail
  . obtain ⟨tail, rfl⟩ := hminus
    exact ⟨'-', tail, rfl, .inl rfl⟩
  . rw [minus_of_ne fun tail h => hminus ⟨tail, h⟩] at hwhole
    obtain ⟨c, tail, hcs, hc⟩ := whole?_start hwhole
    exact ⟨c, tail, hcs, .inr hc⟩

section Parts

theorem fraction?_point (tail : List Char)
    : fraction? ('.' :: tail) =
        if (tail.takeWhile isDigit).isEmpty then none
        else some (some (tail.takeWhile isDigit), tail.dropWhile isDigit) := by
  rfl

theorem exponent?_mark {c : Char} (h : (c == 'e' || c == 'E') = true) (tail : List Char)
    : exponent? (c :: tail) =
        if ((sign tail).2.takeWhile isDigit).isEmpty then none
        else
          let size : Int := digitsValue ((sign tail).2.takeWhile isDigit)
          some (some (if (sign tail).1 then -size else size), (sign tail).2.dropWhile isDigit) := by
  unfold exponent?
  dsimp only
  rw [if_pos h]
  rfl

theorem fraction?_of_head {cs : List Char} (h : ∀ c ∈ cs.head?, c ≠ '.')
    : fraction? cs = some (none, cs) := by
  unfold fraction?
  split
  . exact absurd rfl (h '.' rfl)
  . rfl

theorem exponent?_of_head {cs : List Char} (h : ∀ c ∈ cs.head?, (c == 'e' || c == 'E') = false)
    : exponent? cs = some (none, cs) := by
  unfold exponent?
  split
  next c rest =>
    rw [if_neg]
    rw [h c rfl]
    exact Bool.false_ne_true
  . rfl

variable {rest : List Char} (hstops : Stops rest)
include hstops

theorem takeWhile_isDigit_append (cs : List Char)
    : (cs ++ rest).takeWhile isDigit = cs.takeWhile isDigit := by
  have hrest : rest.takeWhile isDigit = [] := by
    cases rest with
    | nil => rfl
    | cons c rest => exact List.takeWhile_cons_of_neg (by simp [hstops.digit c rfl])
  rw [List.takeWhile_append, hrest, List.append_nil]
  split
  next hlength => exact ((List.takeWhile_prefix _).eq_of_length hlength).symm
  next => rfl

theorem dropWhile_isDigit_append (cs : List Char)
    : (cs ++ rest).dropWhile isDigit = cs.dropWhile isDigit ++ rest := by
  have hrest : rest.dropWhile isDigit = rest := by
    cases rest with
    | nil => rfl
    | cons c rest => exact List.dropWhile_cons_of_neg (by simp [hstops.digit c rfl])
  rw [List.dropWhile_append, hrest]
  split
  next hempty => rw [List.isEmpty_iff.mp hempty, List.nil_append]
  next => rfl

theorem fraction?_append {cs after : List Char} {fraction : Option (List Char)}
    (h : fraction? cs = some (fraction, after))
    : fraction? (cs ++ rest) = some (fraction, after ++ rest) := by
  by_cases hhead : ∀ c ∈ cs.head?, c ≠ '.'
  . rw [fraction?_of_head hhead] at h
    injection h with h
    injection h with hfraction hafter
    rw [← hfraction, ← hafter]
    apply fraction?_of_head
    cases cs with
    | nil => exact hstops.point
    | cons => exact hhead
  . cases cs with
    | nil => simp at hhead
    | cons c tail =>
      obtain rfl : c = '.' := by simpa using hhead
      rw [fraction?_point] at h
      rw [List.cons_append, fraction?_point, takeWhile_isDigit_append hstops,
        dropWhile_isDigit_append hstops]
      split at h
      . contradiction
      next hdigits =>
        injection h with h
        injection h with hfraction hafter
        rw [if_neg hdigits, hfraction, hafter]

omit hstops in
theorem sign_append {cs : List Char} (h : cs ≠ []) (rest : List Char)
    : sign (cs ++ rest) = ((sign cs).1, (sign cs).2 ++ rest) := by
  cases cs with
  | nil => contradiction
  | cons c tail =>
    by_cases hminus : c = '-'
    . rw [hminus]
      rfl
    by_cases hplus : c = '+'
    . rw [hplus]
      rfl
    have hnone : ∀ tail, sign (c :: tail) = (false, c :: tail) := by
      intro tail
      unfold sign
      split <;> simp_all
    rw [List.cons_append, hnone, hnone]
    rfl

theorem exponent?_append {cs after : List Char} {exponent : Option Int}
    (h : exponent? cs = some (exponent, after))
    : exponent? (cs ++ rest) = some (exponent, after ++ rest) := by
  by_cases hhead : ∀ c ∈ cs.head?, (c == 'e' || c == 'E') = false
  . rw [exponent?_of_head hhead] at h
    injection h with h
    injection h with hexponent hafter
    rw [← hexponent, ← hafter]
    apply exponent?_of_head
    cases cs with
    | nil => exact hstops.exponent
    | cons => exact hhead
  . cases cs with
    | nil => simp at hhead
    | cons c tail =>
      have hmark : (c == 'e' || c == 'E') = true := by
        rw [← Bool.not_eq_false]
        intro hmark
        apply hhead
        simpa using hmark
      rw [exponent?_mark hmark] at h
      split at h
      . contradiction
      next hdigits =>
        have htail : tail ≠ [] := by
          intro hnil
          rw [hnil] at hdigits
          exact hdigits rfl
        injection h with h
        injection h with hexponent hafter
        rw [List.cons_append, exponent?_mark hmark, sign_append htail,
          takeWhile_isDigit_append hstops, dropWhile_isDigit_append hstops, if_neg hdigits]
        dsimp only
        rw [hexponent, hafter]

theorem whole?_append {cs after whole : List Char} (h : whole? cs = some (whole, after))
    : whole? (cs ++ rest) = some (whole, after ++ rest) := by
  cases cs with
  | nil => contradiction
  | cons c tail =>
    by_cases hzero : c = '0'
    . rw [hzero] at h ⊢
      have heq : ∀ tail, whole? ('0' :: tail) = some (['0'], tail) := fun _ => rfl
      rw [heq] at h
      injection h with h
      injection h with hwhole hafter
      rw [List.cons_append, heq, hwhole, hafter]
    . have hne : ∀ cs more, c :: cs = '0' :: more → False := fun _ _ h => hzero (List.cons.inj h).1
      rw [whole?_of_ne (hne _)] at h
      rw [List.cons_append, whole?_of_ne (hne _), ← List.cons_append,
        takeWhile_isDigit_append hstops, dropWhile_isDigit_append hstops]
      split at h
      . contradiction
      next hdigits =>
        injection h with h
        injection h with hwhole hafter
        rw [if_neg hdigits, hwhole, hafter]

omit hstops in
theorem minus_append {cs : List Char} (h : cs ≠ []) (rest : List Char)
    : minus (cs ++ rest) = ((minus cs).1, (minus cs).2 ++ rest) := by
  cases cs with
  | nil => contradiction
  | cons c tail =>
    by_cases hminus : c = '-'
    . rw [hminus]
      rfl
    have hne : ∀ cs more, c :: cs = '-' :: more → False := fun _ _ h => hminus (List.cons.inj h).1
    rw [List.cons_append, minus_of_ne (hne _), minus_of_ne (hne _)]
    rfl

/-- A number is read alike in front of whatever cannot continue it. -/
theorem number?_append {cs after : List Char} {j : Json} (h : number? cs = some (j, after))
    : number? (cs ++ rest) = some (j, after ++ rest) := by
  rw [number?_eq_some_iff] at h
  obtain ⟨whole, afterWhole, fraction, afterFraction, exponent, hwhole, hfraction, hexponent,
    hvalue⟩ := h
  have hcs : cs ≠ [] := by
    intro hnil
    rw [hnil] at hwhole
    contradiction
  rw [number?_eq_some_iff, minus_append hcs]
  exact ⟨whole, afterWhole ++ rest, fraction, afterFraction ++ rest, exponent,
    whole?_append hstops hwhole, fraction?_append hstops hfraction,
    exponent?_append hstops hexponent, hvalue⟩

end Parts

section Integers

theorem digitsValue_toDigits (n : Nat) : digitsValue (Nat.toDigits 10 n) = n := by
  have hvalue : ∀ digits : List Char, digitsValue digits = Nat.ofDigitChars 10 digits 0 := by
    intro digits
    unfold digitsValue
    rw [Nat.ofDigitChars_eq_foldl]
    simp only [Nat.mul_comm]
    rfl
  rw [hvalue, Nat.ofDigitChars_toDigits (by omega) (by omega)]

theorem isDigit_of_mem_toDigits {n : Nat} {c : Char} (h : c ∈ Nat.toDigits 10 n)
    : isDigit c = true :=
  Nat.isDigit_of_mem_toDigits (by omega) (by omega) h

theorem head?_toDigits_ne {n : Nat} (h : 0 < n) : (Nat.toDigits 10 n).head? ≠ some '0' := by
  induction n using Nat.strongRecOn with
  | ind n ih =>
    rw [Nat.toDigits_eq_if (by omega)]
    split
    next hlt =>
      rw [List.head?_cons, Ne, Option.some_inj, Nat.digitChar_eq_zero]
      omega
    next hle =>
      rw [List.head?_append_of_ne_nil _ Nat.toDigits_ne_nil]
      exact ih (n / 10) (by omega) (by omega)

theorem head?_toDigits_of_append {n : Nat} {c : Char} {rest tail : List Char}
    (h : Nat.toDigits 10 n ++ rest = c :: tail) : (Nat.toDigits 10 n).head? = some c := by
  have hhead := congrArg List.head? h
  rw [List.head?_append_of_ne_nil _ Nat.toDigits_ne_nil] at hhead
  exact hhead

variable {rest : List Char} (hstops : Stops rest)
include hstops

theorem whole?_toDigits (n : Nat)
    : whole? (Nat.toDigits 10 n ++ rest) = some (Nat.toDigits 10 n, rest) := by
  by_cases hn : n = 0
  . rw [hn, Nat.toDigits_zero]
    rfl
  . have hdigits : (Nat.toDigits 10 n).takeWhile isDigit = Nat.toDigits 10 n := by
      rw [List.takeWhile_eq_self_iff]
      exact fun c hc => isDigit_of_mem_toDigits hc
    have hbehind : (Nat.toDigits 10 n).dropWhile isDigit = [] := by
      rw [List.dropWhile_eq_nil_iff]
      exact fun c hc => isDigit_of_mem_toDigits hc
    rw [whole?_of_ne, takeWhile_isDigit_append hstops, dropWhile_isDigit_append hstops, hdigits,
      hbehind, if_neg, List.nil_append]
    . rw [List.isEmpty_iff]
      exact Nat.toDigits_ne_nil
    . intro tail htail
      exact head?_toDigits_ne (Nat.pos_of_ne_zero hn) (head?_toDigits_of_append htail)

omit hstops in
theorem minus_toDigits (n : Nat)
    : minus (Nat.toDigits 10 n ++ rest) = (false, Nat.toDigits 10 n ++ rest) := by
  apply minus_of_ne
  intro tail htail
  have hdigit := isDigit_of_mem_toDigits (List.mem_of_mem_head? (head?_toDigits_of_append htail))
  contradiction

theorem number?_nat {n : Nat} (h : n < UInt64.size)
    : number? (Nat.toDigits 10 n ++ rest) = some (.int n, rest) := by
  rw [number?_eq, minus_toDigits]
  dsimp only
  rw [whole?_toDigits hstops, Option.bind_some, fraction?_of_head hstops.point, Option.bind_some,
    exponent?_of_head hstops.exponent, Option.bind_some]
  dsimp only [numberValue]
  rw [digitsValue_toDigits, if_neg Bool.false_ne_true, if_pos (by exact_mod_cast h)]

theorem number?_neg {n : Nat} (hpos : 0 < n) (h : Int64.minValue.toInt ≤ -(n : Int))
    : number? ('-' :: (Nat.toDigits 10 n ++ rest)) = some (.int (-n), rest) := by
  have hminus : minus ('-' :: (Nat.toDigits 10 n ++ rest)) = (true, Nat.toDigits 10 n ++ rest) :=
    rfl
  rw [number?_eq, hminus]
  dsimp only
  rw [whole?_toDigits hstops, Option.bind_some, fraction?_of_head hstops.point, Option.bind_some,
    exponent?_of_head hstops.exponent, Option.bind_some]
  dsimp only [numberValue]
  rw [digitsValue_toDigits, if_pos rfl, if_neg]
  omega

/-- An integer of 64 bits, signed or unsigned, is read back. -/
theorem number?_toString {n : Int} (hlow : Int64.minValue.toInt ≤ n) (hhigh : n < UInt64.size)
    : number? ((toString n).toList ++ rest) = some (.int n, rest) := by
  cases n with
  | ofNat n =>
    have htext : (toString (Int.ofNat n)).toList = Nat.toDigits 10 n := Nat.toList_repr
    rw [htext]
    exact number?_nat hstops (Int.ofNat_lt.mp hhigh)
  | negSucc n =>
    have htext : (toString (Int.negSucc n)).toList = '-' :: Nat.toDigits 10 (n + 1) := by
      show ("-" ++ Nat.repr (n + 1)).toList = _
      rw [String.toList_append, Nat.toList_repr]
      rfl
    rw [htext, List.cons_append, number?_neg hstops n.succ_pos hlow]
    rfl

end Integers

section Doubles

/-- The double as which a double is read from its written form. -/
def reread? (x : Float) : Option Float :=
  match (Decimal.dataText? x).bind fun text => number? text.toList with
  | some (.float y, []) => some y
  | _ => none

theorem reread?_eq_some_iff (x y : Float)
    : reread? x = some y ↔
        ∃ text, Decimal.dataText? x = some text ∧ number? text.toList = some (.float y, []) := by
  unfold reread?
  constructor
  . intro h
    split at h
    next z hread =>
      injection h with h
      rw [← h]
      exact Option.bind_eq_some_iff.mp hread
    next => contradiction
  . rintro ⟨text, htext, hread⟩
    rw [htext, Option.bind_some, hread]

end Doubles

end Galley.Json
