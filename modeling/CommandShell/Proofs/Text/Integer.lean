import CommandShell.Text.Integer

/-!
# Reading integers back

An integer in canonical decimal is read back as itself if it is in the range (`readSigned_decimal`).
While its digits are read the value only grows, so that no digit is refused before the last one if
the value itself is within the limit. A number that is not negative is written without a sign and
without leading zeros (`isNumeral_decimal`).
-/

namespace CommandShell.Text

/-- A number is at most what it becomes by appending digits. -/
theorem le_ofDigitChars (digits : List Char) (value : Nat) :
    value ≤ Nat.ofDigitChars 10 digits value := by
  induction digits generalizing value with
  | nil => exact Nat.le_refl value
  | cons c rest ih =>
    rw [Nat.ofDigitChars_cons]
    have hrest := ih (10 * value + (c.toNat - '0'.toNat))
    omega

/-- Digits are read as what they stand for if that is within the limit. -/
theorem readDigits_eq_ok {limit : Nat} {digits : List Char} {value : Nat}
    (hdigits : ∀ c ∈ digits, c.isDigit = true)
    (hlimit : Nat.ofDigitChars 10 digits value ≤ limit) :
    readDigits limit value digits = .ok (Nat.ofDigitChars 10 digits value) := by
  induction digits generalizing value with
  | nil => rfl
  | cons c rest ih =>
    rw [Nat.ofDigitChars_cons, Nat.mul_comm] at hlimit ⊢
    -- The value so far is at most the final one, so that this digit is not refused.
    have hvalue := Nat.le_trans (le_ofDigitChars rest _) hlimit
    rw [readDigits, if_pos (hdigits c List.mem_cons_self)]
    exact (if_pos hvalue).trans (ih (fun d hd => hdigits d (List.mem_cons_of_mem c hd)) hlimit)

theorem isDigit_of_mem_decimalDigits {n : Nat} {c : Char} (h : c ∈ decimalDigits n) :
    c.isDigit = true :=
  Nat.isDigit_of_mem_toDigits (by decide) (by decide) h

theorem decimalDigits_ne_nil (n : Nat) : decimalDigits n ≠ [] :=
  Nat.toDigits_ne_nil

/-- The digits of a number are read as the number if it is within the limit. -/
theorem readNatural_decimalDigits {limit n : Nat} (h : n ≤ limit) :
    readNatural limit (decimalDigits n) = .ok n := by
  have hvalue : Nat.ofDigitChars 10 (decimalDigits n) 0 = n := Nat.ofDigitChars_ten_toDigits
  rw [readNatural]
  · rw [readDigits_eq_ok fun c hc => isDigit_of_mem_decimalDigits hc]
    · rw [hvalue]
    · rwa [hvalue]
  · exact fun hnil => decimalDigits_ne_nil n hnil

/-- An integer is read back from its decimal text. -/
theorem readSigned_decimal {bound : Nat} {n : Int} (hlow : -bound ≤ n) (hhigh : n < bound) :
    readSigned bound (decimal n).toList = .ok n := by
  cases n with
  | ofNat n =>
    rw [decimal, String.toList_ofList]
    have hbound : (n : Int) < bound := hhigh
    have hread : readNatural (bound - 1) (decimalDigits n) = .ok n :=
      readNatural_decimalDigits (by omega)
    -- The first character is a digit, and no sign.
    rw [readSigned, hread]
    · rfl
    · exact fun hnil => decimalDigits_ne_nil n hnil
    all_goals
      intro rest hsign
      have hdigit := isDigit_of_mem_decimalDigits (hsign ▸ List.mem_cons_self)
      exact absurd hdigit (by decide)
  | negSucc n =>
    rw [decimal, String.toList_ofList, readSigned, readNatural_decimalDigits (by omega)]
    rfl

/-- An integer is written with digits and a minus sign. -/
theorem isDigit_of_mem_decimal {n : Int} {c : Char} (h : c ∈ (decimal n).toList) :
    c = '-' ∨ c.isDigit = true := by
  cases n with
  | ofNat n =>
    rw [decimal, String.toList_ofList] at h
    exact .inr (isDigit_of_mem_decimalDigits h)
  | negSucc n =>
    rw [decimal, String.toList_ofList] at h
    exact (List.mem_cons.mp h).imp_right isDigit_of_mem_decimalDigits

/-- The text is a number in canonical decimal: digits only, and none in front that could be left
out. -/
structure IsNumeral (text : String) (n : Nat) : Prop where
  ne_empty : text ≠ ""
  digits : ∀ c ∈ text.toList, c.isDigit = true
  no_leading_zero : text.toList.head? = some '0' → text = "0"
  value : Nat.ofDigitChars 10 text.toList 0 = n

/-- No number but 0 is written with a 0 in front. -/
theorem head?_decimalDigits {n : Nat} (hn : 0 < n) : (decimalDigits n).head? ≠ some '0' := by
  have hdigit : ∀ d < 10, 0 < d → d.digitChar ≠ '0' := by decide
  induction n using Nat.strongRecOn with
  | ind n ih =>
    rw [decimalDigits]
    by_cases hsmall : n < 10
    · rw [Nat.toDigits_of_lt_base hsmall, List.head?_singleton]
      exact fun hzero => hdigit n hsmall hn (Option.some.inj hzero)
    · -- The first digit is that of a tenth of the number, which is not 0 either.
      have htenth := ih (n / 10) (by omega) (by omega)
      rw [Nat.toDigits_of_base_le (by decide) (by omega)]
      cases hdigits : Nat.toDigits 10 (n / 10) with
      | nil => exact absurd hdigits Nat.toDigits_ne_nil
      | cons c rest =>
        rw [decimalDigits, hdigits] at htenth
        exact htenth

theorem isNumeral_decimal (n : Nat) : IsNumeral (decimal n) n := by
  have htext : (decimal n).toList = decimalDigits n := String.toList_ofList
  refine ⟨?_, ?_, ?_, ?_⟩
  · intro hempty
    rw [hempty] at htext
    exact decimalDigits_ne_nil n htext.symm
  · rw [htext]
    exact fun c => isDigit_of_mem_decimalDigits
  · intro hzero
    obtain rfl | hn := Nat.eq_zero_or_pos n
    · rfl
    · rw [htext] at hzero
      exact absurd hzero (head?_decimalDigits hn)
  · rw [htext]
    exact Nat.ofDigitChars_ten_toDigits

/-! ## Which texts are read -/

/-- The text consists of decimal digits, at least one, that stand for the number. Zeros may stand in
front. -/
structure IsNatural (digits : List Char) (n : Nat) : Prop where
  ne_nil : digits ≠ []
  isDigit : ∀ c ∈ digits, c.isDigit = true
  value : Nat.ofDigitChars 10 digits 0 = n

/-- The text consists of decimal digits that stand for the integer, with or without a sign in
front. -/
inductive IsInteger : List Char → Int → Prop
  | plain {digits : List Char} {n : Nat} (h : IsNatural digits n) : IsInteger digits n
  | plus {digits : List Char} {n : Nat} (h : IsNatural digits n) : IsInteger ('+' :: digits) n
  | minus {digits : List Char} {n : Nat} (h : IsNatural digits n) :
      IsInteger ('-' :: digits) (-(n : Int))

/-- No digit is a sign. -/
theorem IsNatural.not_sign {sign : Char} {digits : List Char} {n : Nat}
    (h : IsNatural (sign :: digits) n) (hsign : sign = '-' ∨ sign = '+') : False := by
  have hdigit := h.isDigit sign List.mem_cons_self
  rcases hsign with rfl | rfl
  · exact absurd hdigit (by decide)
  · exact absurd hdigit (by decide)

/-- An integer is written with digits and signs. -/
theorem IsInteger.isDigit_or_sign {text : List Char} {n : Int} (h : IsInteger text n) {c : Char}
    (hc : c ∈ text) : c.isDigit = true ∨ c = '+' ∨ c = '-' := by
  cases h with
  | plain h => exact .inl (h.isDigit c hc)
  | plus h =>
    rcases List.mem_cons.mp hc with rfl | hc
    · exact .inr (.inl rfl)
    · exact .inl (h.isDigit c hc)
  | minus h =>
    rcases List.mem_cons.mp hc with rfl | hc
    · exact .inr (.inr rfl)
    · exact .inl (h.isDigit c hc)

/-- Digits are read as a number if they stand for it and it is within the limit. -/
theorem readDigits_eq_ok_iff {limit : Nat} {digits : List Char} {value n : Nat}
    (hvalue : value ≤ limit) :
    readDigits limit value digits = .ok n ↔
      (∀ c ∈ digits, c.isDigit = true) ∧ Nat.ofDigitChars 10 digits value = n ∧ n ≤ limit := by
  constructor
  · intro h
    induction digits generalizing value with
    | nil =>
      obtain rfl : value = n := Except.ok.inj h
      exact ⟨List.forall_mem_nil _, rfl, hvalue⟩
    | cons c rest ih =>
      rw [readDigits] at h
      dsimp only at h
      -- Neither of the two complaints has been made about the first digit.
      split at h
      next hdigit =>
        split at h
        next hnext =>
          obtain ⟨hrest, heq, hlimit⟩ := ih hnext h
          refine ⟨List.forall_mem_cons.mpr ⟨hdigit, hrest⟩, ?_, hlimit⟩
          rwa [Nat.ofDigitChars_cons, Nat.mul_comm]
        next => cases h
      next => cases h
  · rintro ⟨hdigits, rfl, hlimit⟩
    exact readDigits_eq_ok hdigits hlimit

theorem readNatural_eq_ok_iff {limit : Nat} {digits : List Char} {n : Nat} :
    readNatural limit digits = .ok n ↔ IsNatural digits n ∧ n ≤ limit := by
  cases digits with
  | nil => exact ⟨nofun, fun h => absurd rfl h.1.ne_nil⟩
  | cons c rest =>
    rw [readNatural, readDigits_eq_ok_iff (Nat.zero_le limit)]
    · constructor
      · rintro ⟨hdigits, hvalue, hlimit⟩
        exact ⟨⟨List.cons_ne_nil c rest, hdigits, hvalue⟩, hlimit⟩
      · rintro ⟨⟨-, hdigits, hvalue⟩, hlimit⟩
        exact ⟨hdigits, hvalue, hlimit⟩
    · exact List.cons_ne_nil c rest

/-- Behind an optional `+`, digits are read as the number that they stand for. -/
theorem map_readNatural_eq_ok_iff {limit : Nat} {digits : List Char} {n : Int} :
    (readNatural limit digits).map Int.ofNat = .ok n ↔
      ∃ value : Nat, IsNatural digits value ∧ value ≤ limit ∧ n = value := by
  constructor
  · intro h
    cases hread : readNatural limit digits with
    | error fault =>
      rw [hread] at h
      cases h
    | ok value =>
      rw [hread] at h
      obtain ⟨hdigits, hlimit⟩ := readNatural_eq_ok_iff.mp hread
      exact ⟨value, hdigits, hlimit, (Except.ok.inj h).symm⟩
  · rintro ⟨value, hdigits, hlimit, rfl⟩
    rw [readNatural_eq_ok_iff.mpr ⟨hdigits, hlimit⟩]
    rfl

/-- Where the digits behind a `-` are refused, there is no integer in the range. -/
theorem not_isInteger_of_minus {bound : Nat} {digits : List Char} {fault : IntegerFault}
    (hread : readNatural bound digits = .error fault) {n : Int} (hlow : -bound ≤ n) :
    ¬IsInteger ('-' :: digits) n := by
  intro h
  cases h with
  | plain h => exact h.not_sign (.inl rfl)
  | minus h =>
    rw [readNatural_eq_ok_iff.mpr ⟨h, by omega⟩] at hread
    cases hread

/-- What is read is an integer in decimal that is in the range, and each of these is read. -/
theorem readSigned_eq_ok_iff {bound : Nat} (hbound : 0 < bound) {text : List Char} {n : Int} :
    readSigned bound text = .ok n ↔ IsInteger text n ∧ -bound ≤ n ∧ n < bound := by
  fun_cases readSigned bound text with
  | case1 =>
    refine ⟨nofun, fun ⟨h, _⟩ => ?_⟩
    cases h with
    | plain h => exact absurd rfl h.ne_nil
  | case2 digits value hread =>
    obtain ⟨hdigits, hlimit⟩ := readNatural_eq_ok_iff.mp hread
    constructor
    · intro h
      obtain rfl : -(value : Int) = n := Except.ok.inj h
      exact ⟨.minus hdigits, by omega, by omega⟩
    · rintro ⟨h, -⟩
      cases h with
      | plain h => exact (h.not_sign (.inl rfl)).elim
      | minus h => rw [← hdigits.value, ← h.value]
  -- Whichever fault is made of it, what is refused behind a `-` is not in the range.
  | case3 digits hread =>
    exact ⟨nofun, fun ⟨h, hlow, _⟩ => (not_isInteger_of_minus hread hlow h).elim⟩
  | case4 digits fault hfault hread =>
    exact ⟨nofun, fun ⟨h, hlow, _⟩ => (not_isInteger_of_minus hread hlow h).elim⟩
  | case5 digits =>
    rw [map_readNatural_eq_ok_iff]
    constructor
    · rintro ⟨value, hdigits, hlimit, rfl⟩
      exact ⟨.plus hdigits, by omega, by omega⟩
    · rintro ⟨h, -, hhigh⟩
      cases h with
      | plain h => exact (h.not_sign (.inr rfl)).elim
      | plus h => exact ⟨_, h, by omega, rfl⟩
  | case6 digits hne hminus hplus =>
    rw [map_readNatural_eq_ok_iff]
    constructor
    · rintro ⟨value, hdigits, hlimit, rfl⟩
      exact ⟨.plain hdigits, by omega, by omega⟩
    · rintro ⟨h, -, hhigh⟩
      cases h with
      | plain h => exact ⟨_, h, by omega, rfl⟩
      | plus h => exact absurd rfl (hplus _)
      | minus h => exact absurd rfl (hminus _)

end CommandShell.Text
