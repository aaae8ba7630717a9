import ContentQuery.Proofs.Number.Shortest

/-!
# Written doubles read back

The layout of the digits does not change what they are worth, and the reader rounds that to the
double they were written from. So a finite double is read back from its text, and its text says
that it is a double.
-/

namespace ContentQuery

namespace Double

/-- A finite magnitude has an exponent of at most 971. -/
theorem exponent_le {magnitude : ℕ} (h : magnitude < infinite) : exponent magnitude ≤ 971 := by
  rw [exponent]
  split
  · norm_num
  · have hdiv : magnitude / fractions < 2047 := Nat.div_lt_of_lt_mul (by rw [Nat.mul_comm]; exact h)
    omega

/-- What fits a finite magnitude is below the first power of two that no double reaches. -/
theorem lt_of_fits {magnitude : ℕ} {x : ℚ} (hfinite : magnitude < infinite)
    (h : Fits magnitude x) : x < 2 ^ (1024 : ℤ) := by
  have hpos : (0 : ℚ) < 2 ^ exponent magnitude := by positivity
  have hm : (significand magnitude : ℚ) + 1 ≤ 2 * fractions := by
    exact_mod_cast significand_lt magnitude
  have hpow : (2 : ℚ) ^ exponent magnitude ≤ 2 ^ (971 : ℤ) :=
    zpow_le_zpow_right₀ (by norm_num) (exponent_le hfinite)
  have hfractions : (0 : ℚ) ≤ 2 * fractions := by norm_num
  have hunits : (2 : ℚ) ^ (1024 : ℤ) = 2 * 2 ^ (52 : ℤ) * 2 ^ (971 : ℤ) := by
    rw [← zpow_one_add₀ (by norm_num), ← zpow_add₀ (by norm_num)]
    congr 1
  have hhigh := h.bounds.2
  rw [value] at hhigh
  calc x ≤ significand magnitude * 2 ^ exponent magnitude + 1 / 2 * 2 ^ exponent magnitude := hhigh
    _ < (significand magnitude + 1) * 2 ^ exponent magnitude := by linarith
    _ ≤ 2 * fractions * 2 ^ exponent magnitude := mul_le_mul_of_nonneg_right hm hpos.le
    _ ≤ 2 * fractions * 2 ^ (971 : ℤ) := mul_le_mul_of_nonneg_left hpow hfractions
    _ = 2 ^ (1024 : ℤ) := by rw [hunits, fractions_eq]

/-- What fits a positive magnitude is at least half the least magnitude there is. -/
theorem ge_of_fits {magnitude : ℕ} {x : ℚ} (hpositive : 0 < magnitude)
    (h : Fits magnitude x) : 2 ^ (-1075 : ℤ) ≤ x := by
  have hpos : (0 : ℚ) < 2 ^ exponent magnitude := by positivity
  have hm : (1 : ℚ) ≤ significand magnitude := by exact_mod_cast significand_pos hpositive
  have hpow : (2 : ℚ) ^ (-1074 : ℤ) ≤ 2 ^ exponent magnitude :=
    zpow_le_zpow_right₀ (by norm_num) (exponent_ge magnitude)
  have hhalf : (2 : ℚ) ^ (-1075 : ℤ) = 1 / 2 * 2 ^ (-1074 : ℤ) := by
    rw [one_div, ← zpow_neg_one, ← zpow_add₀ (by norm_num)]
    congr 1
  have hbelow := halfBelow_le magnitude
  have hlow := h.bounds.1
  rw [value] at hlow
  rw [hhalf]
  nlinarith

/-- A decimal that fits a positive finite magnitude is read as that magnitude. -/
theorem nearestDecimal_of_fits {magnitude n : ℕ} {power : ℤ} (hpositive : 0 < magnitude)
    (hfinite : magnitude < infinite) (hn : n ≠ 0) (h : Fits magnitude (n * 10 ^ power)) :
    nearestDecimal n power = magnitude := by
  have hone : (1 : ℚ) ≤ n := by exact_mod_cast Nat.pos_of_ne_zero hn
  have hpow : (0 : ℚ) < 10 ^ power := by positivity
  have hsmall : ¬ 400 < power := by
    intro hlt
    have hhigh := lt_of_fits hfinite h
    have hten : (10 : ℚ) ^ (401 : ℤ) ≤ 10 ^ power := zpow_le_zpow_right₀ (by norm_num) (by omega)
    have hbig : (2 : ℚ) ^ (1024 : ℤ) ≤ 10 ^ (401 : ℤ) :=
      calc (2 : ℚ) ^ (1024 : ℤ) ≤ 2 ^ ((3 : ℤ) * 401) :=
            zpow_le_zpow_right₀ (by norm_num) (by norm_num)
        _ = (2 ^ (3 : ℤ)) ^ (401 : ℤ) := zpow_mul 2 3 401
        _ ≤ 10 ^ (401 : ℤ) := zpow_le_zpow_left₀ (by norm_num) (by norm_num) (by norm_num)
    have hge : (10 : ℚ) ^ power ≤ n * 10 ^ power := le_mul_of_one_le_left hpow.le hone
    exact absurd (hbig.trans (hten.trans hge)) (not_le.mpr hhigh)
  have hlarge : ¬ power + (n.log2 : ℤ) < -1200 := by
    intro hlt
    have hlow := ge_of_fits hpositive h
    have hlog : (n : ℚ) < 2 ^ ((n.log2 : ℤ) + 1) := by exact_mod_cast Nat.lt_log2_self
    have hbase : (10 : ℚ) ^ power ≤ 2 ^ power := by
      obtain ⟨k, rfl⟩ : ∃ k : ℕ, power = -k := ⟨power.natAbs, by omega⟩
      rw [zpow_neg, zpow_neg, zpow_natCast, zpow_natCast]
      exact inv_anti₀ (by positivity) (pow_le_pow_left₀ (by norm_num) (by norm_num) k)
    have hexp : (2 : ℚ) ^ ((n.log2 : ℤ) + 1 + power) ≤ 2 ^ (-1075 : ℤ) :=
      zpow_le_zpow_right₀ (by norm_num) (by omega)
    rw [zpow_add₀ (by norm_num)] at hexp
    have hlt' : (n * 10 ^ power : ℚ) < 2 ^ ((n.log2 : ℤ) + 1) * 2 ^ power :=
      mul_lt_mul hlog hbase hpow (by positivity)
    linarith
  rw [nearestDecimal, if_neg hn, if_neg hsmall, if_neg hlarge]
  refine nearest_of_fits (Nat.mul_ne_zero hn (pow_ne_zero _ (by norm_num)))
    (pow_ne_zero _ (by norm_num)) hfinite ?_
  rw [zpow_eq_div, ← mul_div_assoc] at h
  simpa only [Nat.pow_eq, Nat.cast_mul, Nat.cast_pow, Nat.cast_ofNat] using h

/-- A decimal with a point, and an exponent or none, is worth its digits at their places. -/
theorem readDecimal?_point {whole part tail : List Char} {e : ℤ} (hwhole : IsDigits whole)
    (hpart : ∀ c ∈ part, c.isDigit = true)
    (htail : tail = [] ∧ e = 0 ∨ ∃ t, tail = 'e' :: t ∧ readExponent? t = some e) :
    readDecimal? (whole ++ '.' :: (part ++ tail)) =
      some (nearestDecimal (digitsValue (whole ++ part)) (e - part.length)) := by
  have hhead : ∀ c ∈ tail.head?, c.isDigit = false := by
    rcases htail with ⟨rfl, -⟩ | ⟨t, rfl, -⟩ <;> simp
  have htake : (part ++ tail).takeWhile Char.isDigit = part := Text.takeWhile_append hpart hhead
  have hdrop : (part ++ tail).dropWhile Char.isDigit = tail := Text.dropWhile_append hpart hhead
  have hpoint : ∀ c ∈ ('.' :: (part ++ tail)).head?, c.isDigit = false := by simp
  simp only [readDecimal?, hwhole.takeWhile_append _ hpoint, hwhole.dropWhile_append _ hpoint,
    htake, hdrop, hwhole.isEmpty_eq, Bool.false_and]
  rcases htail with ⟨rfl, rfl⟩ | ⟨t, rfl, ht⟩
  · rfl
  · simp [ht]

/-- A decimal without a point is worth its digits at the place that its exponent says. -/
theorem readDecimal?_exponent {whole t : List Char} {e : ℤ} (hwhole : IsDigits whole)
    (ht : readExponent? t = some e) :
    readDecimal? (whole ++ 'e' :: t) = some (nearestDecimal (digitsValue whole) e) := by
  have hhead : ∀ c ∈ ('e' :: t).head?, c.isDigit = false := by simp
  simp only [readDecimal?, hwhole.takeWhile_append _ hhead, hwhole.dropWhile_append _ hhead,
    hwhole.isEmpty_eq, Bool.false_and]
  simp [ht]

/-- Digits without a sign are read as an exponent. -/
theorem readExponent?_digits {ds : List Char} (h : IsDigits ds) :
    readExponent? ds = some (digitsValue ds : ℤ) := by
  obtain ⟨d, rest, rfl, hd⟩ := h.exists_cons
  have hplus : d ≠ '+' := Text.ne_of_kind hd rfl
  have hminus : d ≠ '-' := Text.ne_of_kind hd rfl
  have hall := h.all_eq
  simp only [readExponent?]
  split
  · next heq => exact absurd (List.cons.inj heq).1 hplus
  · next heq => exact absurd (List.cons.inj heq).1 hminus
  · simp only [hall, Bool.not_true, List.isEmpty_cons, Bool.or_self, Bool.false_eq_true, if_false,
      one_mul]

/-- A written exponent is read back. -/
theorem readExponent?_write (plusSign : Bool) (e : ℤ) :
    readExponent? ((if e < 0 then ['-'] else if plusSign then ['+'] else []) ++
      Nat.toDigits 10 e.natAbs) = some e := by
  have hdigits := IsDigits.toDigits e.natAbs
  rcases Int.lt_or_le e 0 with hneg | hnonneg
  · have habs : -1 * (e.natAbs : ℤ) = e := by omega
    rw [if_pos hneg, List.singleton_append]
    simp only [readExponent?, hdigits.isEmpty_eq, hdigits.all_eq, digitsValue_toDigits, habs]
    rfl
  · have habs : (e.natAbs : ℤ) = e := by omega
    rw [if_neg (by omega)]
    cases plusSign with
    | false =>
      change readExponent? (Nat.toDigits 10 e.natAbs) = some e
      rw [readExponent?_digits hdigits, digitsValue_toDigits, habs]
    | true =>
      rw [if_pos rfl, List.singleton_append]
      simp only [readExponent?, hdigits.isEmpty_eq, hdigits.all_eq, digitsValue_toDigits, one_mul,
        habs]
      rfl

/-- Whether a character can be part of a written number. -/
def isNumberChar (c : Char) : Bool := c.isDigit || c = '.' || c = 'e' || c = '-' || c = '+'

/-- A text is a decimal of the given worth: it begins with a digit, has a point or an exponent, and
is read as that decimal. -/
structure IsDecimal (s : List Char) (x : ℚ) : Prop where
  first : ∃ d rest, s = d :: rest ∧ d.isDigit = true
  chars : ∀ c ∈ s, isNumberChar c = true
  marked : '.' ∈ s ∨ 'e' ∈ s
  reads : ∃ (n : ℕ) (power : ℤ),
    readDecimal? s = some (nearestDecimal n power) ∧ (n * 10 ^ power : ℚ) = x

/-- Digits are characters of numbers. -/
theorem isNumberChar_of_isDigit {c : Char} (h : c.isDigit = true) : isNumberChar c = true := by
  simp [isNumberChar, h]

/-- Digits on both sides of a point are a decimal. -/
theorem isDecimal_point {whole : List Char} (part : List Char) (hwhole : IsDigits whole)
    (hpart : ∀ c ∈ part, c.isDigit = true) :
    IsDecimal (whole ++ '.' :: part)
      (digitsValue (whole ++ part) * 10 ^ (-part.length : ℤ)) := by
  have hread : readDecimal? (whole ++ '.' :: (part ++ [])) =
      some (nearestDecimal (digitsValue (whole ++ part)) (0 - part.length)) :=
    readDecimal?_point hwhole hpart (.inl ⟨rfl, rfl⟩)
  rw [List.append_nil] at hread
  obtain ⟨d, rest, hcons, hd⟩ := hwhole.exists_cons
  refine ⟨⟨d, rest ++ '.' :: part, by rw [hcons]; rfl, hd⟩, fun c hc => ?_, .inl (by simp),
    ⟨_, _, hread, by simp⟩⟩
  rcases List.mem_append.mp hc with h | h
  · exact isNumberChar_of_isDigit (hwhole.all c h)
  · rcases List.mem_cons.mp h with rfl | h
    · rfl
    · exact isNumberChar_of_isDigit (hpart c h)

/-- Digits behind a point and zeros. -/
theorem isDecimal_zeros_before {ds : List Char} (h : IsDigits ds) (n : ℕ) :
    IsDecimal ('0' :: '.' :: (List.replicate n '0' ++ ds))
      (digitsValue ds * 10 ^ (-n - ds.length : ℤ)) := by
  have hpart : ∀ c ∈ List.replicate n '0' ++ ds, c.isDigit = true :=
    (IsDigits.append_left (fun _ => isDigit_of_mem_zeros) h).all
  have hdecimal := isDecimal_point _ (IsDigits.toDigits 0) hpart
  have hexp : -((List.replicate n '0' ++ ds).length : ℤ) = -n - ds.length := by
    rw [List.length_append, List.length_replicate]
    push_cast
    omega
  rw [digitsValue_append, digitsValue_toDigits, zero_mul, zero_add, digitsValue_zeros_append, hexp]
    at hdecimal
  exact hdecimal

/-- Digits in front of zeros and a point. -/
theorem isDecimal_zeros_behind {ds : List Char} (h : IsDigits ds) (n : ℕ) :
    IsDecimal (ds ++ (List.replicate n '0' ++ ['.', '0'])) (digitsValue ds * 10 ^ (n : ℤ)) := by
  have hwhole : IsDigits (ds ++ List.replicate n '0') :=
    h.append_right fun _ => isDigit_of_mem_zeros
  have hdecimal := isDecimal_point ['0'] hwhole (by simp)
  have hamount : (digitsValue (ds ++ List.replicate n '0' ++ ['0']) : ℚ) *
      10 ^ (-(['0'].length : ℕ) : ℤ) = digitsValue ds * 10 ^ (n : ℤ) := by
    have hzero : digitsValue ['0'] = 0 := rfl
    rw [digitsValue_append, digitsValue_append, digitsValue_zeros, List.length_replicate,
      zpow_natCast, hzero]
    norm_num
    ring
  rw [hamount, List.append_assoc] at hdecimal
  exact hdecimal

/-- Digits with a point among them. -/
theorem isDecimal_among {ds : List Char} (h : IsDigits ds) {n : ℕ} (hpos : 0 < n)
    (hlt : n < ds.length) :
    IsDecimal (ds.take n ++ '.' :: ds.drop n) (digitsValue ds * 10 ^ (n - ds.length : ℤ)) := by
  have hwhole : IsDigits (ds.take n) := by
    refine ⟨?_, fun c hc => h.all c (List.mem_of_mem_take hc)⟩
    rw [Ne, List.take_eq_nil_iff, not_or]
    exact ⟨hpos.ne', h.nonempty⟩
  have hdecimal := isDecimal_point (ds.drop n) hwhole fun c hc => h.all c (List.mem_of_mem_drop hc)
  have hexp : -((ds.drop n).length : ℤ) = n - ds.length := by
    rw [List.length_drop]
    omega
  rw [List.take_append_drop, hexp] at hdecimal
  exact hdecimal

/-- Positional notation is a decimal of the worth of the digits. -/
theorem isDecimal_positional {d : Digits} (h : IsDigits d.digits) :
    IsDecimal (positional d) d.amount := by
  rw [positional, Digits.amount]
  split
  · next hpoint =>
    have hexp : d.point - d.digits.length = -((-d.point).toNat : ℤ) - d.digits.length := by omega
    rw [hexp]
    exact isDecimal_zeros_before h _
  · next hpoint =>
    dsimp only
    split
    · next hlen =>
      have hexp : d.point - d.digits.length = ((d.point.toNat - d.digits.length : ℕ) : ℤ) := by
        omega
      rw [hexp]
      exact isDecimal_zeros_behind h _
    · next hlen =>
      have hexp : d.point - d.digits.length = (d.point.toNat : ℤ) - d.digits.length := by omega
      rw [hexp]
      exact isDecimal_among h (by omega) (by omega)

/-- An exponent has characters of numbers only. -/
theorem isNumberChar_of_mem_exponent {plusSign : Bool} {power : ℤ} {c : Char}
    (h : c ∈ (if power < 0 then ['-'] else if plusSign then ['+'] else []) ++
      Nat.toDigits 10 power.natAbs) : isNumberChar c = true := by
  rcases List.mem_append.mp h with h | h
  · split at h
    · rw [List.mem_singleton.mp h]
      rfl
    · split at h
      · rw [List.mem_singleton.mp h]
        rfl
      · cases h
  · exact isNumberChar_of_isDigit (isDigit_of_mem_toDigits h)

/-- Notation with an exponent is a decimal of the worth of the digits. -/
theorem isDecimal_scientific (plusSign : Bool) {d : Digits} (h : IsDigits d.digits) :
    IsDecimal (scientific plusSign d) d.amount := by
  obtain ⟨tail, htail⟩ : ∃ t, t = (if d.point - 1 < 0 then ['-'] else
    if plusSign then ['+'] else []) ++ Nat.toDigits 10 (d.point - 1).natAbs := ⟨_, rfl⟩
  have hread : readExponent? tail = some (d.point - 1) := by
    rw [htail, readExponent?_write]
  have htailchars : ∀ c ∈ 'e' :: tail, isNumberChar c = true := by
    intro c hc
    rcases List.mem_cons.mp hc with rfl | hc
    · rfl
    · rw [htail] at hc
      exact isNumberChar_of_mem_exponent hc
  obtain ⟨digits, point⟩ := d
  obtain ⟨first, rest, rfl, hfirst⟩ := h.exists_cons
  have hall := h.all
  cases rest with
  | nil =>
    have heq : scientific plusSign ⟨[first], point⟩ = [first] ++ 'e' :: tail := by
      rw [htail]
      rfl
    rw [heq]
    refine ⟨⟨first, 'e' :: tail, rfl, hfirst⟩, fun c hc => ?_, .inr (by simp),
      ⟨_, _, readDecimal?_exponent h hread, by simp [Digits.amount]⟩⟩
    rcases List.mem_append.mp hc with hc | hc
    · exact isNumberChar_of_isDigit (hall c hc)
    · exact htailchars c hc
  | cons second rest =>
    have heq : scientific plusSign ⟨first :: second :: rest, point⟩ =
        [first] ++ '.' :: ((second :: rest) ++ 'e' :: tail) := by
      rw [htail]
      rfl
    have hwhole : IsDigits [first] := ⟨by simp, by simpa using hfirst⟩
    have hpart : ∀ c ∈ second :: rest, c.isDigit = true :=
      fun c hc => hall c (List.mem_cons_of_mem first hc)
    have hdecimal := readDecimal?_point hwhole hpart (.inr ⟨tail, rfl, hread⟩)
    rw [heq]
    refine ⟨⟨first, '.' :: ((second :: rest) ++ 'e' :: tail), rfl, hfirst⟩, fun c hc => ?_,
      .inl (by simp), ⟨_, _, hdecimal, ?_⟩⟩
    · rcases List.mem_cons.mp hc with rfl | hc
      · exact isNumberChar_of_isDigit hfirst
      · rcases List.mem_cons.mp hc with rfl | hc
        · rfl
        · rcases List.mem_append.mp hc with hc | hc
          · exact isNumberChar_of_isDigit (hpart c hc)
          · exact htailchars c hc
    · have hexp : point - 1 - ((second :: rest).length : ℤ) =
          point - ((first :: second :: rest).length : ℤ) := by
        simp only [List.length_cons]
        push_cast
        ring
      rw [hexp]
      rfl

/-- A magnitude is written as a decimal that fits it; the magnitude of zero as zero. -/
theorem isDecimal_writeMagnitude (form : NumberForm) (magnitude : ℕ) :
    ∃ x, IsDecimal (writeMagnitude form magnitude) x ∧
      (0 < magnitude → x ≠ 0 ∧ Fits magnitude x) := by
  rw [writeMagnitude]
  split
  · next hzero =>
    exact ⟨0, ⟨⟨'0', ['.', '0'], rfl, rfl⟩, List.all_eq_true.mp rfl, .inl (by decide),
      ⟨0, -1, rfl, by simp⟩⟩, by omega⟩
  · next hne =>
    obtain ⟨n, power, hshort, hn, hfits⟩ := shortest_spec form.tieUp (Nat.pos_of_ne_zero hne)
    obtain ⟨hdigits, -, hamount⟩ := digitsOf_spec hn power
    rw [← hshort] at hdigits hamount
    have hworth : (n * 10 ^ power : ℚ) ≠ 0 :=
      mul_ne_zero (by exact_mod_cast hn.ne') (by positivity)
    refine ⟨n * 10 ^ power, ?_, fun _ => ⟨hworth, hfits⟩⟩
    rw [← hamount]
    dsimp only
    split
    · exact isDecimal_positional hdigits
    · exact isDecimal_scientific form.plusSign hdigits

/-- A written finite magnitude is read back. -/
theorem readDecimal?_writeMagnitude (form : NumberForm) {magnitude : ℕ}
    (hfinite : magnitude < infinite) :
    readDecimal? (writeMagnitude form magnitude) = some magnitude := by
  rcases Nat.eq_zero_or_pos magnitude with rfl | hpositive
  · rfl
  · obtain ⟨x, hdecimal, hx⟩ := isDecimal_writeMagnitude form magnitude
    obtain ⟨n, power, hread, rfl⟩ := hdecimal.reads
    obtain ⟨hworth, hfits⟩ := hx hpositive
    have hn : n ≠ 0 := by
      intro heq
      subst heq
      exact hworth (by simp)
    rw [hread, nearestDecimal_of_fits hpositive hfinite hn hfits]

/-- A digit has no upper and lower case. -/
theorem toLower_of_isDigit {d : Char} (h : d.isDigit = true) : d.toLower = d := by
  have hhigh : d.val ≤ '9'.val := of_decide_eq_true (Bool.and_eq_true_iff.mp h).2
  have hnot : ¬ (d.val ≥ 'A'.val ∧ d.val ≤ 'Z'.val) := by
    intro h
    obtain ⟨hlow, -⟩ := h
    exact absurd (UInt32.le_trans hlow hhigh) (by decide)
  exact dif_neg hnot

/-- A text that begins with a digit is not the name of a value. -/
theorem readMagnitude?_of_first {s : List Char} (h : ∃ d rest, s = d :: rest ∧ d.isDigit = true) :
    readMagnitude? s = readDecimal? s := by
  obtain ⟨d, rest, rfl, hd⟩ := h
  have hname (first : Char) (more : List Char) (hfirst : first.isDigit = false) :
      String.ofList ((d :: rest).map Char.toLower) ≠ String.ofList (first :: more) := by
    intro heq
    have hlist := String.ofList_injective heq
    rw [List.map_cons, toLower_of_isDigit hd] at hlist
    rw [(List.cons.inj hlist).1, hfirst] at hd
    cases hd
  have hinf := hname 'i' ['n', 'f'] rfl
  have hinfinity := hname 'i' ['n', 'f', 'i', 'n', 'i', 't', 'y'] rfl
  have hnan := hname 'n' ['a', 'n'] rfl
  rw [readMagnitude?, if_neg (not_or.mpr ⟨hinf, hinfinity⟩), if_neg hnan]

/-- The bits of a double are its sign and its magnitude. -/
theorem ofMagnitude_magnitude (x : Double) : ofMagnitude x.isNegative x.magnitude = x := by
  obtain ⟨bits⟩ := x
  have hlt : bits.toNat < 2 * signUnit := bits.toNat_lt
  have hbits : (if isNegative ⟨bits⟩ then signUnit + magnitude ⟨bits⟩ else magnitude ⟨bits⟩) =
      bits.toNat := by
    by_cases hsign : signUnit ≤ bits.toNat
    · rw [if_pos (by simpa [isNegative] using hsign)]
      simp only [magnitude, signUnit] at *
      omega
    · rw [if_neg (by simpa [isNegative] using hsign)]
      simp only [magnitude, signUnit] at *
      omega
  rw [ofMagnitude, hbits, UInt64.ofNat_toNat]

/-- The text of a finite double is a decimal behind its sign. -/
theorem toText_eq {x : Double} (h : x.isFinite = true) :
    x.toText = String.ofList ((if x.isNegative then ['-'] else []) ++
      writeMagnitude .plain x.magnitude) := by
  have hlt : x.magnitude < infinite := by simpa [isFinite] using h
  have hnan : x.isNaN = false := by
    simp only [isNaN, decide_eq_false_iff_not]
    omega
  rw [toText, hnan, h]
  rfl

/-- A finite double is read back from its text. -/
theorem ofText?_toText {x : Double} (h : x.isFinite = true) : ofText? x.toText = some x := by
  have hlt : x.magnitude < infinite := by simpa [isFinite] using h
  obtain ⟨worth, hdecimal, -⟩ := isDecimal_writeMagnitude .plain x.magnitude
  have hread : readMagnitude? (writeMagnitude .plain x.magnitude) = some x.magnitude := by
    rw [readMagnitude?_of_first hdecimal.first, readDecimal?_writeMagnitude .plain hlt]
  have hbits := ofMagnitude_magnitude x
  rw [toText_eq h, ofText?, String.toList_ofList]
  cases hsign : x.isNegative with
  | true =>
    rw [hsign] at hbits
    simp [hread, hbits]
  | false =>
    rw [hsign] at hbits
    obtain ⟨d, rest, hcons, hd⟩ := hdecimal.first
    have hplus : d ≠ '+' := Text.ne_of_kind hd rfl
    have hminus : d ≠ '-' := Text.ne_of_kind hd rfl
    rw [hcons] at hread ⊢
    simp only [Bool.false_eq_true, if_false, List.nil_append]
    split
    · next heq => exact absurd (List.cons.inj heq).1 hminus
    · next heq => exact absurd (List.cons.inj heq).1 hplus
    · rw [hread, Option.map_some, hbits]

end Double

end ContentQuery
