import IngestConsole.Display.Amount
import IngestConsole.Proofs.Numeral.Places

/-!
# Sizes in their units

A number of bytes is shown in the largest unit that it reaches.  The unit is chosen before the
number of units is rounded to two places, so that what is shown reaches 1024 of a unit where the
bytes do not.
-/

set_option autoImplicit false

namespace IngestConsole.Display

open Numeral

/-! ## What is shown -/

/-- The text shows `n` bytes as so many units of `1024 ^ k` bytes, rounded to two places. -/
structure ShowsSize (n : Nat) (text : String) (k : Nat) (d : Decimal) : Prop where
  written : ∃ name, sizeUnits[k]? = some name ∧ text = String.ofList d.text ++ " " ++ name
  trimmed : d.IsTrimmed 2
  rounded : |d.value - n / 1024 ^ k| ≤ 1 / 200
  least : 1 ≤ d.value

/-- The bytes reach the unit of `1024 ^ k` bytes, and no larger one. -/
structure Reaches (n k : Nat) : Prop where
  reached : 1024 ^ k ≤ n
  largest : k < 3 → n < 1024 ^ (k + 1)

/-- Rounded to two places, the bytes are 1024 of a unit although they do not reach the next one. -/
def RoundsUp (n : Nat) : Prop :=
  ∃ k, k < 3 ∧ n < 1024 ^ (k + 1) ∧ 204799 * 1024 ^ k ≤ 200 * n

/-- A decimal is written without blanks. -/
theorem blank_not_mem_text {n : Nat} {d : Decimal} (trimmed : d.IsTrimmed n) : ' ' ∉ d.text := by
  intro mem
  rcases List.mem_append.1 mem with whole | behind
  · exact not_mem_digits rfl d.whole whole
  · split at behind
    · exact List.not_mem_nil behind
    · rcases List.mem_cons.1 behind with point | place
      · cases point
      · cases trimmed.digits ' ' place

/-- A size is shown in one of the four units. -/
theorem ShowsSize.lt {n k : Nat} {text : String} {d : Decimal} (shows : ShowsSize n text k d) :
    k < 4 := by
  obtain ⟨name, unit, -⟩ := shows.written
  exact (List.getElem?_eq_some_iff.1 unit).1

/-- A text shows one number of one unit. -/
theorem ShowsSize.unique {n n' k k' : Nat} {text : String} {d d' : Decimal}
    (shows : ShowsSize n text k d) (shows' : ShowsSize n' text k' d') : k = k' ∧ d = d' := by
  obtain ⟨name, unit, rfl⟩ := shows.written
  obtain ⟨name', unit', same⟩ := shows'.written
  have chars : d.text ++ ' ' :: name.toList = d'.text ++ ' ' :: name'.toList := by
    simpa using congrArg String.toList same
  -- the number ends at the first blank
  have front {d : Decimal} (trimmed : d.IsTrimmed 2) (rest : List Char) :
      (d.text ++ ' ' :: rest).takeWhile (· ≠ ' ') = d.text := by
    have none (c : Char) (mem : c ∈ d.text) : c ≠ ' ' :=
      fun blank => blank_not_mem_text trimmed (blank ▸ mem)
    rw [List.takeWhile_append_of_pos (by simpa using none), List.takeWhile_cons_of_neg (by simp),
      List.append_nil]
  have number : d.text = d'.text := by
    rw [← front shows.trimmed name.toList, chars, front shows'.trimmed]
  rw [number, List.append_cancel_left_eq, List.cons.injEq, String.toList_inj] at chars
  rw [← chars.2] at unit'
  have distinct : sizeUnits.Nodup := by decide
  obtain ⟨small, -⟩ := List.getElem?_eq_some_iff.1 unit
  exact ⟨(List.getElem?_inj small distinct).1 (unit.trans unit'.symm),
    Decimal.text_injective number⟩

/-! ## The choice of the unit -/

/-- From a unit on that is reached the units are gone through up to the largest that is reached. -/
theorem exists_sizeIn {n : Nat} (unit : Nat) (units : List String) (some_unit : units ≠ [])
    (reached : unit ≤ n) :
    ∃ k name, units[k]? = some name ∧ unit * 1024 ^ k ≤ n ∧
      (k + 1 < units.length → n < unit * 1024 ^ (k + 1)) ∧
      sizeIn n unit units =
        String.ofList (trimPlaces (fixed 2 n (unit * 1024 ^ k))) ++ " " ++ name := by
  fun_induction sizeIn n unit units with
  | case1 unit => exact absurd rfl some_unit
  | case2 unit name =>
    refine ⟨0, name, rfl, by simpa using reached, fun more => ?_, by simp⟩
    simp at more
  | case3 unit name larger others more ih =>
    obtain ⟨k, name', chosen, reaches, largest, shown⟩ := ih others more
    have next (j : Nat) : unit * 1024 ^ (j + 1) = 1024 * unit * 1024 ^ j := by ring
    refine ⟨k + 1, name', chosen, (next k).trans_le reaches, fun less => ?_, ?_⟩
    · rw [next]
      exact largest (Nat.lt_of_succ_lt_succ less)
    · rw [next]
      exact shown
  | case4 unit name larger others few =>
    refine ⟨0, name, rfl, by simpa using reached, fun _ => ?_, by simp⟩
    omega

/-- Numbers up to 2 ^ 53 are not rounded. -/
theorem roundTo53Bits_of_le {n : Nat} (short : n ≤ 2 ^ 53) : roundTo53Bits n = n := by
  rcases Nat.lt_or_eq_of_le short with less | rfl
  · exact if_pos less
  · decide +kernel

/-- The largest unit that is reached is the one below the first that is not. -/
theorem Reaches.eq {n k l : Nat} (reaches : Reaches n k) (few : l < 3) (reached : 1024 ^ l ≤ n)
    (missed : n < 1024 ^ (l + 1)) : k = l := by
  have above : k < l + 1 :=
    (Nat.pow_lt_pow_iff_right (by decide)).1 (reaches.reached.trans_lt missed)
  have below : l < k + 1 :=
    (Nat.pow_lt_pow_iff_right (by decide)).1 (reached.trans_lt (reaches.largest (by omega)))
  omega

/-- Rounding to two places reaches the next unit from 1023.995 units on, if there is a next one. -/
theorem Reaches.roundsUp_iff {n k : Nat} (reaches : Reaches n k) :
    RoundsUp n ↔ k < 3 ∧ 204799 * 1024 ^ k ≤ 200 * n := by
  constructor
  · rintro ⟨l, few, missed, near⟩
    obtain rfl := reaches.eq few (by omega) missed
    exact ⟨few, near⟩
  · rintro ⟨few, near⟩
    exact ⟨k, few, reaches.largest few, near⟩

section

variable {bytes : UInt64} (some_byte : 1 ≤ bytes.toNat) (short : bytes.toNat ≤ 2 ^ 53)

include some_byte short

/-- A size is shown as a decimal of two places at most, in the unit it reaches. -/
theorem sizeText_eq :
    ∃ k name, sizeUnits[k]? = some name ∧ Reaches bytes.toNat k ∧
      sizeText bytes =
        String.ofList (trimPlaces (fixed 2 bytes.toNat (1024 ^ k))) ++ " " ++ name := by
  have present : bytes ≠ 0 := by
    rintro rfl
    cases some_byte
  obtain ⟨k, name, unit, reached, largest, shown⟩ :=
    exists_sizeIn 1 sizeUnits (List.cons_ne_nil _ _) some_byte
  simp only [Nat.one_mul] at reached largest shown
  refine ⟨k, name, unit, ⟨reached, fun few => largest (Nat.succ_lt_succ few)⟩, ?_⟩
  rw [sizeText, if_neg present, roundTo53Bits_of_le short, shown]

/-- The number that is shown is the quotient rounded to hundredths. -/
theorem exists_showsSize :
    ∃ k d, ShowsSize bytes.toNat (sizeText bytes) k d ∧ Reaches bytes.toNat k ∧
      d.value = roundDiv (bytes.toNat * 100) (1024 ^ k) / 100 := by
  obtain ⟨k, name, unit, reaches, text⟩ := sizeText_eq some_byte short
  obtain ⟨d, written, trimmed, value⟩ := exists_trimmed_withPoint (n := 2) (by decide)
    (roundDiv (bytes.toNat * 100) (1024 ^ k))
  have pos : 0 < 1024 ^ k := by positivity
  have hundredths : d.value = roundDiv (bytes.toNat * 100) (1024 ^ k) / 100 := by
    rw [value]
    norm_num
  refine ⟨k, d, ⟨⟨name, unit, ?_⟩, trimmed, ?_, ?_⟩, reaches, hundredths⟩
  · rw [text, ← written]
    rfl
  · have off := abs_roundDiv_div_sub_le bytes.toNat pos (by decide : 0 < 100)
    rw [hundredths]
    push_cast at off
    exact off.trans_eq (by norm_num)
  · have whole : 100 * 1024 ^ k ≤ bytes.toNat * 100 := by
      have reached := reaches.reached
      omega
    have least : (100 : ℚ) ≤ roundDiv (bytes.toNat * 100) (1024 ^ k) := by
      exact_mod_cast le_roundDiv pos whole
    rw [hundredths]
    linarith

/-- What rounds up to 1024 of a unit is shown as that. -/
theorem sizeText_of_roundsUp (up : RoundsUp bytes.toNat) :
    sizeText bytes = "1024 KB" ∨ sizeText bytes = "1024 MB" := by
  obtain ⟨k, name, unit, reaches, text⟩ := sizeText_eq some_byte short
  obtain ⟨few, near⟩ := reaches.roundsUp_iff.1 up
  have missed := reaches.largest few
  have pos : 0 < 1024 ^ k := by positivity
  have rounds : roundDiv (bytes.toNat * 100) (1024 ^ k) = 102400 := by
    refine le_antisymm (roundDiv_le pos ?_) (Nat.le_of_not_lt fun less => ?_)
    · rw [pow_succ] at missed
      omega
    · have far := (roundDiv_lt_iff pos (by decide)).1 less
      omega
  have number : fixed 2 bytes.toNat (1024 ^ k) = withPoint 2 102400 := congrArg _ rounds
  have written : String.ofList (trimPlaces (withPoint 2 102400)) ++ " " = "1024 " := by
    decide +kernel
  rw [number, written] at text
  rw [text]
  obtain rfl | rfl | rfl : k = 0 ∨ k = 1 ∨ k = 2 := by omega
  · omega
  · obtain rfl : "KB" = name := Option.some.inj unit
    exact .inl rfl
  · obtain rfl : "MB" = name := Option.some.inj unit
    exact .inr rfl

end

/-- Every number of bytes up to `2 ^ 53` that is not zero is shown as a decimal of the largest unit
that it reaches, rounded to two places, without zeros at its end, and from 1 on.  It is below 1024
of every unit but the last exactly if the bytes do not round up to 1024 of a unit; those that do are
shown as 1024 KB or 1024 MB. -/
theorem sizeText_below_iff {bytes : UInt64} (some_byte : 1 ≤ bytes.toNat)
    (short : bytes.toNat ≤ 2 ^ 53) :
    (∃ k d, ShowsSize bytes.toNat (sizeText bytes) k d ∧ Reaches bytes.toNat k) ∧
    ((∃ k d, ShowsSize bytes.toNat (sizeText bytes) k d ∧ (k = 3 ∨ d.value < 1024)) ↔
      ¬RoundsUp bytes.toNat) ∧
    (RoundsUp bytes.toNat → sizeText bytes = "1024 KB" ∨ sizeText bytes = "1024 MB") := by
  obtain ⟨k, d, shows, reaches, value⟩ := exists_showsSize some_byte short
  have pos : 0 < 1024 ^ k := by positivity
  have hundredths : d.value < 1024 ↔ roundDiv (bytes.toNat * 100) (1024 ^ k) < 102400 := by
    rw [value, div_lt_iff₀ (by norm_num)]
    norm_num
  have below : d.value < 1024 ↔ 200 * bytes.toNat < 204799 * 1024 ^ k := by
    rw [hundredths, roundDiv_lt_iff pos (by decide)]
    omega
  refine ⟨⟨k, d, shows, reaches⟩, ?_, sizeText_of_roundsUp some_byte short⟩
  rw [reaches.roundsUp_iff]
  constructor
  · rintro ⟨k', d', shows', fits⟩ ⟨few, near⟩
    obtain ⟨rfl, rfl⟩ := shows.unique shows'
    rcases fits with rfl | less
    · omega
    · have far := below.1 less
      omega
  · intro far
    refine ⟨k, d, shows, ?_⟩
    by_cases few : k < 3
    · right
      exact below.2 (Nat.lt_of_not_le fun near => far ⟨few, near⟩)
    · left
      have unit := shows.lt
      omega

/-- The most bytes that are shown as less than 1024 KB. -/
theorem sizeText_below_iff_kilobytes :
    sizeText 1048570 = "1023.99 KB" ∧ ¬RoundsUp 1048570 ∧
      ∃ k d, ShowsSize 1048570 (sizeText 1048570) k d ∧ (k = 3 ∨ d.value < 1024) := by
  have far : ¬RoundsUp 1048570 := by
    rintro ⟨k, few, missed, near⟩
    obtain rfl | rfl | rfl : k = 0 ∨ k = 1 ∨ k = 2 := by omega
    all_goals omega
  have some_byte : 1 ≤ (1048570 : UInt64).toNat := by decide
  obtain ⟨-, below, -⟩ := sizeText_below_iff some_byte (by decide)
  exact ⟨by decide +kernel, far, below.2 far⟩

/-- The byte before a megabyte is shown as 1024 KB, and as nothing else. -/
theorem sizeText_reaches_next :
    sizeText 1048575 = "1024 KB" ∧
      ¬∃ k d, ShowsSize 1048575 (sizeText 1048575) k d ∧ (k = 3 ∨ d.value < 1024) := by
  have text : sizeText 1048575 = "1024 KB" := by decide +kernel
  refine ⟨text, ?_⟩
  rintro ⟨k, d, shows, fits⟩
  rw [text] at shows
  have full : Decimal.value ⟨1024, []⟩ = 1024 := by
    norm_num [Decimal.value]
    rfl
  have units : ShowsSize 1048575 "1024 KB" 1 ⟨1024, []⟩ := by
    refine ⟨⟨"KB", rfl, by decide +kernel⟩, ⟨by simp, by simp, by simp⟩, ?_, ?_⟩
    · rw [full, abs_le]
      norm_num
    · rw [full]
      norm_num
  obtain ⟨rfl, rfl⟩ := units.unique shows
  rw [full] at fits
  norm_num at fits

end IngestConsole.Display
