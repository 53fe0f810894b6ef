import IngestConsole.Display.Panel
import IngestConsole.Proofs.Numeral.Grouping
import Mathlib.Algebra.Group.Int.Defs
import Mathlib.Algebra.Group.Nat.Defs

/-!
# Counters of a panel

The panels show unsigned counters of 64 bits through the signed word with the same bits.  What
stands on the line of a counter is its numeral in groups exactly below `2 ^ 63`; from there on it is
the numeral of a negative number.
-/

set_option autoImplicit false

namespace IngestConsole.Display

open Calendar Json Numeral Wire

/-! ## Signed words -/

/-- A word with its highest bit set stands for a negative number. -/
theorem toInt_toInt64 (n : UInt64) :
    n.toInt64.toInt = if n.toNat < 2 ^ 63 then (n.toNat : Int) else n.toNat - 2 ^ 64 := by
  have word : n.toInt64.toInt = n.toBitVec.toInt := rfl
  have same : n.toBitVec.toNat = n.toNat := rfl
  rw [word, BitVec.toInt_eq_toNat_cond, same]
  by_cases low : n.toNat < 2 ^ 63
  · rw [if_pos low, if_pos (by omega)]
  · rw [if_neg low, if_neg (by omega)]
    rfl

/-- Without commas a counter shows its word as a signed number. -/
theorem withoutCommas_counterText (n : UInt64) :
    withoutCommas (counterText n) = intText n.toInt64.toInt :=
  withoutCommas_groupedText n.toInt64.toInt

/-- A counter shows its number exactly when that is below 2 ^ 63. -/
theorem withoutCommas_counterText_eq_iff (n : UInt64) :
    withoutCommas (counterText n) = natText n.toNat ↔ n.toNat < 2 ^ 63 := by
  rw [withoutCommas_counterText, ← intText_natCast, intText_injective.eq_iff, toInt_toInt64]
  split
  · next low => exact iff_of_true rfl low
  · next high => exact iff_of_false (by omega) high

/-- From 2 ^ 63 on a counter shows what is missing to 2 ^ 64, with a minus sign. -/
theorem withoutCommas_counterText_of_le {n : UInt64} (high : 2 ^ 63 ≤ n.toNat) :
    withoutCommas (counterText n) = "-" ++ natText (2 ^ 64 - n.toNat) := by
  have word := n.toNat_lt
  have negative : (n.toNat : Int) - 2 ^ 64 < 0 := by omega
  have magnitude : ((n.toNat : Int) - 2 ^ 64).natAbs = 2 ^ 64 - n.toNat := by omega
  rw [withoutCommas_counterText, toInt_toInt64, if_neg (Nat.not_lt.2 high), intText, intDigits,
    if_pos negative, magnitude, natText, ← String.toList_inj]
  simp

/-! ## Lines of a panel -/

/-- Of all that `panel` shows only the value under `key` depends on `a`: it is `shown a`, and stands
on the line of the key behind some blanks. -/
def ShowsUnder {α : Type} (key : String) (panel shown : α → String) : Prop :=
  ∃ before blanks after : String, (∀ c ∈ blanks.toList, c = ' ') ∧
    ∀ a, panel a = before ++ "\n" ++ key ++ blanks ++ shown a ++ "\n" ++ after

/-- A line of a panel, with the value behind a column for the names. -/
def keyLine (width : Nat) (p : String × String) : String :=
  String.ofList (padRight width p.1.toList) ++ "  " ++ p.2 ++ "\n"

/-- The column for the names is as wide as the longest of them, whatever the values are. -/
theorem keyValues_replace (earlier later : List (String × String)) (key : String) :
    ∃ width, ∀ value, keyValues (earlier ++ (key, value) :: later) =
      String.join ((earlier ++ (key, value) :: later).map (keyLine width)) := by
  refine ⟨((earlier ++ (key, "") :: later).map (·.1.length)).foldl max 0, fun value => ?_⟩
  have names : (earlier ++ (key, value) :: later).map (·.1.length) =
      (earlier ++ (key, "") :: later).map (·.1.length) := by
    simp only [List.map_append, List.map_cons]
  simp only [keyValues, names]
  rfl

/-- What is around the item that takes a place other than the first does not depend on it. -/
theorem exists_append_of_set {α : Type} {l : List α} {k : Nat} (inside : k + 1 < l.length) :
    ∃ earlier last later, ∀ x, l.set (k + 1) x = earlier ++ [last] ++ x :: later := by
  induction k generalizing l with
  | zero =>
    match l, inside with
    | first :: _ :: rest, _ => exact ⟨[], first, rest, fun x => rfl⟩
  | succ k ih =>
    match l, inside with
    | first :: rest, inside =>
      obtain ⟨earlier, last, later, split⟩ := ih (Nat.lt_of_succ_lt_succ inside)
      refine ⟨first :: earlier, last, later, fun x => ?_⟩
      rw [List.set_cons_succ, split]
      rfl

/-- A value that is the only one to change, and not the first, is shown under its name. -/
theorem showsUnder_keyValues {α : Type} {key : String} {pairs : α → List (String × String)}
    {shown : α → String} (k : Nat) (a₀ : α) (inside : k + 1 < (pairs a₀).length)
    (only : ∀ a, pairs a = (pairs a₀).set (k + 1) (key, shown a)) :
    ShowsUnder key (fun a => keyValues (pairs a)) shown := by
  obtain ⟨earlier, last, later, split⟩ := exists_append_of_set inside
  obtain ⟨width, lines⟩ := keyValues_replace (earlier ++ [last]) later key
  let before := String.join (earlier.map (keyLine width))
    ++ String.ofList (padRight width last.1.toList) ++ "  " ++ last.2
  let blanks := String.ofList (List.replicate (width - key.toList.length + 2) ' ')
  let after := String.join (later.map (keyLine width))
  refine ⟨before, blanks, after, ?_, fun a => ?_⟩
  · intro c mem
    rw [String.toList_ofList] at mem
    exact List.eq_of_mem_replicate mem
  · have split_blanks : blanks =
        String.ofList (List.replicate (width - key.toList.length) ' ') ++ "  " := by
      show String.ofList _ = _
      rw [← List.replicate_append_replicate, String.ofList_append]
      rfl
    simp only [only a, split, lines, split_blanks, before, after]
    simp [keyLine, padRight, String.append_assoc]

/-- The overview shows its two counters, and a status its one, in groups of digits, and nothing else
in the panels depends on them.  Without its commas what is shown is the numeral of the counter
exactly if the counter is below `2 ^ 63`; from there on it is a minus sign and what is missing to
`2 ^ 64`. -/
theorem counters_shown (p : ProcessInfo) (name : String) (s : StatusSnapshot) (offset : Offset) :
    ShowsUnder "Goroutines" (fun n => overviewPanel { p with goroutines := n } offset) counterText
      ∧ ShowsUnder "Tasks" (fun n => overviewPanel { p with tasks := n } offset) counterText
      ∧ ShowsUnder "Errors" (fun n => statusPanel name (some { s with errorCount := n }) offset)
          counterText
      ∧ ∀ n : UInt64, (withoutCommas (counterText n) = natText n.toNat ↔ n.toNat < 2 ^ 63)
          ∧ (2 ^ 63 ≤ n.toNat →
              withoutCommas (counterText n) = "-" ++ natText (2 ^ 64 - n.toNat)) := by
  refine ⟨?_, ?_, ?_, fun n => ?_⟩
  · exact showsUnder_keyValues 7 0 (by simp) fun n => rfl
  · exact showsUnder_keyValues 8 0 (by simp) fun n => rfl
  · exact showsUnder_keyValues 6 0 (by simp) fun n => rfl
  · exact ⟨withoutCommas_counterText_eq_iff n, withoutCommas_counterText_of_le⟩

/-- Counters with their highest bit set are read from the wire at their value, and are shown as
negative numbers. -/
theorem counters_shown_negative :
    ∃ (p : ProcessInfo) (s : StatusSnapshot),
      (Document.parse? ("\x7b\"Goroutines\":9223372036854775808,"
        ++ "\"Tasks\":18446744073709551615\x7d").toList).bind ProcessInfo.decode? = some p
      ∧ (Document.parse? "\x7b\"errorCount\":18446744073709551614\x7d".toList).bind
          StatusSnapshot.decode? = some s
      ∧ withoutCommas (counterText p.goroutines) ≠ natText p.goroutines.toNat
      ∧ withoutCommas (counterText p.tasks) ≠ natText p.tasks.toNat
      ∧ withoutCommas (counterText s.errorCount) ≠ natText s.errorCount.toNat
      ∧ overviewPanel p 0 = "Version      N/A\nCommit       N/A\nBuild time   N/A\n"
          ++ "Go version   N/A\nStart time   N/A\nUptime       0s\nCPU          0.0%\n"
          ++ "Memory       0 B\nGoroutines   -9,223,372,036,854,775,808\nTasks        -1\n"
          ++ "Record pool  0\n"
      ∧ statusPanel "a" (some s) 0 = "Task         a\nStatus       未知\nStart time   -\n"
          ++ "Last active  -\nMessages     0\nRate         0/s\nKafka lag    -\n"
          ++ "Errors       -2\nLast error   -\n" := by
  refine ⟨{ goroutines := 9223372036854775808, tasks := 18446744073709551615 },
    { errorCount := 18446744073709551614 }, ?_⟩
  decide +kernel

end IngestConsole.Display
