import Std.Data.String.ToNat
import Mathlib.Data.List.GetD
import Mathlib.Data.List.Induction
import Mathlib.Data.List.Perm.Basic
import AttributeBrowser.Proofs.Table.RowNumbers

/-!
# Row numbers after any requests

A store that has met any requests is told by the requests that were granted: it has as
many rows as the largest of them asks for, and has grown once for each that asks for more
than all before it. So the rows and their texts do not depend on the order of the requests,
and the number of growths is the only thing that does.
-/

namespace AttributeBrowser

namespace RowNumbers

/-! ## Requests -/

/-- The requests for which a store can be made. -/
def granted (requests : List Nat) : List Nat := requests.filter (· < capacity)

/-- The largest of some counts, or zero. -/
def largest (counts : List Nat) : Nat := counts.foldl max 0

/-- The count at a place exceeds zero and all counts before it. -/
def Tops (counts : List Nat) (place : Nat) : Prop :=
  ∀ earlier ∈ 0 :: counts.take place, earlier < counts.getD place 0

instance (counts : List Nat) (place : Nat) : Decidable (Tops counts place) :=
  inferInstanceAs (Decidable (∀ earlier ∈ _, _))

/-- How many counts exceed zero and all counts before them. -/
def topCount (counts : List Nat) : Nat := (List.range counts.length).countP (Tops counts ·)

theorem granted_concat (requests : List Nat) (count : Nat) :
    granted (requests ++ [count]) =
      granted requests ++ if count < capacity then [count] else [] := by
  unfold granted
  rw [List.filter_append]
  split <;> simp [*]

theorem largest_concat (counts : List Nat) (count : Nat) :
    largest (counts ++ [count]) = max (largest counts) count := by
  simp [largest]

theorem largest_perm {counts reordered : List Nat} (h : reordered.Perm counts) :
    largest reordered = largest counts :=
  h.foldl_eq 0

theorem largest_lt_iff {counts : List Nat} {bound : Nat} :
    largest counts < bound ↔ ∀ count ∈ 0 :: counts, count < bound := by
  induction counts using List.reverseRecOn with
  | nil => simp [largest]
  | append_singleton counts count ih =>
    rw [largest_concat, Nat.max_lt, ih]
    simp only [List.mem_cons, List.mem_append, List.not_mem_nil, or_false]
    grind

/-- One more count leaves the places before it as they are. -/
theorem tops_concat_of_lt {counts : List Nat} {count place : Nat} (h : place < counts.length) :
    Tops (counts ++ [count]) place ↔ Tops counts place := by
  unfold Tops
  rw [List.take_append_of_le_length (Nat.le_of_lt h), List.getD_append _ _ _ _ h]

theorem tops_concat_length {counts : List Nat} {count : Nat} :
    Tops (counts ++ [count]) counts.length ↔ largest counts < count := by
  simp [Tops, largest_lt_iff]

theorem topCount_concat (counts : List Nat) (count : Nat) :
    topCount (counts ++ [count]) =
      topCount counts + if largest counts < count then 1 else 0 := by
  have hbefore : (List.range counts.length).countP (Tops (counts ++ [count]) ·) =
      topCount counts := by
    refine List.countP_congr fun place hplace => ?_
    simp [tops_concat_of_lt (List.mem_range.mp hplace)]
  unfold topCount at *
  rw [List.length_append, List.length_singleton, List.range_succ, List.countP_append, hbefore,
    List.countP_singleton]
  simp [tops_concat_length]

/-! ## The store after them -/

theorem after_concat (requests : List Nat) (count : Nat) :
    after (requests ++ [count]) = (after requests).request count := by
  simp [after]

theorem after_append (requests later : List Nat) :
    after (requests ++ later) = later.foldl request (after requests) :=
  List.foldl_append

theorem growths_ensure {numbers next : RowNumbers} {count : Nat}
    (h : numbers.ensure count = .ok next) :
    next.growths = numbers.growths + if numbers.size < count then 1 else 0 := by
  unfold ensure at h
  split at h
  · cases h
    rw [if_neg (by omega), Nat.add_zero]
  · split at h
    · cases h
      rw [if_pos (by omega)]
    · cases h

/-- A request is refused exactly if no store of so many rows can be made. -/
theorem refused_iff (requests : List Nat) (count : Nat) :
    (∃ fault, (after requests).ensure count = .error fault) ↔ capacity ≤ count := by
  rw [exists_eq_error_iff, (Counting.after requests).exists_ensure_iff, Nat.not_lt]

/-- A refused request changes nothing. -/
theorem request_of_refused {requests : List Nat} {count : Nat} (h : capacity ≤ count) :
    (after requests).request count = after requests := by
  obtain ⟨fault, hfault⟩ := (refused_iff requests count).mpr h
  simp only [request, hfault]

theorem request_of_granted {requests : List Nat} {count : Nat} (h : count < capacity) :
    (after requests).ensure count = .ok ((after requests).request count) := by
  obtain ⟨next, hnext⟩ := (Counting.after requests).exists_ensure_iff.mpr h
  simp only [request, hnext]

/-- There are as many rows as the largest granted request asks for. -/
theorem size_after (requests : List Nat) : (after requests).size = largest (granted requests) := by
  induction requests using List.reverseRecOn with
  | nil => rfl
  | append_singleton requests count ih =>
    rw [after_concat, granted_concat]
    split
    · rename_i hgranted
      rw [largest_concat, ← ih]
      exact size_ensure (request_of_granted hgranted)
    · rename_i hrefused
      rw [request_of_refused (Nat.not_lt.mp hrefused), List.append_nil, ih]

/-- The store grows with each granted request that asks for more than all before it. -/
theorem growths_after (requests : List Nat) :
    (after requests).growths = topCount (granted requests) := by
  induction requests using List.reverseRecOn with
  | nil => rfl
  | append_singleton requests count ih =>
    rw [after_concat, granted_concat]
    split
    · rename_i hgranted
      rw [growths_ensure (request_of_granted hgranted), topCount_concat, ih, size_after]
    · rename_i hrefused
      rw [request_of_refused (Nat.not_lt.mp hrefused), List.append_nil, ih]

theorem text_after (requests : List Nat) (row : Nat) :
    (after requests).text row = if row < (after requests).size then row.repr else missing :=
  (Counting.after requests).text_eq row

theorem size_request_le (numbers : RowNumbers) (count : Nat) :
    numbers.size ≤ (numbers.request count).size := by
  unfold request
  split
  · rename_i hnext
    rw [size_ensure hnext]
    exact Nat.le_max_left _ _
  · exact Nat.le_refl _

/-- The store never shrinks. -/
theorem size_after_le (requests later : List Nat) :
    (after requests).size ≤ (after (requests ++ later)).size := by
  rw [after_append]
  generalize after requests = numbers
  induction later generalizing numbers with
  | nil => exact Nat.le_refl _
  | cons count later ih => exact Nat.le_trans (numbers.size_request_le count) (ih _)

theorem size_after_perm {requests reordered : List Nat} (h : reordered.Perm requests) :
    (after reordered).size = (after requests).size := by
  rw [size_after, size_after, granted, granted]
  exact largest_perm (h.filter _)

/-- **The store after any requests.** It has as many rows as the largest granted request asks
for, and has grown as often as a granted request asked for more than all granted before it.
A row of the store reads its decimal text, and any other row `null`. A request is refused
exactly if no store of so many rows can be made, and changes nothing then. The text of a row
stays through all later requests; rows and texts are the same for the requests in any order;
and no two rows have the same text. -/
theorem after_closed_form (requests : List Nat) :
    (after requests).size = (granted requests).foldl max 0 ∧
    (after requests).growths = topCount (granted requests) ∧
    (∀ row, (after requests).text row =
      if row < (after requests).size then row.repr else "null") ∧
    (∀ count, ((∃ fault, (after requests).ensure count = .error fault) ↔ capacity ≤ count) ∧
      (capacity ≤ count → after (requests ++ [count]) = after requests)) ∧
    (∀ later row, row < (after requests).size →
      (after (requests ++ later)).text row = (after requests).text row) ∧
    (∀ reordered : List Nat, reordered.Perm requests →
      (after reordered).size = (after requests).size ∧
        ∀ row, (after reordered).text row = (after requests).text row) ∧
    (∀ row < (after requests).size, ∀ other < (after requests).size,
      (after requests).text row = (after requests).text other → row = other) := by
  refine ⟨size_after requests, growths_after requests, text_after requests,
    fun count => ⟨refused_iff requests count, fun hrefused => ?_⟩, ?_, fun reordered hperm => ?_, ?_⟩
  · rw [after_concat, request_of_refused hrefused]
  · intro later row hrow
    have hlater := Nat.lt_of_lt_of_le hrow (size_after_le requests later)
    rw [text_after, text_after, if_pos hrow, if_pos hlater]
  · have hsize := size_after_perm hperm
    refine ⟨hsize, fun row => ?_⟩
    rw [text_after, text_after, hsize]
  · intro row hrow other hother hsame
    rw [text_after, text_after, if_pos hrow, if_pos hother] at hsame
    exact Nat.repr_injective hsame

/-- Of these requests the second one is refused, and the last one asks for fewer rows. -/
theorem after_closed_form_refused :
    capacity ≤ 0x1000000000000000 ∧ [2, 3, 5].Perm [3, 5, 2] ∧
      (after [3, 0x1000000000000000, 5, 2]).size = 5 ∧
      (after [3, 0x1000000000000000, 5, 2]).growths = 2 ∧
      after ([3] ++ [0x1000000000000000]) = after [3] ∧
      (after [2, 3, 5]).text 4 = "4" ∧
      (after ([3, 5, 2] ++ [9])).text 4 = (after [3, 5, 2]).text 4 := by
  obtain ⟨hsize, hgrowths, -⟩ := after_closed_form [3, 0x1000000000000000, 5, 2]
  obtain ⟨-, -, -, hrefused, -⟩ := after_closed_form [3]
  obtain ⟨hrows, -, htext, -, hstays, hreordered, -⟩ := after_closed_form [3, 5, 2]
  have hlarge : capacity ≤ 0x1000000000000000 := by decide
  have hperm : [2, 3, 5].Perm [3, 5, 2] := by decide
  have hrow : 4 < (after [3, 5, 2]).size := by
    rw [hrows]
    decide
  refine ⟨hlarge, hperm, hsize, ?_, (hrefused _).2 hlarge, ?_, hstays [9] 4 hrow⟩
  · rw [hgrowths]
    decide
  · rw [(hreordered _ hperm).2 4, htext 4, if_pos hrow]
    decide

end RowNumbers

end AttributeBrowser
