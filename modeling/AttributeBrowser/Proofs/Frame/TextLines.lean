import AttributeBrowser.Proofs.Text.OneLine

/-!
# Texts on one line

A text of a frame is shown with a mark for each of its line breaks. No line feed is left, and
the text gets longer by what the marks have more than the breaks: two characters for a line
feed, one if a carriage return stood before it.
-/

namespace AttributeBrowser

namespace CellText

/-- The number of line feeds. -/
def feeds (text : List Char) : Nat := text.count '\n'

/-- The number of line feeds behind a carriage return. -/
def returns : List Char → Nat
  | '\r' :: '\n' :: rest => returns rest + 1
  | _ :: rest => returns rest
  | [] => 0

/-! ## Line feeds -/

theorem not_mem_markFeeds (text : List Char) : '\n' ∉ markFeeds text := by
  induction text with
  | nil => exact List.not_mem_nil
  | cons c rest ih =>
    rw [markFeeds]
    split
    · rw [List.mem_append, not_or]
      exact ⟨by decide, ih⟩
    · rename_i hc
      rw [List.mem_cons, not_or]
      exact ⟨Ne.symm hc, ih⟩

/-- **A text is shown on one line.** -/
theorem oneLine_ofText (text : String) : OneLine (ofText text) :=
  oneLine_ofList.mpr (not_mem_markFeeds _)

/-! ## Lengths -/

theorem length_markFeeds (text : List Char) :
    (markFeeds text).length = text.length + 2 * feeds text := by
  induction text with
  | nil => rfl
  | cons c rest ih =>
    rw [markFeeds]
    split
    · rename_i hc
      subst hc
      simp only [List.length_append, List.length_cons, ih, feeds, List.count_cons_self, breakMark,
        List.length_nil]
      omega
    · rename_i hc
      simp only [List.length_cons, ih, feeds, List.count_cons_of_ne hc]
      omega

theorem feeds_cons_of_ne {c : Char} (h : c ≠ '\n') (rest : List Char) :
    feeds (c :: rest) = feeds rest :=
  List.count_cons_of_ne h

/-- A line feed with a return before it leaves one character more and no line feed. -/
theorem length_markReturns (text : List Char) :
    (markReturns text).length = text.length + returns text ∧
      feeds (markReturns text) + returns text = feeds text := by
  fun_induction markReturns text with
  | case1 rest ih =>
    obtain ⟨hlength, hfeeds⟩ := ih
    have hbreak : feeds (breakMark ++ markReturns rest) = feeds (markReturns rest) := by
      rw [feeds, List.count_append, show breakMark.count '\n' = 0 by decide, Nat.zero_add, feeds]
    have htext : feeds ('\r' :: '\n' :: rest) = feeds rest + 1 := by
      rw [feeds_cons_of_ne (by decide), feeds, List.count_cons_self, feeds]
    rw [hbreak, htext, returns, List.length_append, hlength]
    simp only [breakMark, List.length_cons, List.length_nil]
    omega
  | case2 c rest hnot ih =>
    obtain ⟨hlength, hfeeds⟩ := ih
    rw [returns.eq_2 c rest hnot, List.length_cons, List.length_cons, hlength]
    refine ⟨by omega, ?_⟩
    simp only [feeds, List.count_cons] at hfeeds ⊢
    omega
  | case3 => exact ⟨rfl, rfl⟩

/-- **The length of a text on one line**: two more for every line feed, less one for every
return before one. -/
theorem length_ofText (text : String) :
    (ofText text).length + returns text.toList = text.length + 2 * feeds text.toList := by
  obtain ⟨hlength, hfeeds⟩ := length_markReturns text.toList
  rw [ofText, String.length_ofList, length_markFeeds, hlength, String.length_toList]
  omega

end CellText

end AttributeBrowser
