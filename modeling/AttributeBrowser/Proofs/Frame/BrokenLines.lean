import AttributeBrowser.Proofs.Frame.TextLines
import AttributeBrowser.Proofs.Frame.TypedView

/-!
# The lines of a text

A text is cut into lines at its line feeds, each together with a carriage return right before
it (`CellText.Lines`). A text has its lines in one way only, `CellText.lines`, and is shown as
these lines with a mark between any two: marking the breaks with returns first and the other
line feeds then cuts the text at the same places.
-/

namespace AttributeBrowser

namespace CellText

variable {c : Char} {text rest line : List Char} {pieces : List (List Char)}

/-- The lines of a text. A line ends with the text, at a line feed, or at a carriage return and
a line feed. -/
inductive Lines : List Char → List (List Char) → Prop
  | last {line : List Char} (hline : '\n' ∉ line) : Lines line [line]
  | feed {line rest : List Char} {pieces : List (List Char)} (hline : '\n' ∉ line)
      (hend : line.getLast? ≠ some '\r') (hrest : Lines rest pieces) :
      Lines (line ++ '\n' :: rest) (line :: pieces)
  | returnFeed {line rest : List Char} {pieces : List (List Char)} (hline : '\n' ∉ line)
      (hrest : Lines rest pieces) : Lines (line ++ '\r' :: '\n' :: rest) (line :: pieces)

/-- The lines of a text, found from its first character on. -/
def lines : List Char → List (List Char)
  | '\r' :: '\n' :: rest => [] :: lines rest
  | c :: rest => if c = '\n' then [] :: lines rest else (lines rest).modifyHead (c :: ·)
  | [] => [[]]

/-- The character does not begin a line break in front of this text. -/
def StaysInLine (c : Char) (rest : List Char) : Prop :=
  c ≠ '\n' ∧ (c = '\r' → rest.head? ≠ some '\n')

theorem lines_feed (rest : List Char) : lines ('\n' :: rest) = [] :: lines rest := by
  rw [lines.eq_2 _ _ (fun _ h => absurd h (by decide)), if_pos rfl]

theorem lines_cons (h : StaysInLine c rest) :
    lines (c :: rest) = (lines rest).modifyHead (c :: ·) := by
  obtain ⟨hfeed, hreturn⟩ := h
  rw [lines.eq_2 _ _ ?_, if_neg hfeed]
  rintro others rfl rfl
  exact hreturn rfl rfl

theorem lines_ne_nil (text : List Char) : lines text ≠ [] := by
  fun_induction lines text with
  | case1 rest ih => exact List.cons_ne_nil _ _
  | case2 rest hnot ih => exact List.cons_ne_nil _ _
  | case3 c rest hnot hc ih =>
    rw [ne_eq, List.modifyHead_eq_nil_iff]
    exact ih
  | case4 => exact List.cons_ne_nil _ _

/-! ## One way to cut a text -/

/-- A line with another character in front is a line, unless that makes a break. -/
theorem Lines.cons (h : Lines rest pieces) (hc : StaysInLine c rest) :
    Lines (c :: rest) (pieces.modifyHead (c :: ·)) := by
  obtain ⟨hfeed, hreturn⟩ := hc
  have hfront : ∀ {line : List Char}, '\n' ∉ line → '\n' ∉ c :: line := fun hline hmem =>
    (List.mem_cons.mp hmem).elim (fun heq => hfeed heq.symm) hline
  cases h with
  | last hline => exact .last (hfront hline)
  | @feed line rest pieces hline hend hrest =>
    refine .feed (hfront hline) ?_ hrest
    cases line with
    | nil =>
      intro heq
      cases heq
      exact hreturn rfl rfl
    | cons first others => rwa [List.getLast?_cons_cons]
  | returnFeed hline hrest => exact .returnFeed (hfront hline) hrest

/-- The lines that are found are lines of the text. -/
theorem lines_spec (text : List Char) : Lines text (lines text) := by
  fun_induction lines text with
  | case1 rest ih => exact .returnFeed List.not_mem_nil ih
  | case2 rest hnot ih => exact .feed List.not_mem_nil nofun ih
  | case3 c rest hnot hc ih =>
    refine ih.cons ⟨hc, ?_⟩
    rintro rfl hhead
    obtain ⟨others, rfl⟩ := List.head?_eq_some_iff.mp hhead
    exact hnot others rfl rfl
  | case4 => exact .last List.not_mem_nil

/-- A line is found up to a break that is not begun in it. -/
theorem lines_append (hline : '\n' ∉ line)
    (hend : line.getLast? = some '\r' → text.head? ≠ some '\n')
    (htext : lines text = [] :: pieces) : lines (line ++ text) = line :: pieces := by
  induction line with
  | nil => exact htext
  | cons c line ih =>
    rw [List.mem_cons, not_or] at hline
    obtain ⟨hc, hline⟩ := hline
    have hstays : StaysInLine c (line ++ text) := by
      refine ⟨Ne.symm hc, ?_⟩
      rintro rfl
      cases line with
      | nil => exact hend rfl
      | cons first others =>
        intro heq
        cases heq
        exact hline List.mem_cons_self
    rw [List.cons_append, lines_cons hstays, ih hline]
    · rfl
    · intro hlast
      refine hend ?_
      rw [List.getLast?_cons, hlast]
      rfl

/-- **A text has its lines in one way only.** -/
theorem lines_iff : Lines text pieces ↔ pieces = lines text := by
  constructor
  · intro h
    induction h with
    | @last line hline =>
      have hempty : lines (line ++ []) = [line] := lines_append hline nofun rfl
      rw [List.append_nil] at hempty
      exact hempty.symm
    | feed hline hend hrest ih =>
      rw [ih]
      exact (lines_append hline (fun heq => absurd heq hend) (lines_feed _)).symm
    | returnFeed hline hrest ih =>
      rw [ih]
      refine (lines_append hline (fun _ => ?_) rfl).symm
      rw [List.head?_cons]
      decide
  · rintro rfl
    exact lines_spec text

/-! ## The text on one line -/

/-- Lines between marks, of which the first one gets another character. -/
theorem intercalate_modifyHead (c : Char) {pieces : List (List Char)} (h : pieces ≠ [])
    (mark : List Char) :
    mark.intercalate (pieces.modifyHead (c :: ·)) = c :: mark.intercalate pieces := by
  match pieces with
  | [line] => rfl
  | line :: next :: others => rfl

/-- A text that begins with a break begins with a mark. -/
theorem intercalate_nil_cons {pieces : List (List Char)} (h : pieces ≠ []) (mark : List Char) :
    mark.intercalate ([] :: pieces) = mark ++ mark.intercalate pieces := by
  match pieces with
  | line :: others => rfl

theorem markFeeds_breakMark (text : List Char) :
    markFeeds (breakMark ++ text) = breakMark ++ markFeeds text := rfl

/-- **The two replacements are one**: what is left of the breaks with returns has none of the
other line feeds. -/
theorem markFeeds_markReturns (text : List Char) :
    markFeeds (markReturns text) = breakMark.intercalate (lines text) := by
  fun_induction lines text with
  | case1 rest ih =>
    rw [markReturns, markFeeds_breakMark, ih, intercalate_nil_cons (lines_ne_nil rest)]
  | case2 rest hnot ih =>
    rw [markReturns.eq_2 _ _ hnot, markFeeds, if_pos rfl, ih,
      intercalate_nil_cons (lines_ne_nil rest)]
  | case3 c rest hnot hc ih =>
    rw [markReturns.eq_2 _ _ hnot, markFeeds, if_neg hc, ih,
      intercalate_modifyHead c (lines_ne_nil rest)]
  | case4 => rfl

theorem toList_ofText (text : String) :
    (ofText text).toList = breakMark.intercalate (lines text.toList) := by
  rw [ofText, String.toList_ofList, markFeeds_markReturns]

/-! ## What is kept -/

theorem flatten_sublist_intercalate (mark : List Char) (pieces : List (List Char)) :
    pieces.flatten.Sublist (mark.intercalate pieces) := by
  induction pieces with
  | nil => exact .slnil
  | cons line others ih =>
    cases others with
    | nil => exact .refl _
    | cons next others =>
      exact (List.Sublist.refl line).append (ih.trans (List.sublist_append_right mark _))

theorem flatten_modifyHead (c : Char) {pieces : List (List Char)} (h : pieces ≠ []) :
    (pieces.modifyHead (c :: ·)).flatten = c :: pieces.flatten := by
  match pieces with
  | line :: others => rfl

/-- The number of line feeds without a carriage return before them. -/
def bareFeeds : List Char → Nat
  | '\r' :: '\n' :: rest => bareFeeds rest
  | c :: rest => if c = '\n' then bareFeeds rest + 1 else bareFeeds rest
  | [] => 0

theorem feeds_eq (text : List Char) : feeds text = bareFeeds text + returns text := by
  fun_induction bareFeeds text with
  | case1 rest ih =>
    rw [feeds_cons_of_ne (by decide), feeds, List.count_cons_self, ← feeds, ih, returns]
    omega
  | case2 rest hnot ih =>
    rw [feeds, List.count_cons_self, ← feeds, ih, returns.eq_2 _ _ hnot]
    omega
  | case3 c rest hnot hc ih => rw [feeds_cons_of_ne hc, ih, returns.eq_2 _ _ hnot]
  | case4 => rfl

/-- **Only the line breaks are left out of the lines**, and what is left keeps its order. -/
theorem lines_kept (text : List Char) :
    (lines text).flatten.Sublist text ∧
      text.length = (lines text).flatten.length + (bareFeeds text + 2 * returns text) := by
  fun_induction lines text with
  | case1 rest ih =>
    obtain ⟨hsub, hlength⟩ := ih
    rw [List.flatten_cons, List.nil_append, bareFeeds, returns, List.length_cons,
      List.length_cons, hlength]
    exact ⟨(hsub.cons _).cons _, by omega⟩
  | case2 rest hnot ih =>
    obtain ⟨hsub, hlength⟩ := ih
    rw [List.flatten_cons, List.nil_append, bareFeeds.eq_2 _ _ hnot, if_pos rfl,
      returns.eq_2 _ _ hnot, List.length_cons, hlength]
    exact ⟨hsub.cons _, by omega⟩
  | case3 c rest hnot hc ih =>
    obtain ⟨hsub, hlength⟩ := ih
    rw [flatten_modifyHead c (lines_ne_nil rest), bareFeeds.eq_2 _ _ hnot, if_neg hc,
      returns.eq_2 _ _ hnot, List.length_cons, List.length_cons, hlength]
    exact ⟨hsub.cons_cons _, by omega⟩
  | case4 => exact ⟨.slnil, rfl⟩

/-- A mark is two characters longer than a line feed, and one longer than both characters of a
break with a return. -/
theorem length_ofText_eq (text : String) :
    (ofText text).length =
      text.length + 2 * bareFeeds text.toList + returns text.toList := by
  have hlength := length_ofText text
  rw [feeds_eq] at hlength
  omega

end CellText

namespace Frame

open CellText

/-- **A text is shown as its lines with marks between them.** It has its lines in one way only,
and these leave nothing out but line breaks. What is shown keeps them in order, has no line feed,
and is longer by what the marks have more than the breaks. -/
theorem shows_lines_joined {frame : Frame} {maxWidth : ℕ} {raw : Source}
    (h : frame.source maxWidth = .ok raw) {place row : ℕ} {column : Column}
    (hcolumn : frame.columns[place]? = some column) {cells : Array (Option String)}
    (hcells : column.cells = .texts cells) {text : String}
    (htext : cells[row]? = some (some text)) :
    ∃ shown pieces, raw.valueAt row place = .ok (.text shown) ∧
      (∀ others, Lines text.toList others ↔ others = pieces) ∧
      (pieces.flatten.Sublist text.toList ∧ text.length =
        pieces.flatten.length + (bareFeeds text.toList + 2 * returns text.toList)) ∧
      shown.toList = breakMark.intercalate pieces ∧ pieces.flatten.Sublist shown.toList ∧
      OneLine shown ∧
      shown.length = text.length + 2 * bareFeeds text.toList + returns text.toList := by
  have hcell : column.cells.cell row = .text (ofText text) := by
    rw [hcells, ColumnCells.cell, htext]
    rfl
  have hkept := lines_kept text.toList
  rw [String.length_toList] at hkept
  have hshown := toList_ofText text
  refine ⟨ofText text, lines text.toList, ?_, fun _ => lines_iff, hkept, hshown, ?_,
    oneLine_ofText text, length_ofText_eq text⟩
  · rw [valueAt_source h hcolumn row, hcell]
  · rw [hshown]
    exact flatten_sublist_intercalate breakMark _

/-- A text with a lone return, breaks of both kinds and one of them at its end. -/
def brokenText : Frame where
  columns := #[⟨"a", .texts #[none, some "x\r\r\n\n\ry\n"]⟩]
  height := 2
  size_eq := by decide
  nodup := by decide

/-- The first return is no part of the break behind it, and neither is the one before a letter. -/
theorem shows_lines_joined_broken :
    ∃ raw shown, brokenText.source 40 = .ok raw ∧
      raw.valueAt 1 0 = .ok (.text shown) ∧
      Lines "x\r\r\n\n\ry\n".toList [['x', '\r'], [], ['\r', 'y'], []] ∧
      shown.toList = "x\r ↵  ↵ \ry ↵ ".toList ∧ shown.length = 13 := by
  obtain ⟨raw, hraw⟩ : ∃ raw, brokenText.source 40 = .ok raw :=
    exists_source_iff.mpr (by simp [brokenText, ColumnCells.toTexts])
  have hcolumn : brokenText.columns[0]? =
      some ⟨"a", .texts #[none, some "x\r\r\n\n\ry\n"]⟩ := rfl
  have htext : #[none, some "x\r\r\n\n\ry\n"][1]? = some (some "x\r\r\n\n\ry\n") := rfl
  obtain ⟨shown, pieces, hvalue, hlines, -, hshown, -, -, hlength⟩ :=
    shows_lines_joined hraw hcolumn rfl htext
  have hcut : Lines "x\r\r\n\n\ry\n".toList [['x', '\r'], [], ['\r', 'y'], []] :=
    lines_iff.mpr (by decide)
  obtain rfl := (hlines _).mp hcut
  refine ⟨raw, shown, hraw, hvalue, hcut, ?_, ?_⟩
  · rw [hshown]
    rfl
  · rw [hlength]
    rfl

end Frame

end AttributeBrowser
