import AttributeBrowser.Proofs.Text.Drawn
import AttributeBrowser.Screen.Line

/-!
# What is read of a line

Text is written into a line symbol by symbol, each with the squares that it covers (`Filled`).
From the left, as many graphemes are written as fit, and at the right edge as many from the end
of the text; what is left free is blank. A grapheme without a width goes with the one before it
and cannot be read if that one is wide (`legible`).
-/

namespace AttributeBrowser

namespace Line

/-- So many blanks. -/
def spaces (count : Nat) : String := String.ofList (List.replicate count ' ')

theorem spaces_succ (count : Nat) : spaces (count + 1) = " " ++ spaces count := by
  simp only [← String.toList_inj, String.toList_append, spaces, String.toList_ofList]
  rfl

/-! ## Symbols and the squares they cover -/

/-- A line of symbols, each with the squares that it covers behind it: the width of its last
symbol, and what is read of it. -/
inductive Filled : List Square → Nat → String → Prop
  | nil : Filled [] 0 ""
  | snoc {line : List Square} {last : Nat} {read : String} (h : Filled line last read)
      (square : Square) {hidden : List Square} (hwidth : square.width = hidden.length + 1) :
      Filled (line ++ square :: hidden) square.width (read ++ square.symbol)

variable {line squares hidden done : List Square} {square : Square} {last room used width : Nat}
  {read symbol waiting : String} {grapheme : String × Nat}
  {graphemes front back first second : List (String × Nat)}

theorem uncovered_append (hidden rest : List Square) :
    uncovered hidden.length (hidden ++ rest) = uncovered 0 rest := by
  induction hidden with
  | nil => rfl
  | cons square hidden ih => exact ih

theorem text_cons (h : square.width = hidden.length + 1) (rest : List Square) :
    text (square :: hidden ++ rest) = square.symbol ++ text rest := by
  rw [text, List.cons_append, uncovered, h, Nat.add_sub_cancel, uncovered_append, List.map_cons,
    String.join_cons, text]

theorem Filled.text_append (h : Filled line last read) (rest : List Square) :
    text (line ++ rest) = read ++ text rest := by
  induction h generalizing rest with
  | nil => rw [List.nil_append, String.empty_append]
  | snoc _ _ hwidth ih => rw [List.append_assoc, ih, text_cons hwidth, String.append_assoc]

theorem text_blanks_append (count : Nat) (rest : List Square) :
    text (blanks count ++ rest) = spaces count ++ text rest := by
  induction count with
  | zero => exact (String.empty_append).symm
  | succ count ih =>
    have hsplit : blanks (count + 1) ++ rest = ({} : Square) :: [] ++ (blanks count ++ rest) := rfl
    rw [hsplit, text_cons rfl, ih, spaces_succ, String.append_assoc]

theorem text_blanks (count : Nat) : text (blanks count) = spaces count := by
  have h := text_blanks_append count []
  rw [List.append_nil] at h
  exact h.trans String.append_empty

/-- A line with blanks behind it reads as it is with blanks behind it. -/
theorem Filled.text_pad (h : Filled line last read) (hroom : line.length ≤ room) :
    text (pad room line) = read ++ spaces (room - line.length) := by
  rw [pad, List.take_of_length_le, h.text_append, text_blanks]
  rw [List.length_append, blanks, List.length_replicate]
  omega

theorem length_pad (room : Nat) (squares : List Square) : (pad room squares).length = room := by
  rw [pad, List.length_take, List.length_append, blanks, List.length_replicate]
  omega

theorem pad_of_length (h : squares.length = room) : pad room squares = squares := by
  subst h
  rw [pad, Nat.sub_self, blanks, List.replicate_zero, List.append_nil, List.take_length]

theorem length_covered (symbol : String) (hwidth : 0 < width) :
    (covered symbol width).length = width := by
  rw [covered, List.length_append, blanks, List.length_replicate, List.length_singleton]
  omega

/-! ## Lines in reverse

A line is written in reverse, the last square first. -/

theorem filled_nil : Filled ([] : List Square).reverse 0 "" := Filled.nil

/-- One more symbol, with the squares that it covers. -/
theorem Filled.push (h : Filled done.reverse last read) (square : Square)
    (hwidth : 0 < square.width) :
    Filled (blanks (square.width - 1) ++ square :: done).reverse square.width
      (read ++ square.symbol) := by
  have hsquares : square.width = (blanks (square.width - 1)).length + 1 := by
    rw [blanks, List.length_replicate]
    omega
  rw [List.reverse_append, List.reverse_cons, blanks, List.reverse_replicate, List.append_assoc]
  exact h.snoc square hsquares

theorem Filled.covered (h : Filled done.reverse last read) (symbol : String) (hwidth : 0 < width) :
    Filled (Line.covered symbol width ++ done).reverse width (read ++ symbol) := by
  rw [Line.covered, List.append_assoc]
  exact h.push { symbol := symbol, width := width } hwidth

/-- A mark goes into the last square, which shows it only if it has a symbol of its own. -/
theorem Filled.mark (h : Filled (square :: done).reverse last read) (symbol : String) :
    Filled ({ square with symbol := square.symbol ++ symbol } :: done).reverse last
      (read ++ if last ≤ 1 then symbol else "") := by
  rw [List.reverse_cons] at h ⊢
  generalize hline : done.reverse ++ [square] = line at h
  cases h with
  | nil => simp at hline
  | @snoc line _ read h head hidden hwidth =>
    rcases List.eq_nil_or_concat hidden with rfl | ⟨covered, tail, rfl⟩
    · obtain ⟨hdone, hhead⟩ := List.append_inj' hline rfl
      obtain rfl := List.singleton_inj.mp hhead
      have hnarrow : square.width ≤ 1 := Nat.le_of_eq hwidth
      rw [if_pos hnarrow, String.append_assoc, hdone]
      exact h.snoc { square with symbol := square.symbol ++ symbol } hwidth
    · rw [List.concat_eq_append, ← List.cons_append, ← List.append_assoc] at hline
      obtain ⟨hdone, -⟩ := List.append_inj' hline rfl
      have hwide : ¬head.width ≤ 1 := by
        rw [hwidth, List.length_concat]
        omega
      rw [if_neg hwide, String.append_empty, hdone, List.append_assoc, List.cons_append]
      refine h.snoc head ?_
      rw [hwidth, List.length_concat, List.length_append, List.length_singleton]

/-! ## As many graphemes as fit -/

/-- The first graphemes, as many as fit. -/
structure Fits (room : Nat) (graphemes front back : List (String × Nat)) : Prop where
  split : graphemes = front ++ back
  within : places front ≤ room
  next : ∀ grapheme, back.head? = some grapheme → room < places front + grapheme.2

theorem places_cons (grapheme : String × Nat) (rest : List (String × Nat)) :
    places (grapheme :: rest) = grapheme.2 + places rest := rfl

theorem places_append (first second : List (String × Nat)) :
    places (first ++ second) = places first + places second := by
  induction first with
  | nil => exact (Nat.zero_add _).symm
  | cons grapheme first ih => rw [List.cons_append, places_cons, ih, places_cons, Nat.add_assoc]

/-- Graphemes that fit are all among the first ones. -/
theorem Fits.exists_append (h : Fits room (first ++ second) front back)
    (hfirst : places first ≤ room) : ∃ more, front = first ++ more := by
  rcases List.append_eq_append_iff.mp h.split with ⟨more, hmore, -⟩ | ⟨more, hmore, hback⟩
  · exact ⟨more, hmore⟩
  · cases more with
    | nil => exact ⟨[], by rw [hmore, List.append_nil, List.append_nil]⟩
    | cons grapheme more =>
      have hnext := h.next grapheme (by rw [hback]; rfl)
      rw [hmore, places_append, places_cons] at hfirst
      omega

/-- If all fit, none is left. -/
theorem Fits.eq_of_le (h : Fits room graphemes front back) (hall : places graphemes ≤ room) :
    front = graphemes := by
  rw [← List.append_nil graphemes] at h
  obtain ⟨more, hmore⟩ := h.exists_append hall
  have hlength := congrArg List.length h.split
  rw [hmore] at hlength ⊢
  simp only [List.length_append, List.length_nil] at hlength
  rw [List.eq_nil_of_length_eq_zero (l := more) (by omega), List.append_nil]

theorem Fits.nothing (h : room < grapheme.2) (rest : List (String × Nat)) :
    Fits room (grapheme :: rest) [] (grapheme :: rest) where
  split := rfl
  within := Nat.zero_le _
  next := by
    intro other hother
    cases hother
    exact Nat.lt_of_lt_of_le h (Nat.le_add_left _ _)

theorem Fits.nil (room : Nat) : Fits room [] [] [] where
  split := rfl
  within := Nat.zero_le _
  next _ hnone := by cases hnone

theorem Fits.cons (h : Fits (room - grapheme.2) graphemes front back) (hroom : grapheme.2 ≤ room) :
    Fits room (grapheme :: graphemes) (grapheme :: front) back where
  split := by rw [h.split, List.cons_append]
  within := by
    have hfront := h.within
    rw [places_cons]
    omega
  next := by
    intro other hother
    have hnext := h.next other hother
    rw [places_cons]
    omega

/-! ## Written from the left -/

/-- What can be read of graphemes behind one of a given width: a mark is covered by a wide
symbol before it. -/
def legible : Nat → List (String × Nat) → String
  | _, [] => ""
  | before, (symbol, 0) :: rest => (if before ≤ 1 then symbol else "") ++ legible before rest
  | _, (symbol, width + 1) :: rest => symbol ++ legible (width + 1) rest

/-- Without marks, all symbols are read. -/
theorem legible_of_pos (before : Nat) (h : ∀ grapheme ∈ graphemes, 0 < grapheme.2) :
    legible before graphemes = String.join (graphemes.map (·.1)) := by
  induction graphemes generalizing before with
  | nil => rfl
  | cons grapheme rest ih =>
    obtain ⟨hpos, hrest⟩ := List.forall_mem_cons.mp h
    obtain ⟨symbol, width⟩ := grapheme
    match width with
    | 0 => exact absurd hpos (Nat.lt_irrefl 0)
    | width + 1 => rw [legible, ih _ hrest, List.map_cons, String.join_cons]

theorem Filled.legible_nil (h : Filled line last read) :
    Filled line last (read ++ legible last []) := by
  rwa [legible, String.append_empty]

/-- Behind a symbol, graphemes are written as long as they fit. -/
theorem place_of_used (h : Filled done.reverse last read) (hpos : 0 < done.length)
    (hroom : done.length ≤ room) (graphemes : List (String × Nat)) :
    ∃ front back width, Fits (room - done.length) graphemes front back ∧
      Filled (place room done.length "" done graphemes).reverse width
        (read ++ legible last front) ∧
      (place room done.length "" done graphemes).length = done.length + places front := by
  induction graphemes generalizing done last read with
  | nil =>
    rw [place, if_neg (by omega)]
    exact ⟨[], [], last, Fits.nil _, h.legible_nil, rfl⟩
  | cons grapheme rest ih =>
    obtain ⟨symbol, width⟩ := grapheme
    obtain ⟨square, before, rfl⟩ := List.exists_cons_of_length_pos hpos
    rw [place]
    by_cases hover : room < (square :: before).length + width
    · rw [if_pos hover, if_neg (by omega)]
      exact ⟨[], _, last, Fits.nothing (by simp only; omega) rest, h.legible_nil, rfl⟩
    · rw [if_neg hover, if_neg (Nat.ne_of_gt hpos)]
      match width with
      | 0 =>
        rw [if_pos rfl]
        obtain ⟨front, back, width, hfits, hfilled, hcount⟩ := ih (h.mark symbol) hpos hroom
        refine ⟨(symbol, 0) :: front, back, width, Fits.cons hfits (Nat.zero_le _), ?_, ?_⟩
        · rw [legible, ← String.append_assoc]
          exact hfilled
        · rw [places_cons, Nat.zero_add]
          exact hcount
      | width + 1 =>
        have hwidth : 0 < width + 1 := Nat.succ_pos width
        have hlength : (covered symbol (width + 1) ++ square :: before).length =
            (square :: before).length + (width + 1) := by
          rw [List.length_append, length_covered symbol hwidth, Nat.add_comm]
        obtain ⟨front, back, last', hfits, hfilled, hcount⟩ :=
          ih (h.covered symbol hwidth) (by omega) (by omega)
        rw [hlength] at hfits hfilled hcount
        rw [if_neg (Nat.succ_ne_zero width)]
        refine ⟨(symbol, width + 1) :: front, back, last', ?_, ?_, ?_⟩
        · refine Fits.cons ?_ (by simp only; omega)
          rwa [Nat.sub_sub]
        · rw [legible, ← String.append_assoc]
          exact hfilled
        · rw [places_cons, ← Nat.add_assoc _ (width + 1)]
          exact hcount

/-- The number of squares of what is written: marks alone take one. -/
def taken (front : List (String × Nat)) (read : String) : Nat :=
  max (places front) (if read = "" then 0 else 1)

/-- Marks that no symbol follows stand alone in one square. -/
theorem place_nil (room : Nat) (waiting : String) : ∃ last,
    Filled (place room 0 waiting [] []).reverse last (waiting ++ legible 0 []) ∧
      (place room 0 waiting [] []).length = taken [] (waiting ++ legible 0 []) := by
  rw [legible, String.append_empty, place, taken]
  by_cases hempty : waiting = ""
  · subst hempty
    exact ⟨0, Filled.nil, rfl⟩
  · rw [if_pos ⟨rfl, hempty⟩, if_neg hempty]
    exact ⟨1, filled_nil.covered waiting Nat.one_pos, rfl⟩

/-- Marks in front wait for the first symbol, and stand alone if none comes. -/
theorem place_of_waiting (room : Nat) (waiting : String) (graphemes : List (String × Nat)) :
    ∃ front back width, Fits room graphemes front back ∧
      Filled (place room 0 waiting [] graphemes).reverse width (waiting ++ legible 0 front) ∧
      (place room 0 waiting [] graphemes).length = taken front (waiting ++ legible 0 front) := by
  induction graphemes generalizing waiting with
  | nil =>
    obtain ⟨last, halone⟩ := place_nil room waiting
    exact ⟨[], [], last, Fits.nil _, halone⟩
  | cons grapheme rest ih =>
    obtain ⟨symbol, width⟩ := grapheme
    rw [place]
    by_cases hover : room < 0 + width
    · obtain ⟨last, halone⟩ := place_nil room waiting
      rw [if_pos hover]
      exact ⟨[], _, last, Fits.nothing (by simp only; omega) rest, halone⟩
    · rw [if_neg hover, if_pos rfl]
      match width with
      | 0 =>
        obtain ⟨front, back, last, hfits, hfilled, hlength⟩ := ih (waiting ++ symbol)
        rw [String.append_assoc] at hfilled hlength
        rw [if_pos rfl]
        refine ⟨(symbol, 0) :: front, back, last, Fits.cons hfits (Nat.zero_le _), hfilled, ?_⟩
        rw [hlength, taken, taken, places_cons, Nat.zero_add]
        rfl
      | width + 1 =>
        have hwidth : 0 < width + 1 := Nat.succ_pos width
        have hlength := length_covered (waiting ++ symbol) hwidth
        have hfirst := filled_nil.covered (waiting ++ symbol) hwidth
        rw [List.append_nil, String.empty_append] at hfirst
        have hroom : (covered (waiting ++ symbol) (width + 1)).length ≤ room := by omega
        obtain ⟨front, back, last, hfits, hfilled, hcount⟩ :=
          place_of_used hfirst (by omega) hroom rest
        rw [hlength] at hfits hfilled hcount
        rw [if_neg (Nat.succ_ne_zero width)]
        refine ⟨(symbol, width + 1) :: front, back, last, Fits.cons hfits (by simp only; omega),
          ?_, ?_⟩
        · rw [legible, ← String.append_assoc]
          exact hfilled
        · rw [hcount, taken, places_cons]
          split <;> simp only <;> omega

/-- **A text from the left edge on**: the first graphemes, as many as fit, and blanks. -/
theorem text_writeLeft (hroom : 0 < room) (graphemes : List (String × Nat)) :
    ∃ front back, Fits room graphemes front back ∧
      text (writeLeft room graphemes) =
        legible 0 front ++ spaces (room - taken front (legible 0 front)) := by
  obtain ⟨front, back, last, hfits, hfilled, hlength⟩ := place_of_waiting room "" graphemes
  rw [String.empty_append] at hfilled hlength
  refine ⟨front, back, hfits, ?_⟩
  have hwithin := hfits.within
  have hle : (place room 0 "" [] graphemes).reverse.length ≤ room := by
    rw [List.length_reverse, hlength, taken]
    split <;> omega
  rw [writeLeft, if_neg (by omega), hfilled.text_pad hle, List.length_reverse, hlength]

theorem length_writeLeft (room : Nat) (graphemes : List (String × Nat)) :
    (writeLeft room graphemes).length = room := by
  rw [writeLeft]
  split
  · rename_i hroom
    exact hroom.symm
  · exact length_pad room _

/-! ## Written up to the right edge -/

/-- The last graphemes, as many as fit. -/
structure FitsBack (room : Nat) (graphemes front back : List (String × Nat)) : Prop where
  split : graphemes = front ++ back
  within : places back ≤ room
  next : ∀ grapheme, front.getLast? = some grapheme → room < grapheme.2 + places back

theorem exists_fitsBack (room : Nat) (graphemes : List (String × Nat)) :
    ∃ front, FitsBack room graphemes front (fitting room graphemes) := by
  induction graphemes with
  | nil => exact ⟨[], rfl, Nat.zero_le _, fun _ hnone => by cases hnone⟩
  | cons grapheme rest ih =>
    rw [fitting]
    split
    · rename_i hall
      exact ⟨[], rfl, hall, fun _ hnone => by cases hnone⟩
    · rename_i hover
      obtain ⟨front, hsplit, hwithin, hnext⟩ := ih
      refine ⟨grapheme :: front, by rw [List.cons_append, ← hsplit], hwithin, ?_⟩
      intro other hother
      rw [List.getLast?_cons, Option.some.injEq] at hother
      cases hfront : front.getLast? with
      | some last =>
        rw [hfront] at hother
        exact hother ▸ hnext last hfront
      | none =>
        rw [hfront] at hother
        rw [List.getLast?_eq_none_iff.mp hfront, List.nil_append] at hsplit
        rw [← hsplit, ← hother, Option.getD_none, ← places_cons]
        exact Nat.lt_of_not_le hover

/-- **A text up to the right edge**: blanks, and the last graphemes, as many as fit. If they take
no place, they are not there. -/
theorem text_writeRight (room : Nat) (graphemes : List (String × Nat)) :
    ∃ front back, FitsBack room graphemes front back ∧
      text (writeRight room graphemes) =
        spaces (room - places back) ++ if places back = 0 then "" else legible 0 back := by
  obtain ⟨front, hback⟩ := exists_fitsBack room graphemes
  have hwithin := hback.within
  generalize hfitting : fitting room graphemes = back at hback hwithin
  refine ⟨front, back, hback, ?_⟩
  have hroom : room - (room - places back) = places back := by omega
  simp only [writeRight, hfitting, text_blanks_append, hroom]
  rcases Nat.eq_zero_or_pos (places back) with hzero | hpos
  · rw [hzero, writeLeft, if_pos rfl, if_pos rfl]
    rfl
  · obtain ⟨first, others, hfits, htext⟩ := text_writeLeft hpos back
    have hall := hfits.eq_of_le (Nat.le_refl _)
    subst hall
    have hfull : places first - taken first (legible 0 first) = 0 := by
      rw [taken]
      omega
    rw [if_neg (Nat.ne_of_gt hpos), htext, hfull]
    exact congrArg _ String.append_empty

theorem length_writeRight (room : Nat) (graphemes : List (String × Nat)) :
    (writeRight room graphemes).length = room := by
  rw [writeRight, List.length_append, length_writeLeft, blanks, List.length_replicate]
  omega

/-! ## Texts that fit

A text that is drawn whole stands as it is where it fits. -/

variable {text : String}

theorem places_drawn_of_printed (h : ∀ c ∈ text.toList, Grapheme.IsPrinted c) :
    places (Grapheme.drawn text) = text.length := by
  have hones : ∀ chars : List Char,
      places (chars.map fun c => (String.singleton c, 1)) = chars.length := by
    intro chars
    induction chars with
    | nil => rfl
    | cons c rest ih => rw [List.map_cons, places_cons, ih, List.length_cons, Nat.add_comm]
  rw [Grapheme.drawn_of_printed h, hones, String.length_toList]

theorem legible_drawn (h : Grapheme.IsWhole text) : legible 0 (Grapheme.drawn text) = text := by
  rw [legible_of_pos 0 h.places, Grapheme.join_drawn h.controls]

/-- Only the empty text takes no place. -/
theorem eq_empty_of_places (h : Grapheme.IsWhole text)
    (hplaces : places (Grapheme.drawn text) = 0) : text = "" := by
  have hnone : Grapheme.drawn text = [] := by
    cases hdrawn : Grapheme.drawn text with
    | nil => rfl
    | cons grapheme rest =>
      have hpos := h.places grapheme (by rw [hdrawn]; exact List.mem_cons_self)
      rw [hdrawn, places_cons] at hplaces
      omega
  rw [← legible_drawn h, hnone]
  rfl

theorem text_writeLeft_whole (h : Grapheme.IsWhole text)
    (hfits : places (Grapheme.drawn text) ≤ room) :
    Line.text (writeLeft room (Grapheme.drawn text)) =
      text ++ spaces (room - places (Grapheme.drawn text)) := by
  rcases Nat.eq_zero_or_pos room with rfl | hroom
  · rw [eq_empty_of_places h (Nat.le_zero.mp hfits), writeLeft, if_pos rfl, Nat.zero_sub]
    rfl
  · obtain ⟨front, back, hfront, htext⟩ := text_writeLeft hroom (Grapheme.drawn text)
    obtain rfl := hfront.eq_of_le hfits
    rw [legible_drawn h] at htext
    have htaken : taken (Grapheme.drawn text) text = places (Grapheme.drawn text) := by
      rw [taken]
      by_cases hzero : places (Grapheme.drawn text) = 0
      · rw [if_pos (eq_empty_of_places h hzero), Nat.max_zero]
      · split <;> omega
    rw [htext, htaken]

theorem FitsBack.eq_of_le (h : FitsBack room graphemes front back)
    (hall : places graphemes ≤ room) : back = graphemes := by
  rcases List.eq_nil_or_concat front with rfl | ⟨others, last, rfl⟩
  · exact h.split.symm
  · rw [List.concat_eq_append] at h
    have hnext := h.next last List.getLast?_concat
    rw [h.split, places_append, places_append, places_cons] at hall
    omega

theorem text_writeRight_whole (h : Grapheme.IsWhole text)
    (hfits : places (Grapheme.drawn text) ≤ room) :
    Line.text (writeRight room (Grapheme.drawn text)) =
      spaces (room - places (Grapheme.drawn text)) ++ text := by
  obtain ⟨front, back, hback, htext⟩ := text_writeRight room (Grapheme.drawn text)
  obtain rfl := hback.eq_of_le hfits
  rw [htext, legible_drawn h]
  split
  · rename_i hzero
    rw [eq_empty_of_places h hzero]
  · rfl

end Line

end AttributeBrowser
