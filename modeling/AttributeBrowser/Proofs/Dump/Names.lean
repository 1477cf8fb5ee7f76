import Mathlib.Data.List.Basic
import AttributeBrowser.Dump.Path

/-!
# File names and extensions

What a path ends in, told by its bytes: a file name stands at the front of the path or
behind a slash, and only parts that lead nowhere stand behind it. The extension is what
stands behind the last dot of the file name, if that dot is not its first byte. Both are
found where they are, and nowhere else.
-/

namespace AttributeBrowser

/-! ## Texts as bytes -/

namespace Utf8

/-- The bytes of a text, character by character. -/
def encode (text : String) : List UInt8 := text.toList.flatMap String.utf8EncodeChar

theorem toByteArray_encode (text : String) : (encode text).toByteArray = text.toByteArray := by
  rw [encode, ← List.utf8Encode.eq_1, ← String.toByteArray_ofList, String.ofList_toList]

/-- **Bytes are read as a text** exactly if they are the bytes of that text. -/
theorem decode?_eq_some_iff {bytes : List UInt8} {text : String} :
    decode? bytes = some text ↔ bytes = encode text := by
  rw [← List.toByteArray_inj, toByteArray_encode, decode?, String.fromUTF8?]
  constructor
  · intro h
    split at h
    · cases h
      rfl
    · cases h
  · intro h
    rw [dif_pos (h ▸ text.isValidUTF8)]
    exact congrArg some (String.toByteArray_inj.mp h)

end Utf8

namespace Path

variable {separator : UInt8} {path : Path} {bytes part name extension : List UInt8}

/-! ## Parts -/

theorem splitAt_ne_nil (separator : UInt8) (bytes : List UInt8) : splitAt separator bytes ≠ [] := by
  induction bytes with
  | nil => simp [splitAt]
  | cons byte rest ih =>
    rw [splitAt]
    split
    · simp
    · split <;> simp

theorem splitAt_cons_separator (separator : UInt8) (rest : List UInt8) :
    splitAt separator (separator :: rest) = [] :: splitAt separator rest := by
  rw [splitAt]
  split
  · rename_i h
    exact absurd h (splitAt_ne_nil _ _)
  · rename_i h
    rw [if_pos rfl, h]

theorem splitAt_cons_of_ne {byte : UInt8} (h : byte ≠ separator) (rest : List UInt8) :
    splitAt separator (byte :: rest) = (splitAt separator rest).modifyHead (byte :: ·) := by
  rw [splitAt]
  split
  · rename_i h
    exact absurd h (splitAt_ne_nil _ _)
  · rename_i hrest
    rw [if_neg h, hrest]
    rfl

/-- Bytes without a separator are one part. -/
theorem splitAt_of_not_mem (h : separator ∉ part) : splitAt separator part = [part] := by
  induction part with
  | nil => rfl
  | cons byte rest ih =>
    rw [List.mem_cons, not_or] at h
    rw [splitAt_cons_of_ne (Ne.symm h.1), ih h.2]
    rfl

/-- The parts on both sides of a separator. -/
theorem splitAt_append (front rest : List UInt8) :
    splitAt separator (front ++ separator :: rest) =
      splitAt separator front ++ splitAt separator rest := by
  induction front with
  | nil => exact splitAt_cons_separator separator rest
  | cons byte front ih =>
    by_cases hbyte : byte = separator
    · rw [hbyte, List.cons_append, splitAt_cons_separator, splitAt_cons_separator, ih,
        List.cons_append]
    · rw [List.cons_append, splitAt_cons_of_ne hbyte, splitAt_cons_of_ne hbyte, ih]
      cases h : splitAt separator front with
      | nil => exact absurd h (splitAt_ne_nil _ _)
      | cons first others => rfl

theorem splitAt_flatMap {first : List UInt8} {rest : List (List UInt8)} (hfirst : separator ∉ first)
    (hrest : ∀ part ∈ rest, separator ∉ part) :
    splitAt separator (first ++ rest.flatMap (separator :: ·)) = first :: rest := by
  induction rest generalizing first with
  | nil => rw [List.flatMap_nil, List.append_nil, splitAt_of_not_mem hfirst]
  | cons next rest ih =>
    rw [List.flatMap_cons, List.cons_append, splitAt_append, splitAt_of_not_mem hfirst,
      ih (hrest next (by simp)) fun part hpart => hrest part (by simp [hpart])]
    rfl

/-- **Bytes have their parts in one way only**: no part has a separator, and one stands in
front of each but the first. -/
theorem splitAt_eq_cons_iff {first : List UInt8} {rest : List (List UInt8)} :
    splitAt separator bytes = first :: rest ↔
      bytes = first ++ rest.flatMap (separator :: ·) ∧ separator ∉ first ∧
        ∀ part ∈ rest, separator ∉ part := by
  constructor
  · intro h
    induction bytes generalizing first rest with
    | nil =>
      cases h
      simp
    | cons byte bytes ih =>
      obtain ⟨head, tail, hparts⟩ := List.exists_cons_of_ne_nil (splitAt_ne_nil separator bytes)
      obtain ⟨hbytes, hhead, htail⟩ := ih hparts
      by_cases hbyte : byte = separator
      · rw [hbyte, splitAt_cons_separator, hparts] at h
        obtain ⟨rfl, rfl⟩ := List.cons.inj h
        refine ⟨?_, List.not_mem_nil, ?_⟩
        · rw [hbyte, hbytes, List.flatMap_cons, List.nil_append, List.cons_append]
        · intro part hpart
          rcases List.mem_cons.mp hpart with rfl | hpart
          · exact hhead
          · exact htail part hpart
      · rw [splitAt_cons_of_ne hbyte, hparts] at h
        obtain ⟨rfl, rfl⟩ := List.cons.inj h
        refine ⟨by rw [hbytes, List.cons_append], ?_, htail⟩
        rw [List.mem_cons, not_or]
        exact ⟨Ne.symm hbyte, hhead⟩
  · rintro ⟨rfl, hfirst, hrest⟩
    exact splitAt_flatMap hfirst hrest

/-! ## File names -/

/-- The part leads nowhere: it is empty, or a single dot. -/
def IsIdle (part : List UInt8) : Prop := part = [] ∨ part = [dot]

/-- The path ends in a file name. It stands at the front or behind a slash, and only parts that
lead nowhere stand behind it, each behind a slash. -/
structure EndsIn (path : Path) (name : List UInt8) : Prop where
  place : ∃ (front : List UInt8) (idle : List (List UInt8)),
    path.bytes = front ++ name ++ idle.flatMap (slash :: ·) ∧
      (front = [] ∨ ∃ way, front = way ++ [slash]) ∧ ∀ part ∈ idle, IsIdle part
  noSlash : slash ∉ name
  leads : ¬IsIdle name
  /-- Two dots lead upwards. -/
  notUp : name ≠ [dot, dot]

theorem not_mem_of_isIdle (h : IsIdle part) : slash ∉ part := by
  rcases h with rfl | rfl
  · exact List.not_mem_nil
  · decide

/-- The last component is a part that leads somewhere and has none such behind it. -/
theorem getLast?_components_iff : path.components.getLast? = some name ↔
    ¬IsIdle name ∧ ∃ front idle, splitAt slash path.bytes = front ++ name :: idle ∧
      ∀ part ∈ idle, IsIdle part := by
  have hleads (part : List UInt8) : (!part.isEmpty && part != [dot]) = true ↔ ¬IsIdle part := by
    simp [IsIdle]
  have hidle (part : List UInt8) : (!(!part.isEmpty && part != [dot])) = true ↔ IsIdle part := by
    rw [Bool.not_eq_true', ← Bool.not_eq_true, hleads, not_not]
  rw [components, ← List.head?_reverse, ← List.filter_reverse, List.head?_filter,
    List.find?_eq_some_iff_append]
  simp only [hleads, hidle]
  refine and_congr_right fun _ => ?_
  constructor
  · rintro ⟨idle, front, hparts, hall⟩
    refine ⟨front.reverse, idle.reverse, ?_, fun part hpart => hall part (by simpa using hpart)⟩
    rw [← List.reverse_reverse (splitAt slash path.bytes), hparts]
    simp
  · rintro ⟨front, idle, hparts, hall⟩
    refine ⟨idle.reverse, front.reverse, ?_, fun part hpart => hall part (by simpa using hpart)⟩
    rw [hparts]
    simp

/-- **The file name of a path** is found exactly if the path ends in it. -/
theorem fileName?_eq_some_iff : path.fileName? = some name ↔ path.EndsIn name := by
  have hlast : path.fileName? = some name ↔
      path.components.getLast? = some name ∧ name ≠ [dot, dot] := by
    unfold fileName?
    cases path.components.getLast? with
    | none => simp
    | some last =>
      by_cases hup : last = [dot, dot]
      · simp only [hup, if_true, Option.some.injEq, reduceCtorEq, false_iff, not_and, not_not]
        exact Eq.symm
      · simp only [hup, if_false, Option.some.injEq]
        exact ⟨fun h => ⟨h, h ▸ hup⟩, And.left⟩
  rw [hlast, getLast?_components_iff]
  constructor
  · rintro ⟨⟨hleads, front, idle, hparts, hidle⟩, hup⟩
    cases front with
    | nil =>
      obtain ⟨hbytes, hname, -⟩ := splitAt_eq_cons_iff.mp hparts
      exact ⟨⟨[], idle, hbytes, .inl rfl, hidle⟩, hname, hleads, hup⟩
    | cons first others =>
      obtain ⟨hbytes, -, hothers⟩ := splitAt_eq_cons_iff.mp hparts
      refine ⟨⟨first ++ others.flatMap (slash :: ·) ++ [slash], idle, ?_, .inr ⟨_, rfl⟩, hidle⟩,
        hothers name (by simp), hleads, hup⟩
      rw [hbytes]
      simp
  · rintro ⟨⟨front, idle, hbytes, hfront, hidle⟩, hname, hleads, hup⟩
    have hparts : splitAt slash (name ++ idle.flatMap (slash :: ·)) = name :: idle :=
      splitAt_flatMap hname fun part hpart => not_mem_of_isIdle (hidle part hpart)
    refine ⟨⟨hleads, ?_⟩, hup⟩
    rcases hfront with rfl | ⟨way, rfl⟩
    · exact ⟨[], idle, by rw [hbytes]; exact hparts, hidle⟩
    · refine ⟨splitAt slash way, idle, ?_, hidle⟩
      rw [hbytes, List.append_assoc, List.append_assoc, List.singleton_append, splitAt_append,
        hparts]

/-! ## Extensions -/

/-- The bytes stand behind the last dot of the file name, and something stands in front of
that dot. -/
def HasExtension (path : Path) (extension : List UInt8) : Prop :=
  ∃ stem, stem ≠ [] ∧ dot ∉ extension ∧ path.EndsIn (stem ++ dot :: extension)

/-- Looking from the back for a dot finds the last one. -/
theorem behindLastDot_iff :
    (name.reverse.dropWhile (· != dot)).drop 1 ≠ [] ∧
        (name.reverse.takeWhile (· != dot)).reverse = extension ↔
      ∃ stem, stem ≠ [] ∧ dot ∉ extension ∧ name = stem ++ dot :: extension := by
  constructor
  · rintro ⟨hstem, rfl⟩
    have hdot : dot ∉ (name.reverse.takeWhile (· != dot)).reverse := by
      intro hmem
      have hne := List.all_eq_true.mp List.all_takeWhile dot (List.mem_reverse.mp hmem)
      simp at hne
    cases hrest : name.reverse.dropWhile (· != dot) with
    | nil => simp [hrest] at hstem
    | cons first stem =>
      have hfirst : first = dot := by
        have hhead := List.head?_dropWhile_not (· != dot) name.reverse
        simpa [hrest] using hhead
      rw [hrest, List.drop_one, List.tail_cons] at hstem
      refine ⟨stem.reverse, by simpa using hstem, hdot, ?_⟩
      calc
        name = (name.reverse.takeWhile (· != dot) ++
            name.reverse.dropWhile (· != dot)).reverse := by
            rw [List.takeWhile_append_dropWhile, List.reverse_reverse]
        _ = (name.reverse.takeWhile (· != dot) ++ dot :: stem).reverse := by rw [hrest, hfirst]
        _ = stem.reverse ++ dot :: (name.reverse.takeWhile (· != dot)).reverse := by
            rw [List.reverse_append, List.reverse_cons, List.append_assoc, List.singleton_append]
  · rintro ⟨stem, hstem, hdot, rfl⟩
    have hall : ∀ byte ∈ extension.reverse, (byte != dot) = true := by
      intro byte hbyte
      rw [bne_iff_ne]
      rintro rfl
      exact hdot (List.mem_reverse.mp hbyte)
    rw [List.reverse_append, List.reverse_cons, List.append_assoc, List.singleton_append,
      List.dropWhile_append_of_pos hall, List.takeWhile_append_of_pos hall]
    simpa using hstem

/-- **The extension of a path** is found exactly if the path has it. -/
theorem extension?_eq_some_iff :
    path.extension? = some extension ↔ path.HasExtension extension := by
  have hfound : path.extension? = some extension ↔ ∃ name, path.fileName? = some name ∧
      (name.reverse.dropWhile (· != dot)).drop 1 ≠ [] ∧
        (name.reverse.takeWhile (· != dot)).reverse = extension := by
    unfold extension?
    cases path.fileName? with
    | none => simp
    | some name => simp
  rw [hfound]
  simp only [behindLastDot_iff, fileName?_eq_some_iff]
  constructor
  · rintro ⟨name, hends, stem, hstem, hdot, rfl⟩
    exact ⟨stem, hstem, hdot, hends⟩
  · rintro ⟨stem, hstem, hdot, hends⟩
    exact ⟨_, hends, stem, hstem, hdot, rfl⟩

end Path

end AttributeBrowser
