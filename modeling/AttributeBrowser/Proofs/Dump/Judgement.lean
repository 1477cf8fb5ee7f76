import AttributeBrowser.Dump.Load
import AttributeBrowser.Proofs.Dump.Names
import AttributeBrowser.Proofs.Text.Capitals

/-!
# How files are judged

A path is refused for the first of three reasons: nothing is known of a file there, it is
no regular file, or its extension promises no format. A path that is not refused is loaded
by the reader of the format that its extension promises, and by no other. An extension
promises a format if its capital form is one of six words, whichever small, long or
dotless letters write it.
-/

namespace AttributeBrowser

variable {path other : Path} {text : String} {format : FileFormat}

/-! ## Formats -/

namespace FileFormat

/-- The extensions that promise a format, in capitals. -/
def extensions : FileFormat → List String
  | .csv => ["CSV"]
  | .parquet => ["PARQUET", "PQ"]
  | .arrow => ["ARROW", "IPC", "FEATHER"]

theorem ofCapitals?_eq_some_iff : ofCapitals? text = some format ↔ text ∈ format.extensions := by
  unfold ofCapitals?
  constructor
  · intro h
    split at h <;> cases h <;> simp [extensions]
  · intro h
    cases format with
    | csv =>
      obtain rfl := List.mem_singleton.mp h
      rfl
    | parquet =>
      simp only [extensions, List.mem_cons, List.not_mem_nil, or_false] at h
      rcases h with rfl | rfl <;> rfl
    | arrow =>
      simp only [extensions, List.mem_cons, List.not_mem_nil, or_false] at h
      rcases h with rfl | rfl | rfl <;> rfl

theorem isPlain_of_mem_extensions {word : String} (h : word ∈ format.extensions) :
    Uppercase.IsPlain word.toList := by
  have hall : ∀ format : FileFormat, ∀ word ∈ format.extensions,
      Uppercase.IsPlain word.toList := by
    intro format
    cases format <;> decide
  exact hall format word h

/-- A text has one of the extensions as its capital form exactly if it spells one. -/
theorem ofString_mem_extensions_iff : Uppercase.ofString text ∈ format.extensions ↔
    ∃ word ∈ format.extensions, Uppercase.Spells text word := by
  constructor
  · intro h
    exact ⟨_, h, (Uppercase.ofString_eq_iff (isPlain_of_mem_extensions h)).mp rfl⟩
  · rintro ⟨word, hword, hspells⟩
    rw [(Uppercase.ofString_eq_iff (isPlain_of_mem_extensions hword)).mpr hspells]
    exact hword

end FileFormat

/-- The path promises a format: its extension is a text, and that has one of the extensions of
the format as its capital form. -/
def Path.Promises (path : Path) (format : FileFormat) : Prop :=
  ∃ text, path.HasExtension (Utf8.encode text) ∧ Uppercase.ofString text ∈ format.extensions

namespace FileFormat

theorem ofPath?_of_hasExtension (h : path.HasExtension (Utf8.encode text)) :
    ofPath? path = ofCapitals? (Uppercase.ofString text) := by
  rw [ofPath?, Path.extension?_eq_some_iff.mpr h, Option.bind_some,
    Utf8.decode?_eq_some_iff.mpr rfl]

/-- **The format of a path** is found exactly if the path promises it. -/
theorem ofPath?_eq_some_iff : ofPath? path = some format ↔ path.Promises format := by
  constructor
  · intro h
    unfold ofPath? at h
    split at h
    · rename_i text htext
      obtain ⟨bytes, hbytes, hdecode⟩ := Option.bind_eq_some_iff.mp htext
      rw [Path.extension?_eq_some_iff, Utf8.decode?_eq_some_iff.mp hdecode] at hbytes
      exact ⟨text, hbytes, ofCapitals?_eq_some_iff.mp h⟩
    · cases h
  · rintro ⟨text, hextension, hmem⟩
    rw [ofPath?_of_hasExtension hextension]
    exact ofCapitals?_eq_some_iff.mpr hmem

end FileFormat

/-! ## Files -/

namespace Disk

variable {disk : Disk} {error : Error}

/-- There is a regular file at the path. -/
def IsFile (disk : Disk) (path : Path) : Prop :=
  ∃ metadata, disk.stat path = .ok metadata ∧ metadata.isFile = true

/-- Why a path is refused, before anything is read: because of what is known of it, because
there is no regular file, whatever it is called, or because of how it is called. -/
inductive Refuses (disk : Disk) (path : Path) : Error → Prop
  | missing (h : disk.stat path = .error .notFound) : Refuses disk path .fileNotFound
  | denied (h : disk.stat path = .error .permissionDenied) : Refuses disk path .permissionDenied
  | failed {reason : IoReason} (h : disk.stat path = .error (.other reason)) :
      Refuses disk path (.io reason)
  | noFile {metadata : Metadata} (h : disk.stat path = .ok metadata)
      (hfile : metadata.isFile = false) : Refuses disk path (.loadingFailed .notAFile)
  | noFormat (hfile : disk.IsFile path) (h : ∀ format, ¬path.Promises format) :
      Refuses disk path .unknownFileType

/-- The path is loaded by the reader of this format, whatever the readers make of it. -/
def LoadsBy (disk : Disk) (format : FileFormat) (path : Path) : Prop :=
  ∀ read, Disk.load { disk with read } path = (read format path).mapError .frame

theorem Refuses.load_eq (h : disk.Refuses path error) : disk.load path = .error error := by
  unfold Disk.load FileInfo.judge
  cases h with
  | missing h => simp [h, StatFailure.error]
  | denied h => simp [h, StatFailure.error]
  | failed h => simp [h, StatFailure.error]
  | noFile h hfile => simp [h, hfile]
  | noFormat hfile hnone =>
    obtain ⟨metadata, h, hfile⟩ := hfile
    have hformat : FileFormat.ofPath? path = none := by
      rw [Option.eq_none_iff_forall_ne_some]
      intro format hformat
      exact hnone format (FileFormat.ofPath?_eq_some_iff.mp hformat)
    simp [h, hfile, hformat]

theorem load_of_promises (hfile : disk.IsFile path) (hformat : path.Promises format) :
    disk.load path = (disk.read format path).mapError .frame := by
  obtain ⟨metadata, h, hfile⟩ := hfile
  unfold Disk.load FileInfo.judge
  simp only [h, hfile, FileFormat.ofPath?_eq_some_iff.mpr hformat, if_true]
  cases disk.read format path with
  | error reason => rfl
  | ok frame => rfl

/-- A path is refused, or there is a file of a format. -/
theorem refuses_or_promises (disk : Disk) (path : Path) :
    (∃ error, disk.Refuses path error) ∨ disk.IsFile path ∧ ∃ format, path.Promises format := by
  cases h : disk.stat path with
  | error failure =>
    left
    cases failure with
    | notFound => exact ⟨_, .missing h⟩
    | permissionDenied => exact ⟨_, .denied h⟩
    | other reason => exact ⟨_, .failed h⟩
  | ok metadata =>
    cases hfile : metadata.isFile with
    | false => exact .inl ⟨_, .noFile h hfile⟩
    | true =>
      have hthere : disk.IsFile path := ⟨metadata, h, hfile⟩
      by_cases hformat : ∃ format, path.Promises format
      · exact .inr ⟨hthere, hformat⟩
      · exact .inl ⟨_, .noFormat hthere (not_exists.mp hformat)⟩

/-- **A path is refused for the first reason there is**; all other errors are of a reader. -/
theorem load_eq_error_iff (hframe : ∀ reason, error ≠ .frame reason) :
    disk.load path = .error error ↔ disk.Refuses path error := by
  constructor
  · intro h
    rcases disk.refuses_or_promises path with ⟨first, hfirst⟩ | ⟨hfile, format, hformat⟩
    · rw [hfirst.load_eq] at h
      cases h
      exact hfirst
    · rw [load_of_promises hfile hformat] at h
      cases hread : disk.read format path with
      | error reason =>
        rw [hread] at h
        cases h
        exact absurd rfl (hframe reason)
      | ok frame =>
        rw [hread] at h
        cases h
  · exact Refuses.load_eq

/-- **The reader that loads a path** is that of the format it promises. -/
theorem loadsBy_iff : disk.LoadsBy format path ↔ disk.IsFile path ∧ path.Promises format := by
  constructor
  · intro h
    -- readers that can be told apart by what they make of a file
    let read : FileFormat → Path → Except FrameReason Frame :=
      fun other _ => .error (if other = format then .noData else .openQuote)
    have hread := h read
    rcases refuses_or_promises { disk with read } path with
      ⟨error, hrefuses⟩ | ⟨hfile, other, hother⟩
    · rw [hrefuses.load_eq] at hread
      cases hread
      cases hrefuses
    · rw [load_of_promises hfile hother] at hread
      by_cases heq : other = format
      · exact ⟨hfile, heq ▸ hother⟩
      · simp [read, heq, Except.mapError] at hread
  · rintro ⟨hfile, hformat⟩ read
    exact load_of_promises hfile hformat

/-- **Files are judged in a fixed order**, and by six extensions. A path is refused because of
what is known of it, else because it is no regular file, else because it promises no format;
if it is not refused, it is loaded by the reader of the format that it promises. It promises a
format exactly if its extension spells one of that format's in capital and small letters, and
what is promised depends on the capital form of the extension alone. -/
theorem files_judged_in_order (disk : Disk) (path : Path) :
    (∀ error, (∀ reason, error ≠ .frame reason) →
      (disk.load path = .error error ↔ disk.Refuses path error)) ∧
    (∀ format, disk.LoadsBy format path ↔ disk.IsFile path ∧ path.Promises format) ∧
    ((∃ error, disk.Refuses path error) ∨ ∃ format, disk.LoadsBy format path) ∧
    (∀ format, path.Promises format ↔ ∃ text, path.HasExtension (Utf8.encode text) ∧
      ∃ word ∈ format.extensions, Uppercase.Spells text word) ∧
    ∀ other text text', path.HasExtension (Utf8.encode text) →
      other.HasExtension (Utf8.encode text') →
      Uppercase.ofString text = Uppercase.ofString text' → disk.IsFile path → disk.IsFile other →
      ∀ format, disk.LoadsBy format path ↔ disk.LoadsBy format other := by
  refine ⟨fun error hframe => load_eq_error_iff hframe, fun format => loadsBy_iff, ?_, ?_, ?_⟩
  · rcases disk.refuses_or_promises path with hrefuses | ⟨hfile, format, hformat⟩
    · exact .inl hrefuses
    · exact .inr ⟨format, loadsBy_iff.mpr ⟨hfile, hformat⟩⟩
  · intro format
    simp only [Path.Promises, FileFormat.ofString_mem_extensions_iff]
  · intro other text text' hpath hother hcapitals hfile hfile' format
    rw [loadsBy_iff, loadsBy_iff, ← FileFormat.ofPath?_eq_some_iff,
      ← FileFormat.ofPath?_eq_some_iff, FileFormat.ofPath?_of_hasExtension hpath,
      FileFormat.ofPath?_of_hasExtension hother, hcapitals, and_iff_right hfile,
      and_iff_right hfile']

/-- A hidden file whose extension has a long s, on a way with dots and slashes behind it, is
loaded by the same reader as one whose extension has capitals. -/
theorem files_judged_in_order_long_s :
    Path.HasExtension ⟨Utf8.encode "a.d/.b.cſv/./"⟩ (Utf8.encode "cſv") ∧
      Path.HasExtension ⟨Utf8.encode "c.CSV"⟩ (Utf8.encode "CSV") ∧
      Uppercase.ofString "cſv" = Uppercase.ofString "CSV" ∧
      ∃ disk : Disk, disk.IsFile ⟨Utf8.encode "a.d/.b.cſv/./"⟩ ∧
        disk.IsFile ⟨Utf8.encode "c.CSV"⟩ ∧
        disk.LoadsBy .csv ⟨Utf8.encode "a.d/.b.cſv/./"⟩ ∧
        disk.LoadsBy .csv ⟨Utf8.encode "c.CSV"⟩ := by
  have hpath : Path.HasExtension ⟨Utf8.encode "a.d/.b.cſv/./"⟩ (Utf8.encode "cſv") := by
    refine ⟨Utf8.encode ".b", by decide, by decide,
      ⟨⟨Utf8.encode "a.d/", [[Path.dot], []], by decide, .inr ⟨Utf8.encode "a.d", by decide⟩, ?_⟩,
        by decide, ?_, by decide⟩⟩
    · simp [Path.IsIdle]
    · rintro (h | h) <;> exact absurd h (by decide)
  have hother : Path.HasExtension ⟨Utf8.encode "c.CSV"⟩ (Utf8.encode "CSV") := by
    refine ⟨Utf8.encode "c", by decide, by decide,
      ⟨⟨[], [], by decide, .inl rfl, by simp⟩, by decide, ?_, by decide⟩⟩
    rintro (h | h) <;> exact absurd h (by decide)
  have hspells : Uppercase.Spells "cſv" "CSV" ∧ Uppercase.Spells "CSV" "CSV" := by
    unfold Uppercase.Spells
    decide
  have hplain : Uppercase.IsPlain "CSV".toList := by decide
  have hcapitals : Uppercase.ofString "cſv" = Uppercase.ofString "CSV" := by
    rw [(Uppercase.ofString_eq_iff hplain).mpr hspells.1,
      (Uppercase.ofString_eq_iff hplain).mpr hspells.2]
  obtain ⟨disk, hfile⟩ : ∃ disk : Disk, ∀ path, disk.IsFile path :=
    ⟨{ stat := fun _ => .ok ⟨true, 3⟩, read := fun _ _ => .error .noData },
      fun _ => ⟨_, rfl, rfl⟩⟩
  obtain ⟨-, hloads, -, hpromises, hsame⟩ :=
    files_judged_in_order disk ⟨Utf8.encode "a.d/.b.cſv/./"⟩
  have hcsv : disk.LoadsBy .csv ⟨Utf8.encode "a.d/.b.cſv/./"⟩ := by
    refine (hloads .csv).mpr ⟨hfile _, (hpromises .csv).mpr ⟨"cſv", hpath, "CSV", ?_, hspells.1⟩⟩
    simp [FileFormat.extensions]
  exact ⟨hpath, hother, hcapitals, disk, hfile _, hfile _, hcsv,
    (hsame _ "cſv" "CSV" hpath hother hcapitals (hfile _) (hfile _) .csv).mp hcsv⟩

end Disk

end AttributeBrowser
