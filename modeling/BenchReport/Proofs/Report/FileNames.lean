import BenchReport.Proofs.Calendar.Written
import BenchReport.Proofs.Document.Faithfulness
import BenchReport.Publication

/-!
# The names of documents

The name of a document tells when its report was made, to the second, and in which format it is.
Sorted by their names, the documents of one format are in the order in which they were made.

## Main results

* `Report.fileName_eq_iff` — names are the same for the same second and format only.
* `Report.bytes_fileName_lt_iff` — the order of names.
* `Report.fileName_identifies` — **names identify and order runs.**
-/

namespace BenchReport

theorem Format.extension_injective : Function.Injective extension := by
  intro f g
  cases f <;> cases g <;> decide

theorem Format.dot_notMem_extension (format : Format) : '.' ∉ format.extension.toList := by
  cases format <;> decide

namespace Report

theorem toList_fileName (t : Instant) (format : Format) : (fileName t format).toList =
    "report_".toList ++ (t.fileStem.toList ++ '.' :: format.extension.toList) := by
  simp only [fileName, String.toList_append, List.append_assoc]
  rfl

/-- The only point of a name stands before its extension. -/
theorem fileName_eq_iff {t u : Instant} {f g : Format} :
    fileName t f = fileName u g ↔ t.seconds = u.seconds ∧ f = g := by
  have hdot (t : Instant) : '.' ∉ t.fileStem.toList := t.notMem_fileStem rfl (by decide)
  rw [← String.toList_inj, toList_fileName, toList_fileName, List.append_cancel_left_eq]
  constructor
  · intro h
    obtain ⟨hstem, hextension⟩ := Markup.eq_and_eq_of_append_cons (hdot t) (hdot u) h
    exact ⟨Instant.fileStem_eq_iff.1 (String.toList_inj.1 hstem),
      Format.extension_injective (String.toList_inj.1 hextension)⟩
  · rintro ⟨hseconds, rfl⟩
    rw [Instant.fileStem_eq_iff.2 hseconds]

/-- In one format the byte order of names is the order of their seconds. -/
theorem bytes_fileName_lt_iff {t u : Instant} (ht : t.HasFourDigitYear)
    (hu : u.HasFourDigitYear) (format : Format) :
    Text.bytes (fileName t format) < Text.bytes (fileName u format) ↔ t.seconds < u.seconds := by
  rw [Text.bytes_eq, Text.bytes_eq, toList_fileName, toList_fileName, Text.encode_append_lt_iff,
    Instant.fileStem_append_lt_iff ht hu]
  simp only [Text.not_encode_lt_self, and_false, or_false]

/-- **The names of documents identify and order runs.**  They are the same for the same second and
format only.  Documents of one time share what stands before the extension, from which the second
can be read.  In one format names are ordered by their bytes as times are, as long as years have
four digits. -/
theorem fileName_identifies (t u : Instant) (f g : Format) :
    (fileName t f = fileName u g ↔ t.seconds = u.seconds ∧ f = g) ∧
      (∃ stem, Instant.secondOf? stem = some t.seconds ∧ ∀ format : Format,
        fileName t format = "report_" ++ stem ++ "." ++ format.extension ∧
          '.' ∉ format.extension.toList) ∧
      (t.HasFourDigitYear → u.HasFourDigitYear →
        (Text.bytes (fileName t f) < Text.bytes (fileName u f) ↔ t.seconds < u.seconds)) :=
  ⟨fileName_eq_iff, ⟨t.fileStem, t.secondOf?_fileStem, fun format =>
    ⟨rfl, format.dot_notMem_extension⟩⟩, fun ht hu => bytes_fileName_lt_iff ht hu f⟩

/-- The last second of a leap day and the first one of March. -/
theorem fileName_identifies_leapDay :
    Text.bytes (fileName ⟨1709251199, 999999999, by decide⟩ .html) <
      Text.bytes (fileName ⟨1709251200, 0, by decide⟩ .html) :=
  ((fileName_identifies ⟨1709251199, 999999999, by decide⟩ ⟨1709251200, 0, by decide⟩ .html
    .html).2.2 ⟨by decide, by decide⟩ ⟨by decide, by decide⟩).2 (by decide)

end Report

end BenchReport
