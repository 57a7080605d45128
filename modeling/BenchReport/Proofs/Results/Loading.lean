import BenchReport.Proofs.Json.Grammar
import BenchReport.Proofs.Record.Typed
import BenchReport.Proofs.Results.Answers
import BenchReport.Results.Load

/-!
# What loading a result file ends with

The status of a file, its size, its content, the text and the value are looked at in this order, and
the first of them that is not as it must be decides.  A list gives all its objects, in order; other
items are left out.  A text that is read by its type gives the same records.

## Main definitions

* `Json.isObject` — the values that are records.
* `Record.IsContent` — what a content gives.
* `Record.IsOutcome` — what loading a file ends with for given answers.

## Main results

* `Record.map_ofItems_eq_iff` — the objects of a list, in order, are its records.
* `Record.itemsOfContent_eq_iff` — a content gives what it is.
* `Record.readList?_eq_some_iff` — the texts that are read by their type.
* `Record.load_outcome` — **loading tells every kind of file, and keeps every record.**
-/

namespace BenchReport

/-- The value is an object. -/
def Json.isObject : Json → Bool
  | .object _ => true
  | _ => false

/-- A content is a text exactly when it is the text in UTF-8. -/
theorem fromUTF8?_eq_some_iff {content : ByteArray} {text : String} :
    String.fromUTF8? content = some text ↔ content = text.toUTF8 := by
  constructor
  · intro h
    unfold String.fromUTF8? at h
    split at h
    · obtain rfl := Option.some.inj h
      rfl
    · cases h
  · rintro rfl
    exact dif_pos text.isValidUTF8

namespace Record

/-! ### Contents -/

/-- What a content gives.  It must be a text in UTF-8, the text one value, and the value a list;
then the records are the objects of the list, all of them and in order. -/
inductive IsContent (path : Path) (content : ByteArray) : Except LoadFault (List Record) → Prop
  | noText (notText : ∀ text : String, content ≠ text.toUTF8) :
      IsContent path content (.error (.unreadable path .notText))
  | malformed {text : String} (utf8 : content = text.toUTF8)
      (noValue : ∀ v, ¬ Json.IsText text.toList v) :
      IsContent path content (.error (.malformed path))
  | notAList {text : String} {v : Json} (utf8 : content = text.toUTF8)
      (value : Json.IsText text.toList v) (other : ∀ items, v ≠ .array items) :
      IsContent path content (.error (.notAList path))
  | records {text : String} {items : List Json} {records : List Record}
      (utf8 : content = text.toUTF8) (value : Json.IsText text.toList (.array items))
      (objects : records.map toJson = items.filter Json.isObject) :
      IsContent path content (.ok records)

variable {path : Path} {content : ByteArray} {items : List Json} {records : List Record}

/-- **The records of a list are its objects**, all of them and in order. -/
theorem map_toJson_ofItems (items : List Json) :
    (ofItems items).map toJson = items.filter Json.isObject := by
  induction items with
  | nil => rfl
  | cons v items ih =>
    cases v with
    | object fields => exact congrArg (Json.object fields :: ·) ih
    | scalar s => exact ih
    | array items => exact ih

theorem toJson_injective : Function.Injective toJson := by
  intro r s h
  cases r
  cases s
  exact congrArg Record.mk (Json.object.inj h)

theorem ofItems_eq_iff :
    ofItems items = records ↔ records.map toJson = items.filter Json.isObject := by
  rw [← map_toJson_ofItems]
  exact ⟨fun h => h ▸ rfl, fun h => toJson_injective.list_map h.symm⟩

/-- **A content gives what it is.** -/
theorem map_itemsOfContent_eq_iff {r : Except LoadFault (List Record)} :
    (itemsOfContent path content).map ofItems = r ↔ IsContent path content r := by
  constructor
  · rintro rfl
    unfold itemsOfContent
    split
    · rename_i hcontent
      refine .noText fun text htext => ?_
      rw [fromUTF8?_eq_some_iff.2 htext] at hcontent
      cases hcontent
    · rename_i text htext
      have hutf8 := fromUTF8?_eq_some_iff.1 htext
      split
      · rename_i hvalue
        refine .malformed hutf8 fun v hv => ?_
        rw [Json.parse?_eq_some_iff.2 hv] at hvalue
        cases hvalue
      · rename_i items hvalue
        exact .records hutf8 (Json.parse?_eq_some_iff.1 hvalue) (map_toJson_ofItems items)
      · rename_i v hother hvalue
        refine .notAList hutf8 (Json.parse?_eq_some_iff.1 hvalue) ?_
        rintro items rfl
        exact hother items rfl
  · intro h
    cases h with
    | noText hnone =>
      have hcontent : String.fromUTF8? content = none :=
        Option.eq_none_iff_forall_ne_some.2 fun text htext =>
          hnone text (fromUTF8?_eq_some_iff.1 htext)
      rw [itemsOfContent, hcontent]
      rfl
    | malformed hutf8 hnone =>
      rename_i text
      have hvalue : Json.parse? text = none :=
        Option.eq_none_iff_forall_ne_some.2 fun v hv => hnone v (Json.parse?_eq_some_iff.1 hv)
      simp only [itemsOfContent, fromUTF8?_eq_some_iff.2 hutf8, hvalue]
      rfl
    | notAList hutf8 hvalue hother =>
      rename_i text v
      simp only [itemsOfContent, fromUTF8?_eq_some_iff.2 hutf8, Json.parse?_eq_some_iff.2 hvalue]
      cases v with
      | array items => exact absurd rfl (hother items)
      | _ => rfl
    | records hutf8 hvalue hobjects =>
      simp only [itemsOfContent, fromUTF8?_eq_some_iff.2 hutf8, Json.parse?_eq_some_iff.2 hvalue]
      rw [← ofItems_eq_iff.2 hobjects]
      rfl

/-- The texts that are read by their type are those of a list of objects. -/
theorem readList?_eq_some_iff {text : String} :
    readList? text = some records ↔ Json.IsText text.toList (.array (records.map toJson)) := by
  rw [readList?_eq, Option.bind_eq_some_iff]
  simp only [Json.parse?_eq_some_iff, listOfJson?_eq_some_iff]
  constructor
  · rintro ⟨v, hv, rfl⟩
    exact hv
  · exact fun h => ⟨_, h, rfl⟩

/-- **A text that is read by its type gives the same records.** -/
theorem isContent_of_readList? {text : String} (h : readList? text = some records) :
    IsContent path text.toUTF8 (.ok records) := by
  refine .records rfl (readList?_eq_some_iff.1 h) ?_
  refine (List.filter_eq_self.2 fun v hv => ?_).symm
  obtain ⟨r, -, rfl⟩ := List.mem_map.1 hv
  rfl

/-! ### Files -/

/-- What loading a file ends with, when its status and its content are answered so. -/
inductive IsOutcome (answers : Answers) (path : Path) (limit : Nat) :
    Except LoadFault (List Record) → Prop
  | noStatus {e : AccessError} (status : answers (.status path) = Except.error e) :
      IsOutcome answers path limit (.error (.unreadable path e))
  | tooLarge {found : Status} (status : answers (.status path) = Except.ok found)
      (large : limit < found.size) :
      IsOutcome answers path limit (.error (.tooLarge path found.size limit))
  | unread {found : Status} {e : AccessError} (status : answers (.status path) = Except.ok found)
      (fits : found.size ≤ limit) (read : answers (.read path) = Except.error e) :
      IsOutcome answers path limit (.error (.unreadable path e))
  | read {found : Status} {content : ByteArray} {r : Except LoadFault (List Record)}
      (status : answers (.status path) = Except.ok found) (fits : found.size ≤ limit)
      (read : answers (.read path) = Except.ok content) (gives : IsContent path content r) :
      IsOutcome answers path limit r

variable {answers : Answers} {limit : Nat}

/-- Skipping items is only reported. -/
theorem result_tryLoad (answers : Answers) (path : Path) (limit : Nat) :
    (tryLoad path limit).result answers =
      ((readItems path limit).result answers).map ofItems := by
  rw [tryLoad, Job.result_bind]
  cases (readItems path limit).result answers with
  | error fault => rfl
  | ok items => simp [Except.map]

theorem result_readItems (answers : Answers) (path : Path) (limit : Nat) :
    (readItems path limit).result answers =
      match (answers (.status path) : Except AccessError Status) with
      | .error e => .error (.unreadable path e)
      | .ok status =>
          if limit < status.size then .error (.tooLarge path status.size limit)
          else match (answers (.read path) : Except AccessError ByteArray) with
            | .error e => .error (.unreadable path e)
            | .ok content => itemsOfContent path content := by
  rw [readItems, Job.result_bind, Job.result_status]
  cases (answers (.status path) : Except AccessError Status) with
  | error e => rfl
  | ok status =>
    by_cases hlarge : limit < status.size
    · simp only [LoadFault.checkSize, if_pos hlarge]
      rfl
    · simp only [LoadFault.checkSize, if_neg hlarge, Job.result_bind, Job.result_read]
      cases (answers (.read path) : Except AccessError ByteArray) <;> rfl

/-- **Loading a file ends with what its status and content say.** -/
theorem result_tryLoad_eq_iff {r : Except LoadFault (List Record)} :
    (tryLoad path limit).result answers = r ↔ IsOutcome answers path limit r := by
  rw [result_tryLoad, result_readItems]
  constructor
  · rintro rfl
    cases hstatus : (answers (.status path) : Except AccessError Status) with
    | error e => exact .noStatus hstatus
    | ok status =>
      simp only
      split
      · rename_i hlarge
        exact .tooLarge hstatus hlarge
      · rename_i hfits
        cases hread : (answers (.read path) : Except AccessError ByteArray) with
        | error e => exact .unread hstatus (Nat.not_lt.1 hfits) hread
        | ok content =>
          exact .read hstatus (Nat.not_lt.1 hfits) hread (map_itemsOfContent_eq_iff.1 rfl)
  · intro h
    cases h with
    | noStatus hstatus =>
      rw [hstatus]
      rfl
    | tooLarge hstatus hlarge =>
      rw [hstatus]
      simp only [if_pos hlarge]
      rfl
    | unread hstatus hfits hread =>
      rw [hstatus, hread]
      simp only [if_neg (Nat.not_lt.2 hfits)]
      rfl
    | read hstatus hfits hread hgives =>
      rw [hstatus, hread]
      simp only [if_neg (Nat.not_lt.2 hfits)]
      exact map_itemsOfContent_eq_iff.2 hgives

/-- Whatever a file has instead of records, none are loaded. -/
theorem result_load (answers : Answers) (file : ResultFile) (limit : Nat) :
    (load (some file) limit).result answers =
      ((tryLoad file.path limit).result answers).toOption.getD [] := by
  rw [load, Job.result_bind]
  cases (tryLoad file.path limit).result answers <;> rfl

theorem keepsAnswers_tryLoad (path : Path) (limit : Nat) :
    (tryLoad path limit).KeepsAnswers := by
  have hitems : (readItems path limit).KeepsAnswers := by
    refine (Job.keepsAnswers_status path).bind fun status => ?_
    split
    · exact Job.keepsAnswers_pure _
    · split
      · exact Job.keepsAnswers_pure _
      · refine (Job.keepsAnswers_read path).bind fun content => ?_
        split <;> exact Job.keepsAnswers_pure _
  refine hitems.bind fun items => ?_
  cases items with
  | error fault => exact Job.keepsAnswers_pure _
  | ok items =>
    exact (Job.keepsAnswers_forEach (fun _ => Job.keepsAnswers_note _) _).bind fun _ =>
      Job.keepsAnswers_pure _

theorem keepsAnswers_load (file : Option ResultFile) (limit : Nat) :
    (load file limit).KeepsAnswers := by
  cases file with
  | none => exact Job.keepsAnswers_pure []
  | some file =>
    refine (keepsAnswers_tryLoad file.path limit).bind fun records => ?_
    cases records <;> exact (Job.keepsAnswers_note _).bind fun _ => Job.keepsAnswers_pure _

/-- **Loading tells every kind of file, and keeps every record.**

For any answers a file has the one outcome that they give; its records are loaded, and none when
there is an error or no file.  A text that is read by its type gives the same records.  A world
loads what its answers give. -/
theorem load_outcome (limit : Nat) :
    (∀ (answers : Answers) (path : Path) (r : Except LoadFault (List Record)),
      (tryLoad path limit).result answers = r ↔ IsOutcome answers path limit r) ∧
    (∀ answers : Answers, (load none limit).result answers = []) ∧
    (∀ (answers : Answers) (file : ResultFile),
      (∀ records, IsOutcome answers file.path limit (.ok records) →
        (load (some file) limit).result answers = records) ∧
      ∀ fault, IsOutcome answers file.path limit (.error fault) →
        (load (some file) limit).result answers = []) ∧
    (∀ (path : Path) (text : String) (records : List Record), readList? text = some records →
      (itemsOfContent path text.toUTF8).map ofItems = .ok records) ∧
    ∀ w : World, (∀ path, ((tryLoad path limit).run w).1 =
        (tryLoad path limit).result w.answers) ∧
      ∀ file, ((load file limit).run w).1 = (load file limit).result w.answers := by
  refine ⟨fun answers path r => result_tryLoad_eq_iff, fun answers => rfl,
    fun answers file => ⟨fun records h => ?_, fun fault h => ?_⟩, fun path text records h => ?_,
    fun w => ⟨fun path => ?_, fun file => ?_⟩⟩
  · rw [result_load, result_tryLoad_eq_iff.2 h]
    rfl
  · rw [result_load, result_tryLoad_eq_iff.2 h]
    rfl
  · exact map_itemsOfContent_eq_iff.2 (isContent_of_readList? h)
  · exact Job.fst_run (keepsAnswers_tryLoad path limit) w
  · exact Job.fst_run (keepsAnswers_load file limit) w

/-- Two records, the first with a repeated key, and between them items that are no records. -/
def mixedText : String := "[\x7b\"n\":1,\"n\":2\x7d,7,[],\x7b\x7d]"

/-- A list of one record with a repeated key. -/
def typedText : String := "[\x7b\"n\":1,\"n\":2\x7d]"

/-- The record of an object whose last member with a repeated key is this number. -/
def twoRecord : Record := ⟨[("n", .scalar (.number (.integer 2)))]⟩

/-- A file with some text. -/
def mixedFile : ResultFile := ⟨⟨"m"⟩, ⟨0, 0, secondNanos_pos⟩⟩

/-- A store with that file. -/
def mixedFileStore : Store where
  entries := [([.text "m"], .file mixedText.toUTF8 ⟨0, 0, secondNanos_pos⟩)]
  distinct := by decide

/-- The answers from that store. -/
def mixedFileAnswers : Answers := (World.quiet mixedFileStore ⟨0, 0, secondNanos_pos⟩).answers

/-- **A file of just the allowed size is loaded, and none that has one byte more**; what is read by
its type is the same. -/
theorem load_outcome_mixedText :
    (load (some mixedFile) 23).result mixedFileAnswers = [twoRecord, empty] ∧
    (load (some mixedFile) 22).result mixedFileAnswers = [] ∧
    (itemsOfContent mixedFile.path typedText.toUTF8).map ofItems = .ok [twoRecord] := by
  have hscan : Token.scan? mixedText.toList = some [.beginArray, .beginObject,
      .scalar (.string "n"), .colon, .scalar (.number (.integer 1)), .comma,
      .scalar (.string "n"), .colon, .scalar (.number (.integer 2)), .endObject, .comma,
      .scalar (.number (.integer 7)), .comma, .beginArray, .endArray, .comma, .beginObject,
      .endObject, .endArray] := by decide +kernel
  have htyped : Token.scan? typedText.toList = some [.beginArray, .beginObject,
      .scalar (.string "n"), .colon, .scalar (.number (.integer 1)), .comma,
      .scalar (.string "n"), .colon, .scalar (.number (.integer 2)), .endObject, .endArray] := by
    decide +kernel
  have hvalue : Json.IsText mixedText.toList (.array [twoRecord.toJson,
      .scalar (.number (.integer 7)), .array [], empty.toJson]) := by
    rw [← Json.parse?_eq_some_iff, Json.parse?, Json.parseChars?, hscan]
    rfl
  have hread : readList? typedText = some [twoRecord] := by
    rw [readList?, htyped]
    rfl
  have hstatus : mixedFileStore.status mixedFile.path = .ok (.file 23 mixedFile.modified) := by
    decide +kernel
  have hcontent : mixedFileStore.read mixedFile.path = .ok mixedText.toUTF8 := by
    decide +kernel
  have hlist : IsOutcome mixedFileAnswers mixedFile.path 23 (.ok [twoRecord, empty]) :=
    .read hstatus (Nat.le_refl _) hcontent (.records rfl hvalue rfl)
  have hlarge : IsOutcome mixedFileAnswers mixedFile.path 22
      (.error (.tooLarge mixedFile.path (Status.file 23 mixedFile.modified).size 22)) :=
    .tooLarge hstatus (Nat.lt_succ_self _)
  exact ⟨((load_outcome 23).2.2.1 mixedFileAnswers mixedFile).1 _ hlist,
    ((load_outcome 22).2.2.1 mixedFileAnswers mixedFile).2 _ hlarge,
    (load_outcome 0).2.2.2.1 _ _ _ hread⟩

end Record

end BenchReport
