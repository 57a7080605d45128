import BenchReport.Proofs.Files.Rewrite
import BenchReport.Proofs.Results.Looking

/-!
# Suites do not share result files

The names of two suites' result files begin differently, so in a folder without links no
file is read for two suites.  Replacing the content of one suite's file therefore leaves
what is found for the other suites as it is, and even for its own suite the same file is
found.

## Main results

* `ResultFile.hasPattern_iff`, `ResultFile.suite_eq_of_hasPattern` — which names have the pattern of
  a key, and that no name has the patterns of two suites.
* `ResultFile.exists_of_newestIn` — where a found file is and what its name is.
* `ResultFile.newestIn_eq` — finding a file does not depend on any content.
* `SuiteResults.inStore_rewrite_of_ne` — **the results of the other suites stay.**
* `SuiteResults.file_inStore_rewrite` — the suite's own result file stays.
* `Inputs.suite_of_file` — **every result file has one suite.**
-/

namespace BenchReport

/-! ### Names of result files -/

namespace Suite

theorem eq_of_head?_key {a b : Suite} (h : a.key.toList.head? = b.key.toList.head?) : a = b := by
  revert h
  cases a <;> cases b <;> decide

theorem key_toList_ne_nil (suite : Suite) : suite.key.toList ≠ [] := by
  cases suite <;> decide

end Suite

namespace ResultFile

/-- The ending is taken off exactly the names that have it. -/
theorem stem?_eq_some_iff {name stem : List Char} :
    stem? name = some stem ↔ name = stem ++ ending := by
  rw [stem?]
  constructor
  · intro h
    split at h
    · rename_i hending
      obtain ⟨front, rfl⟩ := List.isSuffixOf_iff_suffix.1 hending
      obtain rfl : front = stem := by simpa using h
      rfl
    · cases h
  · rintro rfl
    rw [if_pos (List.isSuffixOf_iff_suffix.2 (List.suffix_append stem ending))]
    simp

/-- **A name has the pattern of a key** when it is the key, an underscore, anything, and the
ending. -/
theorem hasPattern_iff {key name : List Char} :
    hasPattern key name = true ↔ ∃ middle, name = key ++ '_' :: middle ++ ending := by
  rw [hasPattern]
  constructor
  · intro h
    split at h
    · rename_i stem hstem
      obtain ⟨middle, rfl⟩ := List.isPrefixOf_iff_prefix.1 h
      exact ⟨middle, by simpa using stem?_eq_some_iff.1 hstem⟩
    · cases h
  · rintro ⟨middle, rfl⟩
    rw [stem?_eq_some_iff.2 rfl]
    exact List.isPrefixOf_iff_prefix.2 ⟨middle, by simp⟩

/-- A name with the pattern of a key begins with the key and an underscore. -/
theorem exists_of_hasPattern {key name : List Char} (h : hasPattern key name = true) :
    ∃ rest, name = key ++ '_' :: rest := by
  obtain ⟨middle, rfl⟩ := hasPattern_iff.1 h
  exact ⟨middle ++ ending, by simp⟩

theorem head?_of_hasPattern {suite : Suite} {name : List Char}
    (h : hasPattern suite.key.toList name = true) : name.head? = suite.key.toList.head? := by
  obtain ⟨rest, rfl⟩ := exists_of_hasPattern h
  obtain ⟨c, key, hkey⟩ := List.exists_cons_of_ne_nil (Suite.key_toList_ne_nil suite)
  rw [hkey, List.cons_append, List.head?_cons, List.head?_cons]

/-- **No name has the pattern of two suites.** -/
theorem suite_eq_of_hasPattern {a b : Suite} {name : List Char}
    (ha : hasPattern a.key.toList name = true) (hb : hasPattern b.key.toList name = true) :
    a = b :=
  Suite.eq_of_head?_key ((head?_of_hasPattern ha).symm.trans (head?_of_hasPattern hb))

/-- The name of a result file is a step into a folder. -/
theorem stepOf?_of_hasPattern {key : List Char} {name : String}
    (h : hasPattern key name.toList = true) (hkey : key ≠ []) :
    Path.stepOf? name.toList = some (.into name) := by
  obtain ⟨rest, hrest⟩ := exists_of_hasPattern h
  apply Path.stepOf?_eq_into
  · rintro rfl
    simp at hrest
  · rintro rfl
    cases key with
    | nil => exact hkey rfl
    | cons c key => simp at hrest
  · rintro rfl
    obtain ⟨c, key, rfl⟩ := List.exists_cons_of_ne_nil hkey
    cases key <;> simp at hrest

/-! ### Where a found file is -/

theorem foldl_newer_mem (first : ResultFile) (rest : List ResultFile) :
    rest.foldl newer first ∈ first :: rest := by
  induction rest generalizing first with
  | nil => exact List.mem_cons_self
  | cons second rest ih =>
    rw [List.foldl_cons]
    -- the newer of the first two takes the place of both
    rcases List.mem_cons.1 (ih (newer first second)) with h | h
    · rw [h, newer]
      split
      · exact List.mem_cons_of_mem _ List.mem_cons_self
      · exact List.mem_cons_self
    · exact List.mem_cons_of_mem _ (List.mem_cons_of_mem _ h)

theorem mem_of_newest? {files : List ResultFile} {file : ResultFile}
    (h : newest? files = some file) : file ∈ files := by
  cases files with
  | nil => cases h
  | cons first rest => exact Option.some.inj h ▸ foldl_newer_mem first rest

variable {s t : Store} {folder : Path} {key : String} {file : ResultFile}

/-- A file that a name stands for is that name's entry, and its time is the entry's. -/
theorem exists_of_namedIn {name : FileName} (h : namedIn folder key s name = some file) :
    ∃ text size, name = .text text ∧ hasPattern key.toList text.toList = true ∧
      file.path = folder.join ⟨text⟩ ∧ s.status file.path = .ok (.file size file.modified) := by
  cases name with
  | raw bytes => cases h
  | text text =>
    rw [namedIn, FileName.text?] at h
    simp only at h
    split at h
    · rename_i hpattern
      cases hstatus : s.status (folder.join ⟨text⟩) with
      | error e => rw [hstatus] at h; cases h
      | ok status =>
        rw [hstatus] at h
        cases status with
        | folder => cases h
        | file size modified =>
          obtain rfl := Option.some.inj h
          exact ⟨text, size, rfl, hpattern, rfl, hstatus⟩
    · cases h

/-- A found file is an entry of the folder with a name of the pattern. -/
theorem exists_of_newestIn (h : newestIn folder key s = some file) :
    ∃ location text size, s.resolve .look folder = .ok (.folder location) ∧
      FileName.text text ∈ s.names location ∧ hasPattern key.toList text.toList = true ∧
      file.path = folder.join ⟨text⟩ ∧ s.status file.path = .ok (.file size file.modified) := by
  rw [newestIn] at h
  cases hlist : s.list folder with
  | error e => rw [hlist] at h; cases h
  | ok names =>
    rw [hlist] at h
    obtain ⟨name, hname, hnamed⟩ := List.mem_filterMap.1 (mem_of_newest? h)
    obtain ⟨text, size, rfl, hpattern, hpath, hstatus⟩ := exists_of_namedIn hnamed
    obtain ⟨place, hfolder, hnames⟩ := bind_eq_ok.1 hlist
    cases place with
    | file location content modified => cases hnames
    | vacant around name => cases hnames
    | folder location =>
      obtain rfl := Except.ok.inj hnames
      exact ⟨location, text, size, hfolder, hname, hpattern, hpath, hstatus⟩

/-- The path of a found file leads to the entry with the file's name. -/
theorem exists_place_of_newestIn (hnames : s.WellNamed) (hlinks : s.Linkless folder)
    (hkey : key.toList ≠ []) (h : newestIn folder key s = some file) :
    ∃ location text content, s.resolve .look folder = .ok (.folder location) ∧
      hasPattern key.toList text.toList = true ∧ s.resolve .look file.path =
        .ok (.file (.text text :: location) content file.modified) := by
  obtain ⟨location, text, size, hfolder, hname, hpattern, hpath, hstatus⟩ :=
    exists_of_newestIn h
  have hslash : '/' ∉ text.toList := hnames.notMem_of_mem_names hname
  have hplace := Store.resolve_join hfolder hslash (stepOf?_of_hasPattern hpattern hkey)
    fun target => hlinks location (.text text) target hfolder
  rw [← hpath] at hplace
  -- the status of the file and the entry of its name come from the same walk
  obtain ⟨place, hthere, hfile⟩ := bind_eq_ok.1 hstatus
  obtain ⟨_, -, hentry⟩ := bind_eq_ok.1 (hplace.symm.trans hthere)
  cases place with
  | folder here => cases hfile
  | vacant around name => cases hfile
  | file here content modified =>
    obtain ⟨-, rfl⟩ := Status.file.inj (Except.ok.inj hfile)
    obtain rfl := Store.eq_of_entry hentry
    exact ⟨location, text, content, hfolder, hpattern, hthere⟩

/-! ### Another content -/

variable {location : Location} {content : ByteArray}

theorem namedIn_eq (same : s.SameBut t location content) (folder : Path) (key : String)
    (name : FileName) : namedIn folder key t name = namedIn folder key s name := by
  cases name with
  | raw bytes => rfl
  | text text =>
    simp only [namedIn, FileName.text?, Store.status, same.resolve_eq]
    cases s.resolve .look (folder.join ⟨text⟩) with
    | error e => rfl
    | ok place => cases place <;> rfl

/-- **Finding a file does not depend on any content.** -/
theorem newestIn_eq (same : s.SameBut t location content) (folder : Path) (key : String) :
    newestIn folder key t = newestIn folder key s := by
  rw [newestIn, newestIn, same.list_eq, funext (namedIn_eq same folder key)]

end ResultFile

theorem Record.inFile_eq_of_ne {s t : Store} {location : Location} {content : ByteArray}
    {path : Path} (same : s.SameBut t location content)
    (hne : ∀ old modified, s.resolve .look path ≠ .ok (.file location old modified))
    (limit : Nat) : inFile limit t path = inFile limit s path := by
  rw [inFile, inFile, itemsIn, itemsIn, Store.status, Store.status, Store.read, Store.read,
    same.resolve_eq_of_ne hne]

/-! ### Results of other suites -/

namespace SuiteResults

variable {settings : Settings} {s : Store} {suite other : Suite} {file : ResultFile}

/-- A suite's result file, with another content, is still at its place. -/
theorem exists_sameBut_rewrite (hnames : s.WellNamed) (hlinks : s.Linkless settings.resultsFolder)
    (hfile : (inStore settings s suite).file = some file) (content : ByteArray) :
    ∃ location text, s.resolve .look settings.resultsFolder = .ok (.folder location) ∧
      ResultFile.hasPattern suite.key.toList text.toList = true ∧
      s.SameBut (s.rewrite file.path content) (.text text :: location) content := by
  obtain ⟨location, text, old, hfolder, hpattern, hplace⟩ :=
    ResultFile.exists_place_of_newestIn hnames hlinks suite.key_toList_ne_nil hfile
  exact ⟨location, text, hfolder, hpattern, Store.sameBut_rewrite hplace content⟩

/-- **The results of the other suites stay**, whatever the content becomes. -/
theorem inStore_rewrite_of_ne (hnames : s.WellNamed)
    (hlinks : s.Linkless settings.resultsFolder)
    (hfile : (inStore settings s suite).file = some file) (hother : other ≠ suite)
    (content : ByteArray) :
    inStore settings (s.rewrite file.path content) other = inStore settings s other := by
  obtain ⟨location, text, hfolder, hpattern, same⟩ :=
    exists_sameBut_rewrite hnames hlinks hfile content
  have hfound := ResultFile.newestIn_eq same settings.resultsFolder other.key
  have hrecords : (ResultFile.newestIn settings.resultsFolder other.key s).map
      (fun f => Record.inFile settings.maxFileSize (s.rewrite file.path content) f.path) =
      (ResultFile.newestIn settings.resultsFolder other.key s).map
        fun f => Record.inFile settings.maxFileSize s f.path := by
    apply Option.map_congr
    intro found hnewest
    apply Record.inFile_eq_of_ne same
    intro old modified hplace
    -- a file of both suites would have a name with both patterns
    obtain ⟨location', text', content', -, hpattern', hplace'⟩ :=
      ResultFile.exists_place_of_newestIn hnames hlinks other.key_toList_ne_nil hnewest
    rw [hplace] at hplace'
    obtain ⟨hlocation, -, -⟩ := Store.Place.file.inj (Except.ok.inj hplace')
    have htext : text = text' := FileName.text.inj (List.cons.inj hlocation).1
    exact hother (ResultFile.suite_eq_of_hasPattern (htext ▸ hpattern') hpattern)
  rw [inStore, inStore, hfound, hrecords]

/-- The suite's own result file stays. -/
theorem file_inStore_rewrite (hnames : s.WellNamed)
    (hlinks : s.Linkless settings.resultsFolder)
    (hfile : (inStore settings s suite).file = some file) (content : ByteArray) (any : Suite) :
    (inStore settings (s.rewrite file.path content) any).file = (inStore settings s any).file := by
  obtain ⟨location, text, hfolder, hpattern, same⟩ :=
    exists_sameBut_rewrite hnames hlinks hfile content
  exact ResultFile.newestIn_eq same _ _

end SuiteResults

/-! ### The suite of a result file -/

namespace ResultFile

theorem isAbsolute_eq_false_of_hasPattern {suite : Suite} {name : String}
    (h : hasPattern suite.key.toList name.toList = true) :
    (⟨name⟩ : Path).isAbsolute = false := by
  rw [Path.isAbsolute, head?_of_hasPattern h]
  cases suite <;> decide

/-- A name in full that has the pattern of a key. -/
theorem hasPattern_toList_iff {key name : String} :
    hasPattern key.toList name.toList = true ↔
      ∃ middle : String, name = key ++ "_" ++ middle ++ ".json" := by
  rw [hasPattern_iff]
  constructor
  · rintro ⟨middle, hname⟩
    refine ⟨String.ofList middle, String.toList_inj.1 ?_⟩
    simp [hname, ending]
  · rintro ⟨middle, rfl⟩
    exact ⟨middle.toList, by simp [ending]⟩

end ResultFile

namespace Inputs

variable {settings : Settings} {w : World} {suite : Suite} {file : ResultFile}

/-- The file that is found for a suite is in the folder of the results, and its name has the
pattern of the suite. -/
theorem exists_name_of_file
    (h : (((collect settings).run w).1.results suite).file = some file) :
    ∃ name : String, ResultFile.hasPattern suite.key.toList name.toList = true ∧
      file.path = settings.resultsFolder.join ⟨name⟩ := by
  rw [results_collect] at h
  obtain ⟨-, name, -, -, -, hpattern, hpath, -⟩ := ResultFile.exists_of_newestIn h
  exact ⟨name, hpattern, hpath⟩

/-- **Every result file has one suite.**

Whatever the key is, a name has its pattern exactly when it is the key, an underscore, any text or
none, and the ending.  No name has the patterns of two suites.  So a file that is found for a suite
has a name of that suite's pattern, and it is found for no other suite. -/
theorem suite_of_file :
    (∀ key name : String, ResultFile.hasPattern key.toList name.toList = true ↔
      ∃ middle : String, name = key ++ "_" ++ middle ++ ".json") ∧
    (∀ (a b : Suite) (name : String), ResultFile.hasPattern a.key.toList name.toList = true →
      ResultFile.hasPattern b.key.toList name.toList = true → a = b) ∧
    ∀ (settings : Settings) (w : World) (a : Suite) (file : ResultFile),
      (((collect settings).run w).1.results a).file = some file →
      (∃ middle : String,
        file.path = settings.resultsFolder.join ⟨a.key ++ "_" ++ middle ++ ".json"⟩) ∧
      ∀ (b : Suite) (other : ResultFile),
        (((collect settings).run w).1.results b).file = some other → file.path = other.path →
        a = b := by
  refine ⟨fun key name => ResultFile.hasPattern_toList_iff,
    fun a b name => ResultFile.suite_eq_of_hasPattern, fun settings w a file hfile => ?_⟩
  obtain ⟨name, hname, hpath⟩ := exists_name_of_file hfile
  constructor
  · obtain ⟨middle, rfl⟩ := ResultFile.hasPattern_toList_iff.1 hname
    exact ⟨middle, hpath⟩
  · intro b other hother hsame
    obtain ⟨name', hname', hpath'⟩ := exists_name_of_file hother
    -- files with one path have one name
    rw [hpath, hpath'] at hsame
    obtain rfl := Path.join_inj (ResultFile.isAbsolute_eq_false_of_hasPattern hname)
      (ResultFile.isAbsolute_eq_false_of_hasPattern hname') hsame
    exact ResultFile.suite_eq_of_hasPattern hname hname'

/-- A folder with a file of the server whose name goes on as one of the cache's files. -/
def nestedNames : Store :=
  (Store.empty.put [.text "r"] .folder).put [.text "server_cache_.json", .text "r"]
    (.file "[]".toUTF8 ⟨2, 0, secondNanos_pos⟩)

theorem suite_of_nestedNames :
    let found := ((collect (.new ⟨"r"⟩)).run (.quiet nestedNames ⟨3, 0, secondNanos_pos⟩)).1
    (found.results .server).file = some ⟨⟨"r/server_cache_.json"⟩, ⟨2, 0, secondNanos_pos⟩⟩ ∧
    (∃ middle : String, (⟨"r/server_cache_.json"⟩ : Path) =
      (⟨"r"⟩ : Path).join ⟨Suite.server.key ++ "_" ++ middle ++ ".json"⟩) ∧
    ResultFile.hasPattern Suite.server.key.toList "server_cache_.json".toList = true ∧
    ResultFile.hasPattern Suite.cache.key.toList "server_cache_.json".toList = false := by
  intro found
  have hserver : (found.results .server).file =
      some ⟨⟨"r/server_cache_.json"⟩, ⟨2, 0, secondNanos_pos⟩⟩ := by
    rw [results_collect]
    decide +kernel
  obtain ⟨hpattern, hsuites, hfiles⟩ := suite_of_file
  have hname := (hpattern Suite.server.key "server_cache_.json").2 ⟨"cache_", by decide⟩
  refine ⟨hserver, (hfiles _ _ _ _ hserver).1, hname, ?_⟩
  -- a name of the server's pattern has no other suite's
  exact Bool.eq_false_iff.2 fun h => absurd (hsuites .server .cache _ hname h) (by decide)

end Inputs

end BenchReport
